import Mathlib.Tactic.Common
import ScriptSurvey.Text.Search

/-!
# Occurrences of a text

A search from left to right passes over the text that it has found, so it finds some occurrences and
not others. Each occurrence that it does not find overlaps one that it found before.
-/
namespace ScriptSurvey.Text

/-! ## Sizes in bytes -/

def size (text : List Char) : ℕ := (text.flatMap String.utf8EncodeChar).length

section

variable {text line : List Char}

@[simp] lemma size_nil : size [] = 0 := rfl

@[simp] lemma size_cons (c : Char) (rest : List Char) : size (c :: rest) = c.utf8Size + size rest := by
  rw [size, List.flatMap_cons, List.length_append, String.length_utf8EncodeChar, size]

@[simp] lemma size_append (front back : List Char) : size (front ++ back) = size front + size back := by
  rw [size, List.flatMap_append, List.length_append, size, size]

lemma size_pos (h : text ≠ []) : 0 < size text := by
  obtain ⟨c, rest, rfl⟩ := List.exists_cons_of_ne_nil h
  rw [size_cons]
  exact Nat.lt_add_right _ c.utf8Size_pos

lemma size_lt_iff {front : List Char} (hfront : front <+: line) (htext : text <+: line) :
    size front < size text ↔ front.length < text.length := by
  rcases Nat.lt_or_ge front.length text.length with hlt | hle
  · refine iff_of_true ?_ hlt
    obtain ⟨rest, rfl⟩ := List.prefix_of_prefix_length_le hfront htext (Nat.le_of_lt hlt)
    have hrest : rest ≠ [] := fun hnil => by simp [hnil] at hlt
    have := size_pos hrest
    rw [size_append]
    omega
  · refine iff_of_false ?_ (Nat.not_lt.mpr hle)
    obtain ⟨rest, rfl⟩ := List.prefix_of_prefix_length_le htext hfront hle
    rw [size_append]
    omega

end

/-! ## Occurrences -/

/-- The text stands in the line, with so many bytes in front of it. -/
def OccursAt (text line : List Char) (offset : ℕ) : Prop :=
  ∃ front back, line = front ++ text ++ back ∧ size front = offset

section

variable {needle text line : List Char} {offset skip : ℕ}

lemma occursAt_of_mem_occurrencesFrom {o : ℕ} (h : o ∈ occurrencesFrom needle offset skip line) :
    ∃ front back, line = front ++ needle ++ back ∧ offset + size front = o := by
  fun_induction occurrencesFrom needle offset skip line with
  | case1 => cases h
  | case2 offset skip c rest ih =>
    obtain ⟨front, back, rfl, rfl⟩ := ih h
    exact ⟨c :: front, back, rfl, by rw [size_cons, Nat.add_assoc]⟩
  | case3 offset c rest hprefix ih =>
    rcases List.mem_cons.mp h with rfl | h
    · obtain ⟨back, hback⟩ := List.isPrefixOf_iff_prefix.mp hprefix
      exact ⟨[], back, hback.symm, rfl⟩
    · obtain ⟨front, back, rfl, rfl⟩ := ih h
      exact ⟨c :: front, back, rfl, by rw [size_cons, Nat.add_assoc]⟩
  | case4 offset c rest hprefix ih =>
    obtain ⟨front, back, rfl, rfl⟩ := ih h
    exact ⟨c :: front, back, rfl, by rw [size_cons, Nat.add_assoc]⟩

lemma pairwise_occurrencesFrom (needle : List Char) (offset skip : ℕ) (line : List Char) :
    (occurrencesFrom needle offset skip line).Pairwise (· < ·) := by
  fun_induction occurrencesFrom needle offset skip line with
  | case1 => exact List.Pairwise.nil
  | case2 offset skip c rest ih => exact ih
  | case3 offset c rest hprefix ih =>
    refine List.pairwise_cons.mpr ⟨fun o ho => ?_, ih⟩
    obtain ⟨front, back, -, rfl⟩ := occursAt_of_mem_occurrencesFrom ho
    have := c.utf8Size_pos
    omega
  | case4 offset c rest hprefix ih => exact ih

/-- By induction on the search. An occurrence in the part that is passed over begins within the text
found last, any other is found or overlaps one that is. -/
lemma covered_occurrencesFrom (hne : needle ≠ []) (offset skip : ℕ) {front back : List Char}
    (hline : line = front ++ needle ++ back) :
    front.length < skip ∨ ∃ o ∈ occurrencesFrom needle offset skip line,
      o ≤ offset + size front ∧ offset + size front < o + size needle := by
  fun_induction occurrencesFrom needle offset skip line generalizing front with
  | case1 => simp [hne] at hline
  | case2 offset skip c rest ih =>
    cases front with
    | nil => exact .inl (Nat.succ_pos skip)
    | cons d front =>
      obtain ⟨rfl, hrest⟩ := List.cons.inj hline
      rw [size_cons, ← Nat.add_assoc]
      exact (ih hrest).imp_left Nat.succ_lt_succ
  | case3 offset c rest hprefix ih =>
    right
    cases front with
    | nil => exact ⟨offset, List.mem_cons_self, by simp, by simp [size_pos hne]⟩
    | cons d front =>
      have hfront : d :: front <+: c :: rest := ⟨needle ++ back, by rw [hline, List.append_assoc]⟩
      obtain ⟨rfl, hrest⟩ := List.cons.inj hline
      rcases ih hrest with hwithin | ⟨o, ho, hcovered⟩
      · refine ⟨offset, List.mem_cons_self, Nat.le_add_right .., Nat.add_lt_add_left ?_ offset⟩
        refine (size_lt_iff hfront (List.isPrefixOf_iff_prefix.mp hprefix)).mpr ?_
        rw [List.length_cons]
        omega
      · rw [size_cons, ← Nat.add_assoc]
        exact ⟨o, List.mem_cons_of_mem _ ho, hcovered⟩
  | case4 offset c rest hprefix ih =>
    right
    cases front with
    | nil => exact absurd (List.isPrefixOf_iff_prefix.mpr ⟨back, hline.symm⟩) hprefix
    | cons d front =>
      obtain ⟨rfl, hrest⟩ := List.cons.inj hline
      rw [size_cons, ← Nat.add_assoc]
      exact (ih hrest).resolve_left (Nat.not_lt_zero _)

lemma occursAt_of_mem_occurrences {o : ℕ} (h : o ∈ occurrences needle line) :
    OccursAt needle line o := by
  obtain ⟨front, back, hline, hsize⟩ := occursAt_of_mem_occurrencesFrom h
  exact ⟨front, back, hline, by rw [← hsize, Nat.zero_add]⟩

/-- An occurrence is found or begins within one that is. -/
lemma exists_mem_occurrences (hne : needle ≠ []) (h : OccursAt needle line offset) :
    ∃ o ∈ occurrences needle line, o ≤ offset ∧ offset < o + size needle := by
  obtain ⟨front, back, hline, rfl⟩ := h
  simpa [occurrences] using covered_occurrencesFrom hne 0 0 hline

/-- Where an occurrence begins within another one, the text overlaps itself behind some first part of
it. -/
lemma exists_overlap {first second : ℕ} (hfirst : OccursAt text line first)
    (hsecond : OccursAt text line second) (hlt : first < second)
    (hwithin : second < first + size text) :
    ∃ front part rest, line = front ++ part ++ rest ∧ size front = first ∧
      size front + size part = second ∧ part.length < text.length ∧
      text.take part.length = part ∧ text.drop part.length <+: text := by
  obtain ⟨front, back, hline, rfl⟩ := hfirst
  obtain ⟨front', back', hline', rfl⟩ := hsecond
  have hshort : front <+: line := ⟨text ++ back, by rw [hline, List.append_assoc]⟩
  have hlong : front' <+: line := ⟨text ++ back', by rw [hline', List.append_assoc]⟩
  have hend : front ++ text <+: line := ⟨back, hline.symm⟩
  obtain ⟨part, rfl⟩ := List.prefix_of_prefix_length_le hshort hlong
    (Nat.le_of_lt ((size_lt_iff hshort hlong).mp hlt))
  rw [← size_append] at hwithin
  have hlength := (size_lt_iff hlong hend).mp hwithin
  obtain ⟨tail, rfl⟩ := (List.prefix_append_right_inj front).mp
    (List.prefix_of_prefix_length_le hlong hend (Nat.le_of_lt hlength))
  have htail : tail ++ back = part ++ tail ++ back' := by
    have hsame := hline.symm.trans hline'
    simp only [List.append_assoc, List.append_cancel_left_eq] at hsame
    simpa only [List.append_assoc] using hsame
  refine ⟨front, part, part ++ tail ++ back', by rw [hline', List.append_assoc (front ++ part)], rfl,
    (size_append front part).symm, by simpa using hlength, List.take_left, ?_⟩
  rw [List.drop_left]
  refine List.prefix_of_prefix_length_le ⟨back, htail⟩ (List.prefix_append _ back') ?_
  rw [List.length_append]
  omega

end

end ScriptSurvey.Text
