import Mathlib.SetTheory.Cardinal.Finite
import ScriptSurvey.Proofs.Occurrences
import ScriptSurvey.Text.Identifier

/-!
# Runs of identifier characters

The search for a name counts what it finds, unless an identifier character touches it. It passes over
occurrences that overlap one found before. For a name of identifier characters such an occurrence is
touched by a character of the name itself, so nothing is missed: what is counted are the longest runs
of identifier characters that are the name.
-/
namespace ScriptSurvey.Text

def IsIdentifier (name : List Char) : Prop := ∀ c ∈ name, isIdentifierChar c = true

/-- A run of identifier characters that cannot be made longer on either side. -/
@[ext]
structure IdentifierRun (line : List Char) where
  front : List Char
  run : List Char
  back : List Char
  line_eq : line = front ++ run ++ back
  ne_nil : run ≠ []
  isIdentifier : IsIdentifier run
  front_free : touches front.getLast? = false
  back_free : touches back.head? = false

def UntouchedAt (name line : List Char) (offset : ℕ) : Prop :=
  ∃ front back, line = front ++ name ++ back ∧ size front = offset ∧
    touches front.getLast? = false ∧ touches back.head? = false

section

variable {name line front : List Char} {c : Char} {offset skip : ℕ}

instance : Decidable (IsIdentifier name) := List.decidableBAll (isIdentifierChar · = true) name

lemma touches_some : touches (some c) = isIdentifierChar c := rfl

/-! ## What the search counts -/

lemma eq_of_size_eq {front' : List Char} (hfront : front <+: line) (hfront' : front' <+: line)
    (h : size front = size front') : front = front' := by
  have hlt := size_lt_iff hfront hfront'
  have hgt := size_lt_iff hfront' hfront
  rw [h] at hlt hgt
  exact (List.prefix_of_prefix_length_le hfront hfront' (by omega)).eq_of_length (by omega)

lemma untouchedAt_size_iff (front : List Char) {rest : List Char} (hbegin : name <+: rest) :
    UntouchedAt name (front ++ rest) (size front) ↔
      touches front.getLast? = false ∧ touches (rest.drop name.length).head? = false := by
  obtain ⟨back, rfl⟩ := hbegin
  rw [List.drop_left]
  constructor
  · rintro ⟨front', back', hline, hsize, hbefore, hafter⟩
    rw [List.append_assoc] at hline
    obtain rfl := eq_of_size_eq ⟨_, hline.symm⟩ (List.prefix_append front _) hsize
    simp only [List.append_cancel_left_eq] at hline
    exact ⟨hbefore, hline ▸ hafter⟩
  · rintro ⟨hbefore, hafter⟩
    exact ⟨front, back, (List.append_assoc ..).symm, rfl, hbefore, hafter⟩

open Classical in
/-- By induction on the line. Counting and finding are one search. -/
lemma countFrom_eq (name front : List Char) (skip : ℕ) (rest : List Char) :
    countFrom name front.getLast? skip rest =
      (occurrencesFrom name (size front) skip rest).countP
        (UntouchedAt name (front ++ rest) ·) := by
  induction rest generalizing front skip with
  | nil => cases skip <;> simp [countFrom, occurrencesFrom]
  | cons c rest ih =>
    have hnext : ∀ skip, countFrom name (some c) skip rest =
        (occurrencesFrom name (size front + c.utf8Size) skip rest).countP
          (UntouchedAt name (front ++ c :: rest) ·) := by
      intro skip
      simpa using ih (front ++ [c]) skip
    cases skip with
    | succ skip => rw [countFrom, occurrencesFrom, hnext]
    | zero =>
      rw [countFrom, occurrencesFrom]
      split_ifs with hbegin
      · have hhere := untouchedAt_size_iff front (List.isPrefixOf_iff_prefix.mp hbegin)
        rw [List.countP_cons, hnext, Nat.add_comm]
        congr 1
        simp only [hhere, decide_eq_true_eq]
        cases touches front.getLast? <;> cases touches ((c :: rest).drop name.length).head? <;> rfl
      · exact hnext 0

/-- What is counted are the occurrences found that nothing touches. -/
lemma countIdentifier_eq_card {text name : String} (hne : name ≠ "") :
    countIdentifier text name = Nat.card {o // o ∈ occurrences name.toList text.toList ∧
      UntouchedAt name.toList text.toList o} := by
  classical
  have hnonempty : ¬name.isEmpty = true := by simpa using hne
  have hnodup : (occurrences name.toList text.toList).Nodup :=
    (pairwise_occurrencesFrom _ _ _ _).imp fun hlt => Nat.ne_of_lt hlt
  have hcount : countFrom name.toList none 0 text.toList =
      (occurrences name.toList text.toList).countP (UntouchedAt name.toList text.toList ·) :=
    countFrom_eq name.toList [] 0 text.toList
  rw [List.countP_eq_length_filter, ← List.toFinset_card_of_nodup (hnodup.filter _)] at hcount
  rw [countIdentifier, if_neg hnonempty, hcount]
  refine (Nat.subtype_card _ fun o => ?_).symm
  simp

/-! ## Names of identifier characters -/

/-- An occurrence that begins within another one is touched by a character of that one. -/
lemma mem_occurrences_of_untouchedAt (hne : name ≠ []) (hname : IsIdentifier name)
    (h : UntouchedAt name line offset) : offset ∈ occurrences name line := by
  obtain ⟨before, after, hline, hsize, hfree, -⟩ := h
  have hoccurs : OccursAt name line offset := ⟨before, after, hline, hsize⟩
  obtain ⟨first, hfirst, hle, hwithin⟩ := exists_mem_occurrences hne hoccurs
  rcases Nat.eq_or_lt_of_le hle with rfl | hlt
  · exact hfirst
  · obtain ⟨front, part, rest, hline', rfl, hpart, -, htake, -⟩ :=
      exists_overlap (occursAt_of_mem_occurrences hfirst) hoccurs hlt hwithin
    have hbefore : before = front ++ part := by
      have hbegins : before <+: line := ⟨name ++ after, by rw [hline, List.append_assoc]⟩
      exact eq_of_size_eq hbegins ⟨rest, hline'.symm⟩ (by rw [size_append, hsize, hpart])
    have hpart_ne : part ≠ [] := by
      rintro rfl
      simp at hpart
      omega
    have hbegin : part <+: name := htake ▸ List.take_prefix part.length name
    have hmem := hbegin.subset (List.getLast_mem hpart_ne)
    rw [hbefore, List.getLast?_append_of_ne_nil _ hpart_ne, List.getLast?_eq_getLast_of_ne_nil hpart_ne,
      touches_some, hname _ hmem] at hfree
    exact absurd hfree (by decide)

/-- The runs that are the name are the occurrences of it that nothing touches. -/
lemma card_runs (hne : name ≠ []) (hname : IsIdentifier name) :
    Nat.card {r : IdentifierRun line // r.run = name} =
      Nat.card {o // o ∈ occurrences name line ∧ UntouchedAt name line o} := by
  have hplace : ∀ r : {r : IdentifierRun line // r.run = name},
      UntouchedAt name line (size r.1.front) := by
    rintro ⟨r, rfl⟩
    exact ⟨r.front, r.back, r.line_eq, rfl, r.front_free, r.back_free⟩
  refine Nat.card_eq_of_bijective (fun r => ⟨size r.1.front,
    mem_occurrences_of_untouchedAt hne hname (hplace r), hplace r⟩) ⟨?_, ?_⟩
  · have hbegins : ∀ r : IdentifierRun line, r.front <+: line := fun r =>
      ⟨r.run ++ r.back, (List.append_assoc ..).symm.trans r.line_eq.symm⟩
    rintro ⟨r, hr⟩ ⟨r', hr'⟩ hsize
    have hfront : r.front = r'.front :=
      eq_of_size_eq (hbegins r) (hbegins r') (congrArg (·.1) hsize)
    have hrun : r.run = r'.run := hr.trans hr'.symm
    have hback : r.back = r'.back := by
      have hline := r.line_eq.symm.trans r'.line_eq
      rwa [hfront, hrun, List.append_cancel_left_eq] at hline
    exact Subtype.ext (IdentifierRun.ext hfront hrun hback)
  · rintro ⟨o, hfound, front, back, hline, rfl, hfront, hback⟩
    exact ⟨⟨⟨front, name, back, hline, hne, hname, hfront, hback⟩, rfl⟩, rfl⟩

lemma countIdentifier_eq_card_runs {text name : String} (hne : name ≠ "")
    (hname : IsIdentifier name.toList) : countIdentifier text name =
      Nat.card {r : IdentifierRun text.toList // r.run = name.toList} := by
  rw [countIdentifier_eq_card hne, card_runs (by simpa using hne) hname]

end

end ScriptSurvey.Text
