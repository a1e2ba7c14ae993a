import Mathlib.Tactic.Common
import ScriptSurvey.Proofs.FirstOccurrences
import ScriptSurvey.Text.Sorted

/-!
# Sorting by texts

Sorting is stable, so it commutes with the choice of elements. The order by a text that belongs to each
element is transitive and total, and strict where no text comes twice.
-/
namespace ScriptSurvey

/-! ## Stable sorting -/

section

variable {α : Type} {le : α → α → Bool}

lemma filter_front {p : α → Bool} {front back : List α} (hfront : ∀ a ∈ front, p a = true)
    (hback : ∀ a ∈ back, p a = false) : (front ++ back).filter p = front := by
  rw [List.filter_append, List.filter_eq_self.mpr hfront,
    List.filter_eq_nil_iff.mpr fun a ha => by simp [hback a ha], List.append_nil]

/-- Entries can be chosen before or after they are sorted. -/
lemma filter_mergeSort (htrans : ∀ a b c, le a b = true → le b c = true → le a c = true)
    (htotal : ∀ a b, (le a b || le b a) = true) (p : α → Bool) (l : List α) :
    (l.mergeSort le).filter p = (l.filter p).mergeSort le := by
  induction l with
  | nil => simp
  | cons a l ih =>
    obtain ⟨front, back, hcons, hrest, hfront⟩ := List.mergeSort_cons htrans htotal a l
    rw [hrest, List.filter_append] at ih
    by_cases ha : p a = true
    · -- on both sides `a` stands behind exactly those that are not above it
      obtain ⟨front', back', hcons', hrest', hfront'⟩ :=
        List.mergeSort_cons htrans htotal a (l.filter p)
      have hsorted := List.pairwise_mergeSort htrans htotal (a :: l)
      have hsorted' := List.pairwise_mergeSort htrans htotal (a :: l.filter p)
      rw [hcons] at hsorted
      rw [hcons'] at hsorted'
      have hback : ∀ b ∈ back, le a b = true := fun b hb =>
        (List.pairwise_cons.mp (List.pairwise_append.mp hsorted).2.1).1 b hb
      have hback' : ∀ b ∈ back', le a b = true := fun b hb =>
        (List.pairwise_cons.mp (List.pairwise_append.mp hsorted').2.1).1 b hb
      have hsplit : front.filter p ++ back.filter p = front' ++ back' := ih.trans hrest'
      have hfrontEq : front.filter p = front' := by
        have hleft := congrArg (List.filter fun b => !le a b) hsplit
        rwa [filter_front (fun b hb => hfront b (List.mem_filter.mp hb).1)
            (fun b hb => by simp [hback b (List.mem_filter.mp hb).1]),
          filter_front hfront' (fun b hb => by simp [hback' b hb])] at hleft
      rw [hfrontEq] at hsplit
      rw [hcons, List.filter_cons_of_pos ha, hcons', List.filter_append,
        List.filter_cons_of_pos ha, hfrontEq, List.append_cancel_left hsplit]
    · rw [hcons, List.filter_cons_of_neg ha, List.filter_append, List.filter_cons_of_neg ha, ih]

lemma mergeSort_mergeSort (htrans : ∀ a b c, le a b = true → le b c = true → le a c = true)
    (htotal : ∀ a b, (le a b || le b a) = true) (l : List α) :
    (l.mergeSort le).mergeSort le = l.mergeSort le :=
  List.mergeSort_of_pairwise (List.pairwise_mergeSort htrans htotal l)

/-- The elements of a sublist can be marked in the list. -/
lemma exists_marks {l l' : List α} (h : l.Sublist l') :
    ∃ marked : List (α × Bool), marked.map Prod.fst = l' ∧
      (marked.filter Prod.snd).map Prod.fst = l := by
  induction h with
  | slnil => exact ⟨[], rfl, rfl⟩
  | cons a _ ih =>
    obtain ⟨marked, rfl, rfl⟩ := ih
    exact ⟨(a, false) :: marked, rfl, by simp⟩
  | cons_cons a _ ih =>
    obtain ⟨marked, rfl, rfl⟩ := ih
    exact ⟨(a, true) :: marked, rfl, by simp⟩

lemma mergeSort_sublist_mergeSort (htrans : ∀ a b c, le a b = true → le b c = true → le a c = true)
    (htotal : ∀ a b, (le a b || le b a) = true) {l l' : List α} (h : l.Sublist l') :
    (l.mergeSort le).Sublist (l'.mergeSort le) := by
  obtain ⟨marked, rfl, rfl⟩ := exists_marks h
  have hsort : ∀ m : List (α × Bool), (m.map Prod.fst).mergeSort le =
      (m.mergeSort fun a b => le a.1 b.1).map Prod.fst := by
    intro m
    rw [List.map_mergeSort (s := le)]
    exact fun _ _ _ _ => rfl
  rw [hsort, hsort, ← filter_mergeSort (fun a b c => htrans a.1 b.1 c.1) (fun a b => htotal a.1 b.1)]
  exact List.filter_sublist.map _

def tied (le : α → α → Bool) (a b : α) : Bool := le a b && le b a

lemma eq_of_filter_tied {l l' : List α} (htotal : ∀ a b, (le a b || le b a) = true)
    (hl : l.Pairwise fun a b => le a b = true) (hl' : l'.Pairwise fun a b => le a b = true)
    (h : ∀ a, l.filter (tied le a) = l'.filter (tied le a)) : l = l' := by
  have hself : ∀ a, tied le a a = true := fun a => by simpa [tied] using htotal a a
  have hmem : ∀ a, a ∈ l ↔ a ∈ l' := fun a => by
    simpa [hself] using congrArg (a ∈ ·) (h a)
  induction l generalizing l' with
  | nil => exact (List.eq_nil_iff_forall_not_mem.mpr fun a ha => by simpa using (hmem a).mpr ha).symm
  | cons a l ih =>
    cases l' with
    | nil => exact absurd ((hmem a).mp (List.mem_cons_self ..)) List.not_mem_nil
    | cons b l' =>
      rw [List.pairwise_cons] at hl hl'
      have hab : tied le a b = true := by
        have hba : le b a = true := by
          rcases List.mem_cons.mp ((hmem a).mp (List.mem_cons_self ..)) with rfl | ha
          · simpa [tied] using hself a
          · exact hl'.1 a ha
        have hab : le a b = true := by
          rcases List.mem_cons.mp ((hmem b).mpr (List.mem_cons_self ..)) with rfl | hb
          · simpa [tied] using hself b
          · exact hl.1 b hb
        simp [tied, hab, hba]
      have hfirst := h a
      rw [List.filter_cons_of_pos (hself a), List.filter_cons_of_pos hab] at hfirst
      obtain rfl := (List.cons.inj hfirst).1
      have htail : ∀ c, l.filter (tied le c) = l'.filter (tied le c) := fun c => by
        have hc := h c
        rw [List.filter_cons, List.filter_cons] at hc
        split_ifs at hc
        · exact (List.cons.inj hc).2
        · exact hc
      rw [ih hl.2 hl'.2 htail fun c => by simpa [hself] using congrArg (c ∈ ·) (htail c)]

/-- A stable sort depends on nothing but the order among tied elements. -/
lemma mergeSort_eq_of_filter_tied (htrans : ∀ a b c, le a b = true → le b c = true → le a c = true)
    (htotal : ∀ a b, (le a b || le b a) = true) {l l' : List α}
    (h : ∀ a, l.filter (tied le a) = l'.filter (tied le a)) :
    l.mergeSort le = l'.mergeSort le := by
  refine eq_of_filter_tied htotal (List.pairwise_mergeSort htrans htotal l)
    (List.pairwise_mergeSort htrans htotal l') fun a => ?_
  rw [filter_mergeSort htrans htotal, filter_mergeSort htrans htotal, h]

lemma isLE_total (cmp : α → α → Ordering) [Std.OrientedCmp cmp] (a b : α) :
    ((cmp a b).isLE || (cmp b a).isLE) = true := by
  have hswap : cmp b a = (cmp a b).swap := Std.OrientedCmp.eq_swap
  rw [hswap]
  cases cmp a b <;> rfl

end

/-! ## The order by a text -/

section

variable {α : Type}

def textLe (key : α → String) (a b : α) : Bool := decide (key a ≤ key b)

lemma textLe_trans (key : α → String) (a b c : α) (hab : textLe key a b = true)
    (hbc : textLe key b c = true) : textLe key a c = true :=
  decide_eq_true (String.le_trans (of_decide_eq_true hab) (of_decide_eq_true hbc))

lemma textLe_total (key : α → String) (a b : α) : (textLe key a b || textLe key b a) = true := by
  rw [Bool.or_eq_true, textLe, textLe, decide_eq_true_eq, decide_eq_true_eq]
  exact String.le_total (key a) (key b)

lemma pairwise_lt_mergeSort (key : α → String) {l : List α} (h : (l.map key).Nodup) :
    (l.mergeSort (textLe key)).Pairwise fun a b => key a < key b := by
  have hsorted := List.pairwise_mergeSort (textLe_trans key) (textLe_total key) l
  have hdistinct : ((l.mergeSort (textLe key)).map key).Nodup :=
    ((List.mergeSort_perm l _).map key).nodup_iff.mpr h
  refine hsorted.imp₂ (fun a b hle hne => ?_) (List.pairwise_map.mp hdistinct)
  rw [← String.not_le]
  exact fun hge => hne (String.le_antisymm (of_decide_eq_true hle) hge)

end

namespace Text

lemma isLE_compare_iff (a b : String) : (Ord.compare a b).isLE = true ↔ a ≤ b :=
  isLE_compareOfLessAndEq String.le_antisymm String.not_le String.le_total

lemma mem_sortedDistinct {texts : List String} {text : String} :
    text ∈ sortedDistinct texts ↔ text ∈ texts := by
  rw [sortedDistinct, sorted, List.mem_mergeSort, List.mem_eraseDups]

lemma pairwise_sortedDistinct (texts : List String) : (sortedDistinct texts).Pairwise (· < ·) :=
  pairwise_lt_mergeSort id (by rw [List.map_id]; exact nodup_eraseDups texts)

end Text

end ScriptSurvey
