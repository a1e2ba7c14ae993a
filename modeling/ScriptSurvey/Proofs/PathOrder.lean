import Mathlib.Tactic.Common
import ScriptSurvey.Path

/-!
# The order of paths

Paths are ordered by tier first (the empty path, anchored paths, all others) and by names within a
tier. Written that way the comparison is a lexicographic one, so it is a linear order.
-/
namespace ScriptSurvey.Path
open Std

lemma compareName_eq (a b : String) :
    compareName a b = compareLex (compareOn nameRank) Ord.compare a b := rfl

instance : TransCmp compareName :=
  inferInstanceAs (TransCmp (compareLex (compareOn nameRank) (Ord.compare : String → String → _)))

instance : LawfulEqCmp compareName where
  eq_of_compare h := by
    rw [compareName_eq, compareLex_eq_eq] at h
    exact LawfulEqOrd.eq_of_compare h.2

lemma compareNames_eq (a b : List String) : compareNames a b = List.compareLex compareName a b := by
  induction a generalizing b with
  | nil => cases b <;> rfl
  | cons x xs ih =>
    cases b with
    | nil => rfl
    | cons y ys => rw [compareNames, List.compareLex_cons_cons, ih]

/-- The empty path comes first, then the anchored ones. -/
def tier (p : Path) : Nat := if p.anchored then 1 else if p.names.isEmpty then 0 else 2

lemma anchored_eq_of_tier_eq {p q : Path} (h : p.tier = q.tier) : p.anchored = q.anchored := by
  unfold tier at h
  cases hp : p.anchored <;> cases hq : q.anchored <;> simp only [hp, hq] at h ⊢ <;>
    split_ifs at h <;> simp_all

lemma compare_eq_lex (p q : Path) :
    p.compare q = (Ord.compare p.tier q.tier).then (compareNames p.names q.names) := by
  obtain ⟨pa, pn⟩ := p
  obtain ⟨qa, qn⟩ := q
  cases pa <;> cases qa <;> cases pn <;> cases qn <;> rfl

lemma compare_eq_compareLex :
    Path.compare =
      compareLex (compareOn tier) fun p q => List.compareLex compareName p.names q.names := by
  funext p q
  rw [compare_eq_lex, compareNames_eq]
  rfl

instance : TransCmp fun p q : Path => List.compareLex compareName p.names q.names where
  eq_swap {p q} := @OrientedCmp.eq_swap _ (List.compareLex compareName) _ p.names q.names
  isLE_trans {p q r} :=
    @TransCmp.isLE_trans _ (List.compareLex compareName) _ p.names q.names r.names

instance : TransOrd Path := by
  change TransCmp Path.compare
  rw [compare_eq_compareLex]
  infer_instance

instance : LawfulEqOrd Path where
  eq_of_compare {p q} h := by
    change Path.compare p q = .eq at h
    rw [compare_eq_compareLex, compareLex_eq_eq] at h
    have htier : p.tier = q.tier := LawfulEqOrd.eq_of_compare h.1
    have hanchored : p.anchored = q.anchored := anchored_eq_of_tier_eq htier
    have hnames : p.names = q.names := LawfulEqCmp.eq_of_compare h.2
    cases p
    cases q
    simp_all

end ScriptSurvey.Path
