import Mathlib.Data.List.Nodup
import Mathlib.Tactic.Common

/-!
# Tables of positions

A list without repetitions is often kept together with a table that finds the position of each of
its elements. `Positions` says that such a table is right, and is kept when an element and its
position are added.
-/
namespace ScriptSurvey

/-- The table finds each key at its position in the list, and nothing else. -/
def Positions {κ : Type} [BEq κ] (keys : List κ) (table : List (κ × Nat)) : Prop :=
  ∀ k i, table.lookup k = some i ↔ keys[i]? = some k

namespace Positions

variable {κ : Type} [BEq κ] {keys : List κ} {table : List (κ × Nat)}

lemma empty : Positions ([] : List κ) [] := by
  intro k i
  simp

lemma lookup_eq_none_iff (h : Positions keys table) (k : κ) :
    table.lookup k = none ↔ k ∉ keys := by
  rw [List.mem_iff_getElem?, Option.eq_none_iff_forall_ne_some, not_exists]
  exact forall_congr' fun i => not_congr (h k i)

lemma isSome_lookup_iff (h : Positions keys table) (k : κ) :
    (table.lookup k).isSome = true ↔ k ∈ keys := by
  rw [Option.isSome_iff_ne_none, ne_eq, h.lookup_eq_none_iff k, not_not]

lemma bind_lookup_eq_some_iff {α β : Type} {l : List α} {key : α → κ} {view : α → β}
    (h : Positions (l.map key) table) (k : κ) (v : β) :
    ((table.lookup k).bind fun i => l[i]?.map view) = some v ↔
      ∃ a ∈ l, key a = k ∧ view a = v := by
  simp only [Option.bind_eq_some_iff, h k, List.getElem?_map, Option.map_eq_some_iff,
    List.mem_iff_getElem?]
  constructor
  · rintro ⟨i, ⟨a, ha, hk⟩, b, hb, hv⟩
    obtain rfl := Option.some.inj (ha.symm.trans hb)
    exact ⟨a, ⟨i, ha⟩, hk, hv⟩
  · rintro ⟨a, ⟨i, ha⟩, hk, hv⟩
    exact ⟨i, ⟨a, ha, hk⟩, a, ha, hv⟩

lemma nodup (h : Positions keys table) : keys.Nodup := by
  rw [List.nodup_iff_getElem?_ne_getElem?]
  intro i j hij hj heq
  have hkey : keys[j]? = some keys[j] := List.getElem?_eq_getElem hj
  have hi : table.lookup keys[j] = some i := (h _ _).mpr (heq.trans hkey)
  have hj' : table.lookup keys[j] = some j := (h _ _).mpr hkey
  have hsame : i = j := Option.some.inj (hi.symm.trans hj')
  omega

lemma concat [LawfulBEq κ] (h : Positions keys table) {k : κ} (hk : table.lookup k = none) :
    Positions (keys ++ [k]) ((k, keys.length) :: table) := by
  have hnew : k ∉ keys := (h.lookup_eq_none_iff k).mp hk
  intro l i
  rw [List.lookup_cons, List.getElem?_append]
  by_cases hl : l = k
  · subst hl
    have hold : keys[i]? ≠ some l := fun hi => hnew (List.mem_of_getElem? hi)
    simp only [beq_self_eq_true, Option.some.injEq]
    split_ifs with hi
    · exact iff_of_false (by omega) hold
    · rw [List.getElem?_singleton]
      split_ifs with hzero
      · exact iff_of_true (by omega) rfl
      · exact iff_of_false (by omega) (by simp)
  · have hother : (l == k) = false := beq_false_of_ne hl
    simp only [hother]
    rw [h l i]
    split_ifs with hi
    · rfl
    · rw [List.getElem?_eq_none (by omega), List.getElem?_singleton]
      split_ifs
      · exact iff_of_false (by simp) (by simpa using fun hkl => hl hkl.symm)
      · rfl

end Positions

end ScriptSurvey
