import ScriptSurvey.Proofs.TextOrder
import ScriptSurvey.Toml.Value

/-!
# The order of keys

Tables are compared without regard to the order of their entries, by sorting these at every level.
Sorting keeps what is found under a key, commutes with the choice of entries by their keys, and changes
nothing the second time. So whoever looks fields up reads the same from tables that are alike.
-/
namespace ScriptSurvey

namespace Toml.Value

/-- The entries in the order of their keys, at every level. -/
def sortTable (entries : Table) : Table := (sortEntries entries).mergeSort (textLe Prod.fst)

def Alike (entries others : Table) : Prop := sortTable entries = sortTable others

lemma sortEntries_eq_map (entries : Table) :
    sortEntries entries = entries.map fun e => (e.1, sortKeys e.2) := by
  induction entries with
  | nil => rfl
  | cons e rest ih => rw [sortEntries, ih, List.map_cons]

lemma sortItems_eq_map (items : List Value) : sortItems items = items.map sortKeys := by
  induction items with
  | nil => rfl
  | cons v rest ih => rw [sortItems, ih, List.map_cons]

@[simp] lemma sortKeys_table (entries : Table) :
    sortKeys (.table entries) = .table (sortTable entries) := by
  rw [sortKeys]
  rfl

@[simp] lemma sortKeys_array (items : List Value) :
    sortKeys (.array items) = .array (items.map sortKeys) := by
  rw [sortKeys, sortItems_eq_map]

lemma sortEntries_mergeSort (entries : Table) :
    sortEntries (entries.mergeSort (textLe Prod.fst)) =
      (sortEntries entries).mergeSort (textLe Prod.fst) := by
  rw [sortEntries_eq_map, sortEntries_eq_map]
  exact List.map_mergeSort fun _ _ _ _ => rfl

mutual

theorem sortKeys_sortKeys (v : Value) : sortKeys (sortKeys v) = sortKeys v := by
  cases v with
  | array items => rw [sortKeys, sortKeys, sortItems_sortItems]
  | table entries =>
    rw [sortKeys_table, sortKeys_table, sortTable, sortTable, sortEntries_mergeSort,
      mergeSort_mergeSort (textLe_trans Prod.fst) (textLe_total Prod.fst), sortEntries_sortEntries]
  | string | integer | float | boolean | datetime => rfl

theorem sortItems_sortItems (items : List Value) :
    sortItems (sortItems items) = sortItems items := by
  cases items with
  | nil => rfl
  | cons v rest => rw [sortItems, sortItems, sortKeys_sortKeys v, sortItems_sortItems rest]

theorem sortEntries_sortEntries (entries : List (String × Value)) :
    sortEntries (sortEntries entries) = sortEntries entries := by
  cases entries with
  | nil => rfl
  | cons e rest =>
    rw [sortEntries, sortEntries, sortKeys_sortKeys e.2, sortEntries_sortEntries rest]

end

lemma sortTable_sortTable (entries : Table) : sortTable (sortTable entries) = sortTable entries := by
  have h := sortKeys_sortKeys (.table entries)
  rw [sortKeys_table, sortKeys_table] at h
  exact Value.table.inj h

/-! ## Looking up and choosing entries -/

lemma lookup_eq_head?_filter (entries : Table) (key : String) :
    entries.lookup key = ((entries.filter (·.1 == key)).head?).map (·.2) := by
  induction entries with
  | nil => rfl
  | cons e rest ih =>
    rw [List.lookup_cons]
    by_cases he : key = e.1
    · rw [List.filter_cons_of_pos (by simp [he])]
      simp [he]
    · have hother : (key == e.1) = false := beq_false_of_ne he
      rw [List.filter_cons_of_neg (by simpa using fun h => he h.symm), ← ih]
      simp only [hother]

lemma lookup_mergeSort (entries : Table) (key : String) :
    (entries.mergeSort (textLe Prod.fst)).lookup key = entries.lookup key := by
  have hequal : (entries.filter (·.1 == key)).Pairwise fun a b => textLe Prod.fst a b = true := by
    refine List.pairwise_of_forall_mem_list fun a ha b hb => ?_
    have hak : a.1 = key := by simpa using (List.mem_filter.mp ha).2
    have hbk : b.1 = key := by simpa using (List.mem_filter.mp hb).2
    rw [textLe, hak, hbk]
    exact decide_eq_true (String.le_refl key)
  rw [lookup_eq_head?_filter, filter_mergeSort (textLe_trans Prod.fst) (textLe_total Prod.fst),
    List.mergeSort_of_pairwise hequal, ← lookup_eq_head?_filter]

lemma lookup_sortEntries (entries : Table) (key : String) :
    (sortEntries entries).lookup key = (entries.lookup key).map sortKeys := by
  induction entries with
  | nil => rfl
  | cons e rest ih =>
    rw [sortEntries, List.lookup_cons, List.lookup_cons, ih]
    cases key == e.1 <;> rfl

lemma lookup_sortTable (entries : Table) (key : String) :
    (sortTable entries).lookup key = (entries.lookup key).map sortKeys := by
  rw [sortTable, lookup_mergeSort, lookup_sortEntries]

/-- Unknown entries can be chosen after sorting as well. -/
lemma unknownEntries_eq (known : List String) (entries : Table) :
    unknownEntries known entries = (sortTable entries).filter fun e => !known.contains e.1 := by
  have hsorted : sortEntries (entries.filter fun e => !known.contains e.1) =
      (sortEntries entries).filter fun e => !known.contains e.1 := by
    rw [sortEntries_eq_map, sortEntries_eq_map, List.filter_map]
    rfl
  rw [unknownEntries, sortKeys_table, sortTable, sortTable,
    filter_mergeSort (textLe_trans Prod.fst) (textLe_total Prod.fst), hsorted]

lemma unknownEntries_unknownEntries (known : List String) (entries : Table) :
    unknownEntries known (unknownEntries known entries) = unknownEntries known entries := by
  have hsorted : sortTable (unknownEntries known entries) = unknownEntries known entries := by
    rw [unknownEntries, sortKeys_table]
    exact sortTable_sortTable _
  rw [unknownEntries_eq known (unknownEntries known entries), hsorted, unknownEntries_eq,
    List.filter_filter]
  simp

/-! ## Reading fields -/

def OrderFree {α : Type} (read : Value → Option α) : Prop := ∀ v, read (sortKeys v) = read v

section

variable {α : Type} {read : Value → Option α} {entries others : Table}

lemma field?_map_sortKeys (h : OrderFree read) (fallback : α) (value : Option Value) :
    field? read fallback (value.map sortKeys) = field? read fallback value := by
  cases value with
  | none => rfl
  | some v => exact h v

lemma Alike.field? (h : Alike entries others) (hread : OrderFree read) (fallback : α)
    (key : String) :
    field? read fallback (entries.lookup key) = field? read fallback (others.lookup key) := by
  rw [← field?_map_sortKeys hread, ← lookup_sortTable, h, lookup_sortTable,
    field?_map_sortKeys hread]

lemma Alike.bind_lookup (h : Alike entries others) (hread : OrderFree read) (key : String) :
    (entries.lookup key).bind read = (others.lookup key).bind read := by
  have hmap : ∀ value : Option Value, (value.map sortKeys).bind read = value.bind read := by
    intro value
    cases value with
    | none => rfl
    | some v => exact hread v
  rw [← hmap, ← lookup_sortTable, h, lookup_sortTable, hmap]

lemma Alike.unknownEntries (h : Alike entries others) (known : List String) :
    unknownEntries known entries = unknownEntries known others := by
  rw [unknownEntries_eq, unknownEntries_eq, h]

lemma alike_sortTable (entries : Table) : Alike (sortTable entries) entries :=
  sortTable_sortTable entries

lemma OrderFree.map {β : Type} (h : OrderFree read) (f : α → β) :
    OrderFree fun v => (read v).map f :=
  fun v => congrArg (Option.map f) (h v)

lemma OrderFree.bind {β : Type} (h : OrderFree read) (f : α → Option β) :
    OrderFree fun v => (read v).bind f :=
  fun v => congrArg (fun o : Option α => o.bind f) (h v)

lemma OrderFree.list? (h : OrderFree read) : OrderFree (list? read) := by
  intro v
  cases v with
  | array items =>
    rw [sortKeys_array, Value.list?, Value.list?, List.mapM_map]
    refine congrArg (fun f => List.mapM f items) (funext h)
  | table | string | integer | float | boolean | datetime => rfl

end

lemma orderFree_string? : OrderFree string? := by
  intro v
  cases v <;> rfl

lemma orderFree_boolean? : OrderFree boolean? := by
  intro v
  cases v <;> rfl

lemma orderFree_strings? : OrderFree strings? := orderFree_string?.list?

end Toml.Value

end ScriptSurvey
