import Mathlib.Data.List.Nodup
import Mathlib.Tactic.Common
import ScriptSurvey.Liveness
import ScriptSurvey.Proofs.PathOrder
import ScriptSurvey.Proofs.TextOrder

/-!
# What a liveness report lists

A report sorts what the sheets below its scope contribute. Test files, generated files and files
without facts contribute nothing, every other sheet its dead declarations, its dead exports and its
unused bindings. The declarations are specified here without the index of referenced names.
-/
namespace ScriptSurvey.Liveness
open Std

def ItemOrder (a b : DeadItem) : Prop :=
  Ord.compare a.file b.file = .lt ∨
    a.file = b.file ∧ (a.line < b.line ∨ a.line = b.line ∧ a.name ≤ b.name)

def itemCompare : DeadItem → DeadItem → Ordering :=
  compareLex (compareOn DeadItem.file)
    (compareLex (compareOn DeadItem.line) (compareOn DeadItem.name))

instance : TransCmp itemCompare := inferInstanceAs (TransCmp (compareLex _ _))

lemma itemLe_eq (a b : DeadItem) : itemLe a b = (itemCompare a b).isLE := rfl

lemma itemLe_trans (a b c : DeadItem) (hab : itemLe a b = true) (hbc : itemLe b c = true) :
    itemLe a c = true :=
  @TransCmp.isLE_trans _ itemCompare _ a b c hab hbc

lemma itemLe_total (a b : DeadItem) : (itemLe a b || itemLe b a) = true :=
  isLE_total itemCompare a b

lemma itemLe_iff (a b : DeadItem) : itemLe a b = true ↔ ItemOrder a b := by
  have hfile : Ord.compare a.file b.file = .eq ↔ a.file = b.file := LawfulEqCmp.compare_eq_iff_eq
  rw [itemLe_eq]
  simp only [itemCompare, compareLex, compareOn, Ordering.isLE_then_iff_or, Text.isLE_compare_iff, hfile,
    Nat.compare_eq_lt, Nat.compare_eq_eq, ItemOrder]

/-! ## The sheets of a report -/

structure Reportable (project : Project) (scope : Path) (s : FactSheet) : Prop where
  below : s.path.startsWith scope = true
  parsed : s.parseFailed = false
  notTest : FileRole.isTest (project.relative s.path).toString = false
  notGenerated : FileRole.isGenerated (project.relative s.path).toString = false

instance (project : Project) (scope : Path) : DecidablePred (Reportable project scope) := fun s =>
  decidable_of_iff
    (s.path.startsWith scope = true ∧ s.parseFailed = false
      ∧ FileRole.isTest (project.relative s.path).toString = false
      ∧ FileRole.isGenerated (project.relative s.path).toString = false)
    ⟨fun ⟨h₁, h₂, h₃, h₄⟩ => ⟨h₁, h₂, h₃, h₄⟩, fun ⟨h₁, h₂, h₃, h₄⟩ => ⟨h₁, h₂, h₃, h₄⟩⟩

def reportedSheets (project : Project) (scope : Path) : List FactSheet :=
  project.sheets.filter (Reportable project scope ·)

def sheetItems (files : FileSystem) (project : Project) (config : LivenessConfig) (s : FactSheet) :
    List DeadItem :=
  deadDeclarations (referencedNames project) config (project.relative s.path) s
    ++ (if isEntryFile project (Manifest.load? files project.root) config s.path then []
      else deadExports (importedNames project config.defaultExtension) config
        (project.relative s.path) s)
    ++ unusedLocals files (project.relative s.path) s

section

variable {files : FileSystem} {project : Project} {scope : Path} {config : LivenessConfig}

lemma flatMap_ite_nil {α β : Type} (p : α → Bool) (f : α → List β) (l : List α) :
    (l.flatMap fun a => if p a then [] else f a) = (l.filter fun a => !p a).flatMap f := by
  induction l with
  | nil => rfl
  | cons a l ih => cases h : p a <;> simp [h, ih]

lemma deadItems_eq_mergeSort :
    deadItems files project scope config =
      ((reportedSheets project scope).flatMap (sheetItems files project config)).mergeSort
        itemLe := by
  change ((project.inScope scope).flatMap fun s =>
      if s.parseFailed || FileRole.isTest (project.relative s.path).toString
        || FileRole.isGenerated (project.relative s.path).toString then []
      else sheetItems files project config s).mergeSort itemLe = _
  rw [flatMap_ite_nil, Project.inScope, List.filter_filter]
  congr 2
  apply List.filter_congr
  intro s _
  rw [Bool.eq_iff_iff]
  simp only [decide_eq_true_eq, Bool.and_eq_true, Bool.not_eq_true', Bool.or_eq_false_iff]
  constructor
  · rintro ⟨⟨⟨hparsed, htest⟩, hgenerated⟩, hbelow⟩
    exact ⟨hbelow, hparsed, htest, hgenerated⟩
  · rintro ⟨hbelow, hparsed, htest, hgenerated⟩
    exact ⟨⟨⟨hparsed, htest⟩, hgenerated⟩, hbelow⟩

lemma deadItems_perm :
    (deadItems files project scope config).Perm
      ((reportedSheets project scope).flatMap (sheetItems files project config)) := by
  rw [deadItems_eq_mergeSort]
  exact List.mergeSort_perm _ _

lemma deadItems_pairwise : (deadItems files project scope config).Pairwise ItemOrder := by
  rw [deadItems_eq_mergeSort]
  exact (List.pairwise_mergeSort itemLe_trans itemLe_total _).imp fun h => (itemLe_iff _ _).mp h

lemma classify_total (limit : Nat) :
    (classify files project scope config limit).total =
      ((reportedSheets project scope).flatMap (sheetItems files project config)).length :=
  deadItems_perm.length_eq

lemma classify_items {limit : Nat}
    (h : (classify files project scope config limit).total ≤ limit) :
    (classify files project scope config limit).items = deadItems files project scope config :=
  List.take_of_length_le h

end

/-! ## Counting kinds -/

lemma DeadKind.mem_all (k : DeadKind) : k ∈ DeadKind.all := by cases k <;> decide

lemma mem_countKinds_iff (items : List DeadItem) (k : DeadKind) (n : Nat) :
    (k, n) ∈ countKinds items ↔ 0 < n ∧ n = items.countP (·.kind == k) := by
  simp only [countKinds, List.mem_filter, List.mem_map, Prod.mk.injEq, decide_eq_true_eq]
  constructor
  · rintro ⟨⟨k', _, rfl, hn⟩, hpos⟩
    exact ⟨hpos, hn.symm⟩
  · rintro ⟨hpos, hn⟩
    exact ⟨⟨k, DeadKind.mem_all k, rfl, hn.symm⟩, hpos⟩

lemma countKinds_nodup (items : List DeadItem) : ((countKinds items).map Prod.fst).Nodup := by
  have hsub : ((countKinds items).map Prod.fst).Sublist DeadKind.all := by
    have h := (List.filter_sublist (p := fun x : DeadKind × Nat => decide (0 < x.2))
      (l := DeadKind.all.map fun k => (k, items.countP (·.kind == k)))).map Prod.fst
    simpa [countKinds, List.map_map, Function.comp_def] using h
  exact hsub.nodup (by decide)

end ScriptSurvey.Liveness
