import Mathlib.Data.List.Forall2
import ScriptSurvey.Proofs.LivenessExports

/-!
# More references

Calls, imports and parents only ever keep something alive. A project whose sheets declare and export
the same but refer to more has no dead declaration or export that the first one has not.
-/
namespace ScriptSurvey

/-- The second sheet declares and exports what the first one does, and refers to at least as
much. -/
structure FactSheet.RefersToMore (s t : FactSheet) : Prop where
  path : t.path = s.path
  parseFailed : t.parseFailed = s.parseFailed
  declarations : t.declarations = s.declarations
  exports : t.exports = s.exports
  calls : s.calls ⊆ t.calls
  imports : s.imports ⊆ t.imports
  parents : s.classes.filterMap (·.parent) ⊆ t.classes.filterMap (·.parent)

structure Project.RefersToMore (p q : Project) : Prop where
  root : q.root = p.root
  sheets : List.Forall₂ FactSheet.RefersToMore p.sheets q.sheets

section

variable {α β γ : Type} {R : α → β → Prop} {l : List α} {l' : List β}

lemma flatMap_subset_of_forall₂ {f : α → List γ} {g : β → List γ} (h : List.Forall₂ R l l')
    (hfg : ∀ a b, R a b → f a ⊆ g b) : l.flatMap f ⊆ l'.flatMap g := by
  induction h with
  | nil => exact List.Subset.refl _
  | cons hab _ ih =>
    rw [List.flatMap_cons, List.flatMap_cons]
    exact List.append_subset.mpr ⟨List.subset_append_of_subset_left _ (hfg _ _ hab),
      List.subset_append_of_subset_right _ ih⟩

lemma flatMap_sublist_of_forall₂ {f : α → List γ} {g : β → List γ} (h : List.Forall₂ R l l')
    (hfg : ∀ a b, R a b → (g b).Sublist (f a)) : (l'.flatMap g).Sublist (l.flatMap f) := by
  induction h with
  | nil => exact List.Sublist.refl _
  | cons hab _ ih =>
    rw [List.flatMap_cons, List.flatMap_cons]
    exact (hfg _ _ hab).append ih

lemma map_eq_map_of_forall₂ {f : α → γ} {g : β → γ} (h : List.Forall₂ R l l')
    (hfg : ∀ a b, R a b → g b = f a) : l'.map g = l.map f := by
  induction h with
  | nil => rfl
  | cons hab _ ih => rw [List.map_cons, List.map_cons, hfg _ _ hab, ih]

end

namespace Liveness

section

variable {files : FileSystem} {p q : Project} {s t : FactSheet} {scope : Path}
  {config : LivenessConfig}

/-! ## What the two projects share -/

lemma contains_eq (h : p.RefersToMore q) : q.contains = p.contains := by
  have hpaths : q.sheets.map (·.path) = p.sheets.map (·.path) :=
    map_eq_map_of_forall₂ h.sheets fun _ _ hst => hst.path
  funext path
  have hany (project : Project) : project.contains path =
      (project.sheets.map (·.path)).any (· == path) := by
    rw [Project.contains, List.any_map]
    rfl
  rw [hany, hany, hpaths]

lemma relative_eq (h : p.RefersToMore q) : q.relative = p.relative := by
  funext path
  rw [Project.relative, Project.relative, h.root]

lemma isEntryFile_eq (h : p.RefersToMore q) (manifest : Option Manifest) :
    isEntryFile q manifest config = isEntryFile p manifest config := by
  funext path
  have hentries : (manifestEntries q · config) = (manifestEntries p · config) := by
    funext m
    rw [manifestEntries, manifestEntries, contains_eq h, h.root]
  rw [isEntryFile, isEntryFile, hentries, relative_eq h]

lemma Reportable.congr (hpath : t.path = s.path) (hparse : t.parseFailed = s.parseFailed)
    (hfile : q.relative t.path = p.relative s.path) (h : Reportable p scope s) :
    Reportable q scope t := by
  obtain ⟨hbelow, hparsed, htest, hgenerated⟩ := h
  rw [← hpath] at hbelow
  rw [← hparse] at hparsed
  rw [← hfile] at htest hgenerated
  exact ⟨hbelow, hparsed, htest, hgenerated⟩

lemma reportable_iff (h : p.RefersToMore q) (hst : s.RefersToMore t) :
    Reportable q scope t ↔ Reportable p scope s := by
  have hfile : q.relative t.path = p.relative s.path := by rw [relative_eq h, hst.path]
  exact ⟨Reportable.congr hst.path.symm hst.parseFailed.symm hfile.symm,
    Reportable.congr hst.path hst.parseFailed hfile⟩

/-! ## The indexes grow -/

lemma referencedNames_subset (h : p.RefersToMore q) : referencedNames p ⊆ referencedNames q :=
  flatMap_subset_of_forall₂ h.sheets fun _ _ hst =>
    List.append_subset.mpr
      ⟨List.subset_append_of_subset_left _ (List.map_subset _ hst.calls),
        List.subset_append_of_subset_right _ hst.parents⟩

lemma importedNames_subset (h : p.RefersToMore q) :
    importedNames p config.defaultExtension ⊆ importedNames q config.defaultExtension := by
  refine flatMap_subset_of_forall₂ h.sheets fun s t hst => ?_
  rw [contains_eq h, hst.path]
  exact List.filterMap_subset _ (List.filter_subset _ hst.imports)

/-! ## The dead items shrink -/

lemma deadDeclarations_sublist {referenced referenced' : List String} {file : Path}
    (hst : s.RefersToMore t) (h : referenced ⊆ referenced') :
    (deadDeclarations referenced' config file t).Sublist
      (deadDeclarations referenced config file s) := by
  rw [deadDeclarations, deadDeclarations, hst.declarations]
  refine (List.monotone_filter_right _ fun d hd => ?_).map _
  simp only [Bool.and_eq_true, Bool.not_eq_true', List.contains_eq_mem,
    decide_eq_false_iff_not] at hd ⊢
  exact ⟨⟨hd.1.1, fun hmem => hd.1.2 (h hmem)⟩, hd.2⟩

lemma isImported_mono {imported imported' : List ImportedName} (h : imported ⊆ imported')
    {n : String} {file : Path} (hn : isImported imported n file = true) :
    isImported imported' n file = true := by
  rw [isImported, List.any_eq_true] at hn ⊢
  obtain ⟨i, hi, hmatch⟩ := hn
  exact ⟨i, h hi, hmatch⟩

lemma deadExports_sublist {imported imported' : List ImportedName} {file : Path}
    (hst : s.RefersToMore t) (h : imported ⊆ imported') :
    (deadExports imported' config file t).Sublist (deadExports imported config file s) := by
  have hqualifiers : s.calls.filterMap (·.qualifier) ⊆ t.calls.filterMap (·.qualifier) :=
    List.filterMap_subset _ hst.calls
  rw [deadExports, deadExports, hst.exports, hst.path]
  refine (List.monotone_filter_right _ fun e he => ?_).map _
  simp only [Bool.and_eq_true, Bool.not_eq_true', List.contains_eq_mem,
    decide_eq_false_iff_not] at he ⊢
  obtain ⟨⟨⟨⟨himported, hname⟩, hbound⟩, hnameFree⟩, hboundFree⟩ := he
  refine ⟨⟨⟨⟨?_, fun hmem => hname (hqualifiers hmem)⟩, fun hmem => hbound (hqualifiers hmem)⟩,
    hnameFree⟩, hboundFree⟩
  rw [Bool.eq_false_iff] at himported ⊢
  exact mt (isImported_mono h) himported

lemma sheetItems_filter_ne_localName :
    (sheetItems files p config s).filter (·.kind != .localName) =
      deadDeclarations (referencedNames p) config (p.relative s.path) s
        ++ if isEntryFile p (Manifest.load? files p.root) config s.path then []
          else deadExports (importedNames p config.defaultExtension) config (p.relative s.path)
            s := by
  have hdeclarations : ∀ x ∈ deadDeclarations (referencedNames p) config (p.relative s.path) s,
      (x.kind != .localName) = true := by
    intro x hx
    have hkind := isDeclaration_of_mem_deadDeclarations hx
    cases x with
    | mk kind => cases kind <;> first | rfl | cases hkind
  have hexports : ∀ x ∈ (if isEntryFile p (Manifest.load? files p.root) config s.path then []
      else deadExports (importedNames p config.defaultExtension) config (p.relative s.path) s),
      (x.kind != .localName) = true := by
    intro x hx
    split_ifs at hx
    · cases hx
    · rw [kind_of_mem_deadExports hx]
      rfl
  have hlocals : ∀ x ∈ unusedLocals files (p.relative s.path) s,
      (x.kind != .localName) = false := by
    intro x hx
    rw [kind_of_mem_unusedLocals hx]
    rfl
  rw [sheetItems]
  exact filter_front (fun x hx => (List.mem_append.mp hx).elim (hdeclarations x) (hexports x))
    hlocals

lemma sheetItems_sublist (h : p.RefersToMore q) (hst : s.RefersToMore t) :
    ((sheetItems files q config t).filter (·.kind != .localName)).Sublist
      ((sheetItems files p config s).filter (·.kind != .localName)) := by
  rw [sheetItems_filter_ne_localName, sheetItems_filter_ne_localName, isEntryFile_eq h, h.root,
    relative_eq h, hst.path]
  refine (deadDeclarations_sublist hst (referencedNames_subset h)).append ?_
  split_ifs
  · exact List.Sublist.refl _
  · exact deadExports_sublist hst (importedNames_subset h)

lemma deadItems_sublist (h : p.RefersToMore q) :
    ((deadItems files q scope config).filter (·.kind != .localName)).Sublist
      ((deadItems files p scope config).filter (·.kind != .localName)) := by
  have hsheets : List.Forall₂ FactSheet.RefersToMore (reportedSheets p scope)
      (reportedSheets q scope) :=
    List.rel_filter (fun _ _ hst => by simp [reportable_iff h hst]) h.sheets
  rw [deadItems_eq_mergeSort, deadItems_eq_mergeSort, filter_mergeSort itemLe_trans itemLe_total,
    filter_mergeSort itemLe_trans itemLe_total, List.filter_flatMap, List.filter_flatMap]
  exact mergeSort_sublist_mergeSort itemLe_trans itemLe_total
    (flatMap_sublist_of_forall₂ hsheets fun _ _ hst => sheetItems_sublist h hst)

end

/-- Where references are added, an uncut report of the first project has, in their order, all dead
functions, classes, methods and exports that a report of the second one lists. -/
theorem classify_refersToMore (files : FileSystem) {p q : Project} (h : p.RefersToMore q)
    (scope : Path) (config : LivenessConfig) (limit limit' : ℕ)
    (hlimit : (classify files p scope config limit).total ≤ limit) :
    ((classify files q scope config limit').items.filter (·.kind != .localName)).Sublist
      ((classify files p scope config limit).items.filter (·.kind != .localName)) := by
  rw [classify_items hlimit]
  exact ((List.take_sublist _ _).filter _).trans (deadItems_sublist h)

/-- Every script also calls the function that the sample leaves unused, and imports its file. -/
def busyProject : Project :=
  { sampleProject with sheets := sampleProject.sheets.map fun s =>
    { s with
      calls := s.calls ++ [⟨none, "unused", none, 9⟩]
      imports := s.imports ++ [⟨wildcard, "a", "./a", .esm, 1⟩] } }

theorem classify_refersToMore_busyProject :
    sampleProject.RefersToMore busyProject ∧
      (classify .empty sampleProject ⟨true, ["app"]⟩ Config.default.liveness 50).total ≤ 50 ∧
      ((classify .empty busyProject ⟨true, ["app"]⟩ Config.default.liveness 50).items.filter
        (·.kind != .localName)).Sublist
          ((classify .empty sampleProject ⟨true, ["app"]⟩ Config.default.liveness 50).items.filter
            (·.kind != .localName)) := by
  have hmore : sampleProject.RefersToMore busyProject := by
    refine ⟨rfl, List.forall₂_map_right_iff.mpr (List.forall₂_same.mpr fun s _ => ?_)⟩
    exact ⟨rfl, rfl, rfl, rfl, List.subset_append_left .., List.subset_append_left ..,
      List.Subset.refl _⟩
  have hlimit : (classify .empty sampleProject ⟨true, ["app"]⟩ Config.default.liveness 50).total
      ≤ 50 := by
    rw [classify_total]
    decide +kernel
  exact ⟨hmore, hlimit, classify_refersToMore .empty hmore _ _ _ _ hlimit⟩

end Liveness

end ScriptSurvey
