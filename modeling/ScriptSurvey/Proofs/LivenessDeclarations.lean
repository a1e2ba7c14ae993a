import ScriptSurvey.Proofs.LivenessReport

/-!
# Dead declarations

A declaration is dead when nothing in the whole project refers to its name: no call, no class that
extends it, no export and no exemption. A report lists exactly the dead declarations of its sheets,
each once.
-/
namespace ScriptSurvey.Liveness

def DeadKind.isDeclaration : DeadKind → Bool
  | .function | .classDef | .method => true
  | .exportName | .localName => false

/-- No sheet of the project, in the report or not, refers to the declaration. -/
structure DeadDeclaration (project : Project) (config : LivenessConfig) (d : Declaration) :
    Prop where
  notExported : d.exported = false
  notConstructor : d.name ≠ "constructor"
  notEntryPoint : d.name ∉ config.entryPoints
  notCalled : ∀ s ∈ project.sheets, ∀ c ∈ s.calls, c.callee ≠ d.name
  notExtended : ∀ s ∈ project.sheets, ∀ c ∈ s.classes, c.parent ≠ some d.name

instance (project : Project) (config : LivenessConfig) :
    DecidablePred (DeadDeclaration project config) := fun d =>
  decidable_of_iff
    (d.exported = false ∧ d.name ≠ "constructor" ∧ d.name ∉ config.entryPoints
      ∧ (∀ s ∈ project.sheets, ∀ c ∈ s.calls, c.callee ≠ d.name)
      ∧ ∀ s ∈ project.sheets, ∀ c ∈ s.classes, c.parent ≠ some d.name)
    ⟨fun ⟨h₁, h₂, h₃, h₄, h₅⟩ => ⟨h₁, h₂, h₃, h₄, h₅⟩,
      fun ⟨h₁, h₂, h₃, h₄, h₅⟩ => ⟨h₁, h₂, h₃, h₄, h₅⟩⟩

def declarationItem (project : Project) (s : FactSheet) (d : Declaration) : DeadItem :=
  ⟨.ofDeclaration d.kind, d.name, d.owner, project.relative s.path, d.line⟩

section

variable {files : FileSystem} {project : Project} {scope : Path} {config : LivenessConfig}

lemma mem_referencedNames_iff (n : String) :
    n ∈ referencedNames project ↔
      (∃ s ∈ project.sheets, ∃ c ∈ s.calls, c.callee = n)
        ∨ ∃ s ∈ project.sheets, ∃ c ∈ s.classes, c.parent = some n := by
  simp only [referencedNames, List.mem_flatMap, List.mem_append, List.mem_map, List.mem_filterMap]
  constructor
  · rintro ⟨s, hs, hcall | hclass⟩
    · exact Or.inl ⟨s, hs, hcall⟩
    · exact Or.inr ⟨s, hs, hclass⟩
  · rintro (⟨s, hs, hcall⟩ | ⟨s, hs, hclass⟩)
    · exact ⟨s, hs, Or.inl hcall⟩
    · exact ⟨s, hs, Or.inr hclass⟩

lemma isExempt_eq_false_iff (n : String) :
    isExempt config n = false ↔ n ≠ "constructor" ∧ n ∉ config.entryPoints := by
  simp [isExempt]

lemma deadDeclaration_iff (d : Declaration) :
    DeadDeclaration project config d ↔
      (!d.exported && !(referencedNames project).contains d.name && !isExempt config d.name)
        = true := by
  have hreferenced : d.name ∉ referencedNames project ↔
      (∀ s ∈ project.sheets, ∀ c ∈ s.calls, c.callee ≠ d.name)
        ∧ ∀ s ∈ project.sheets, ∀ c ∈ s.classes, c.parent ≠ some d.name := by
    rw [mem_referencedNames_iff]
    push Not
    rfl
  simp only [Bool.and_eq_true, Bool.not_eq_true', List.contains_eq_mem, decide_eq_false_iff_not,
    isExempt_eq_false_iff, hreferenced]
  constructor
  · rintro ⟨hexported, hconstructor, hpoint, hcalled, hextended⟩
    exact ⟨⟨hexported, hcalled, hextended⟩, hconstructor, hpoint⟩
  · rintro ⟨⟨hexported, hcalled, hextended⟩, hconstructor, hpoint⟩
    exact ⟨hexported, hconstructor, hpoint, hcalled, hextended⟩

lemma deadDeclarations_eq (s : FactSheet) :
    deadDeclarations (referencedNames project) config (project.relative s.path) s =
      (s.declarations.filter (DeadDeclaration project config ·)).map
        (declarationItem project s) := by
  unfold deadDeclarations
  congr 1
  apply List.filter_congr
  intro d _
  rw [Bool.eq_iff_iff, decide_eq_true_eq, deadDeclaration_iff]

/-! ## The kinds of items -/

lemma isDeclaration_of_mem_deadDeclarations {referenced : List String} {file : Path}
    {s : FactSheet} {x : DeadItem} (hx : x ∈ deadDeclarations referenced config file s) :
    x.kind.isDeclaration = true := by
  obtain ⟨d, _, rfl⟩ := List.mem_map.mp hx
  change (DeadKind.ofDeclaration d.kind).isDeclaration = true
  cases d.kind <;> rfl

lemma kind_of_mem_deadExports {imported : List ImportedName} {file : Path} {s : FactSheet}
    {x : DeadItem} (hx : x ∈ deadExports imported config file s) : x.kind = .exportName := by
  obtain ⟨b, _, rfl⟩ := List.mem_map.mp hx
  rfl

lemma kind_of_mem_unusedLocals {file : Path} {s : FactSheet} {x : DeadItem}
    (hx : x ∈ unusedLocals files file s) : x.kind = .localName := by
  unfold unusedLocals at hx
  split at hx
  · simp at hx
  · obtain ⟨b, _, rfl⟩ := List.mem_map.mp hx
    rfl

lemma sheetItems_filter_isDeclaration (s : FactSheet) :
    (sheetItems files project config s).filter (·.kind.isDeclaration) =
      deadDeclarations (referencedNames project) config (project.relative s.path) s := by
  have hexports : ∀ x ∈ (if isEntryFile project (Manifest.load? files project.root) config s.path
      then [] else deadExports (importedNames project config.defaultExtension) config
        (project.relative s.path) s), ¬x.kind.isDeclaration = true := by
    intro x hx
    split_ifs at hx
    · simp at hx
    · simp [kind_of_mem_deadExports hx, DeadKind.isDeclaration]
  have hlocals : ∀ x ∈ unusedLocals files (project.relative s.path) s,
      ¬x.kind.isDeclaration = true := by
    intro x hx
    simp [kind_of_mem_unusedLocals hx, DeadKind.isDeclaration]
  rw [sheetItems, List.filter_append, List.filter_append, List.filter_eq_nil_iff.mpr hexports,
    List.filter_eq_nil_iff.mpr hlocals, List.append_nil, List.append_nil, List.filter_eq_self]
  exact fun x hx => isDeclaration_of_mem_deadDeclarations hx

lemma deadItems_filter_isDeclaration :
    ((deadItems files project scope config).filter (·.kind.isDeclaration)).Perm
      ((reportedSheets project scope).flatMap fun s =>
        (s.declarations.filter (DeadDeclaration project config ·)).map
          (declarationItem project s)) := by
  refine (deadItems_perm.filter _).trans ?_
  rw [List.filter_flatMap]
  apply List.Perm.of_eq
  congr 1
  funext s
  rw [sheetItems_filter_isDeclaration, deadDeclarations_eq]

lemma not_called_of_mem_classify {limit : Nat} {x : DeadItem}
    (hx : x ∈ (classify files project scope config limit).items)
    (hkind : x.kind.isDeclaration = true) {s : FactSheet} (hs : s ∈ project.sheets) {c : CallSite}
    (hc : c ∈ s.calls) : c.callee ≠ x.name := by
  have hmem : x ∈ (deadItems files project scope config).filter (·.kind.isDeclaration) :=
    List.mem_filter.mpr ⟨List.mem_of_mem_take hx, hkind⟩
  rw [deadItems_filter_isDeclaration.mem_iff, List.mem_flatMap] at hmem
  obtain ⟨t, _, ht⟩ := hmem
  obtain ⟨d, hd, rfl⟩ := List.mem_map.mp ht
  have hdead : DeadDeclaration project config d := by simpa using (List.mem_filter.mp hd).2
  exact hdead.notCalled s hs c hc

end

/-- A report that is not cut lists each dead declaration of its sheets once, sorted and counted
together with all other items. -/
theorem classify_declarations (files : FileSystem) (project : Project) (scope : Path)
    (config : LivenessConfig) (limit : Nat)
    (h : (classify files project scope config limit).total ≤ limit) :
    let report := classify files project scope config limit
    (report.items.filter (·.kind.isDeclaration)).Perm
        ((reportedSheets project scope).flatMap fun s =>
          (s.declarations.filter (DeadDeclaration project config ·)).map
            (declarationItem project s))
      ∧ report.items.Pairwise ItemOrder
      ∧ report.total = report.items.length
      ∧ (report.byKind.map Prod.fst).Nodup
      ∧ ∀ k n, (k, n) ∈ report.byKind ↔ 0 < n ∧ n = report.items.countP (·.kind == k) := by
  intro report
  have hitems : report.items = deadItems files project scope config := classify_items h
  rw [hitems]
  exact ⟨deadItems_filter_isDeclaration, deadItems_pairwise, rfl, countKinds_nodup _,
    mem_countKinds_iff _⟩

def declaringSheet (names : List String) (declarations : List Declaration) (calls : List CallSite)
    (classes : List ClassInfo) : FactSheet :=
  { FactSheet.failed ⟨true, names⟩ .javaScript 9 with
    parseFailed := false, declarations := declarations, calls := calls, classes := classes }

/-- A test calls `helper` and extends `Base`; `onLoad` is an entry point and `api` exported. -/
def sampleProject : Project where
  root := ⟨true, ["app"]⟩
  sheets := [
    declaringSheet ["app", "a.js"]
      [⟨"unused", .function, none, 7, false, false⟩, ⟨"helper", .function, none, 2, false, false⟩,
        ⟨"Base", .classDef, none, 3, false, false⟩,
        ⟨"constructor", .method, some "Base", 4, false, false⟩,
        ⟨"run", .method, some "Base", 5, false, false⟩,
        ⟨"api", .function, none, 6, true, false⟩, ⟨"onLoad", .function, none, 8, false, false⟩]
      [] [],
    declaringSheet ["app", "tests", "t.js"] [⟨"spare", .function, none, 1, false, false⟩]
      [⟨none, "helper", none, 2⟩] [⟨"Child", 3, some "Base", [], []⟩]]

theorem classify_declarations_sample :
    (classify ⟨.dir []⟩ sampleProject ⟨true, ["app"]⟩ ⟨["onLoad"], [], "js", 50⟩ 50).total ≤ 50
      ∧ ((classify ⟨.dir []⟩ sampleProject ⟨true, ["app"]⟩ ⟨["onLoad"], [], "js", 50⟩
          50).items.filter (·.kind.isDeclaration)).Perm
        [⟨.function, "unused", none, ⟨false, ["a.js"]⟩, 7⟩,
          ⟨.method, "run", some "Base", ⟨false, ["a.js"]⟩, 5⟩] := by
  have h : (classify ⟨.dir []⟩ sampleProject ⟨true, ["app"]⟩ ⟨["onLoad"], [], "js", 50⟩ 50).total
      ≤ 50 := by
    rw [classify_total]
    decide +kernel
  refine ⟨h, (classify_declarations _ _ _ _ _ h).1.trans (List.Perm.of_eq ?_)⟩
  decide +kernel

end ScriptSurvey.Liveness
