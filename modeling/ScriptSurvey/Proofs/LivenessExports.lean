import ScriptSurvey.Proofs.FirstOccurrences
import ScriptSurvey.Proofs.LivenessDeclarations

/-!
# Dead exports

An export is dead when no import of the project reaches it and its own file does not use it either;
the exports of entry files never are. A report lists the dead exports of each of its sheets, every
name at most once.
-/
namespace ScriptSurvey.Liveness

/-- A relative import somewhere in the project resolves to the file and takes the name from it, by
itself or together with all others. -/
def Imported (project : Project) (config : LivenessConfig) (file : Path) (n : String) : Prop :=
  ∃ t ∈ project.sheets, ∃ i ∈ t.imports, i.isRelative = true
    ∧ (Resolution.resolve t.path i.source project.contains config.defaultExtension).path?
        = some file
    ∧ (i.imported = n ∨ i.imported = wildcard)

def QualifiesCall (s : FactSheet) (n : String) : Prop := ∃ c ∈ s.calls, c.qualifier = some n

/-- Entry modules of a manifest are relative even without a leading dot. -/
def entrySpecifier (spec : String) : String := if spec.startsWith "." then spec else "./" ++ spec

inductive EntryFile (files : FileSystem) (project : Project) (config : LivenessConfig)
    (file : Path) : Prop where
  | manifest {m : Manifest} {spec : String} {p : Path}
      (loaded : Manifest.load? files project.root = some m)
      (named : m.main = some spec ∨ m.module = some spec)
      (resolved : (Resolution.resolve (project.root.child Manifest.fileName) (entrySpecifier spec)
        project.contains config.defaultExtension).path? = some p)
      (here : p.normalize = file)
  | pattern {text : String} {g : Glob}
      (listed : text ∈ config.entryFiles)
      (parsed : Glob.parse text = .ok g)
      (covers : g.isMatch (project.relative file).toString = true)

/-- The first export of its name, with nothing that uses it under either of its names. -/
structure DeadExport (files : FileSystem) (project : Project) (config : LivenessConfig)
    (s : FactSheet) (b : ExportBinding) : Prop where
  first : s.exports.find? (·.name == b.name) = some b
  notEntry : ¬EntryFile files project config s.path
  notImported : ¬Imported project config s.path b.name
  notQualifier : ¬QualifiesCall s b.name ∧ ¬QualifiesCall s b.bound
  notConstructor : b.name ≠ "constructor" ∧ b.bound ≠ "constructor"
  notEntryPoint : b.name ∉ config.entryPoints ∧ b.bound ∉ config.entryPoints

def exportItem (project : Project) (s : FactSheet) (b : ExportBinding) : DeadItem :=
  ⟨.exportName, b.name, none, project.relative s.path, b.line⟩

section

variable {files : FileSystem} {project : Project} {scope : Path} {config : LivenessConfig}

/-! ## The indexes of a report -/

lemma isImported_iff (n : String) (file : Path) :
    isImported (importedNames project config.defaultExtension) n file = true ↔
      Imported project config file n := by
  simp only [isImported, List.any_eq_true, importedNames, List.mem_flatMap, List.mem_filterMap,
    List.mem_filter, Option.map_eq_some_iff, Bool.and_eq_true, Bool.or_eq_true, beq_iff_eq]
  constructor
  · rintro ⟨_, ⟨t, ht, i, ⟨hi, hrelative⟩, target, htarget, rfl⟩, rfl, hname⟩
    exact ⟨t, ht, i, hi, hrelative, htarget, hname.symm⟩
  · rintro ⟨t, ht, i, hi, hrelative, htarget, hname⟩
    exact ⟨⟨i.imported, file⟩, ⟨t, ht, i, ⟨hi, hrelative⟩, file, htarget, rfl⟩, rfl, hname.symm⟩

lemma mem_qualifiers_iff (s : FactSheet) (n : String) :
    n ∈ s.calls.filterMap (·.qualifier) ↔ QualifiesCall s n := by
  rw [List.mem_filterMap, QualifiesCall]

lemma mem_manifestEntries_iff (m : Manifest) (file : Path) :
    file ∈ manifestEntries project m config ↔
      ∃ spec, (m.main = some spec ∨ m.module = some spec) ∧ ∃ p,
        (Resolution.resolve (project.root.child Manifest.fileName) (entrySpecifier spec)
          project.contains config.defaultExtension).path? = some p ∧ p.normalize = file := by
  simp only [manifestEntries, List.mem_filterMap, List.mem_append, Option.mem_toList,
    Option.map_eq_some_iff, entrySpecifier]

lemma any_entryGlobs_iff (text : String) :
    ((entryGlobs config).any fun g => g.isMatch text) = true ↔
      ∃ pattern ∈ config.entryFiles, ∃ g, Glob.parse pattern = .ok g ∧ g.isMatch text = true := by
  simp only [List.any_eq_true, entryGlobs, List.mem_filterMap]
  constructor
  · rintro ⟨g, ⟨pattern, hpattern, hg⟩, hmatch⟩
    refine ⟨pattern, hpattern, g, ?_, hmatch⟩
    cases hparse : Glob.parse pattern with
    | error e => simp [hparse, Except.toOption] at hg
    | ok g' =>
      rw [hparse] at hg
      rw [Option.some.inj hg]
  · rintro ⟨pattern, hpattern, g, hparse, hmatch⟩
    exact ⟨g, ⟨pattern, hpattern, by rw [hparse]; rfl⟩, hmatch⟩

lemma isEntryFile_iff (file : Path) :
    isEntryFile project (Manifest.load? files project.root) config file = true ↔
      EntryFile files project config file := by
  rw [isEntryFile, Bool.or_eq_true, any_entryGlobs_iff]
  constructor
  · rintro (hmanifest | ⟨text, hlisted, g, hparsed, hcovers⟩)
    · cases hload : Manifest.load? files project.root with
      | none => simp [hload] at hmanifest
      | some m =>
        rw [hload, Option.map_some, Option.getD_some, List.contains_iff_mem,
          mem_manifestEntries_iff] at hmanifest
        obtain ⟨spec, hnamed, p, hresolved, hhere⟩ := hmanifest
        exact .manifest hload hnamed hresolved hhere
    · exact .pattern hlisted hparsed hcovers
  · rintro (⟨hload, hnamed, hresolved, hhere⟩ | ⟨hlisted, hparsed, hcovers⟩)
    · left
      rw [hload, Option.map_some, Option.getD_some, List.contains_iff_mem,
        mem_manifestEntries_iff]
      exact ⟨_, hnamed, _, hresolved, hhere⟩
    · exact Or.inr ⟨_, hlisted, _, hparsed, hcovers⟩

instance (file : Path) : Decidable (EntryFile files project config file) :=
  decidable_of_iff _ (isEntryFile_iff file)

instance (file : Path) (n : String) : Decidable (Imported project config file n) :=
  decidable_of_iff _ (isImported_iff n file)

instance (s : FactSheet) (n : String) : Decidable (QualifiesCall s n) :=
  decidable_of_iff _ (mem_qualifiers_iff s n)

instance (s : FactSheet) : DecidablePred (DeadExport files project config s) := fun b =>
  decidable_of_iff
    (s.exports.find? (·.name == b.name) = some b ∧ ¬EntryFile files project config s.path
      ∧ ¬Imported project config s.path b.name
      ∧ (¬QualifiesCall s b.name ∧ ¬QualifiesCall s b.bound)
      ∧ (b.name ≠ "constructor" ∧ b.bound ≠ "constructor")
      ∧ (b.name ∉ config.entryPoints ∧ b.bound ∉ config.entryPoints))
    ⟨fun ⟨h₁, h₂, h₃, h₄, h₅, h₆⟩ => ⟨h₁, h₂, h₃, h₄, h₅, h₆⟩,
      fun ⟨h₁, h₂, h₃, h₄, h₅, h₆⟩ => ⟨h₁, h₂, h₃, h₄, h₅, h₆⟩⟩

/-! ## The dead exports of a sheet -/

lemma firstExports_eq (exports : List ExportBinding) :
    firstExports exports = keepFirst (fun a b => a.name == b.name) exports := rfl

lemma same_name_iff (a b : ExportBinding) : (a.name == b.name) = true ↔ a.name = b.name :=
  beq_iff_eq

lemma mem_deadExports_iff (s : FactSheet) (hentry : ¬EntryFile files project config s.path)
    (x : DeadItem) :
    x ∈ deadExports (importedNames project config.defaultExtension) config
        (project.relative s.path) s ↔
      ∃ b, DeadExport files project config s b ∧ x = exportItem project s b := by
  simp only [deadExports, List.mem_map, List.mem_filter, Bool.and_eq_true, Bool.not_eq_true',
    List.contains_eq_mem, decide_eq_false_iff_not, isExempt_eq_false_iff, mem_qualifiers_iff,
    firstExports_eq, mem_keepFirst_iff same_name_iff]
  constructor
  · rintro ⟨b, ⟨hfirst, ⟨⟨⟨himported, hname⟩, hbound⟩, hnameFree⟩, hboundFree⟩, rfl⟩
    refine ⟨b, ⟨hfirst, hentry, ?_, ⟨hname, hbound⟩, ⟨hnameFree.1, hboundFree.1⟩,
      hnameFree.2, hboundFree.2⟩, rfl⟩
    rw [← isImported_iff, himported]
    exact Bool.false_ne_true
  · rintro ⟨b, hdead, rfl⟩
    have himported : isImported (importedNames project config.defaultExtension) b.name s.path
        = false := Bool.eq_false_iff.mpr (mt (isImported_iff _ _).mp hdead.notImported)
    exact ⟨b, ⟨hdead.first, ⟨⟨⟨himported, hdead.notQualifier.1⟩, hdead.notQualifier.2⟩,
      hdead.notConstructor.1, hdead.notEntryPoint.1⟩, hdead.notConstructor.2,
      hdead.notEntryPoint.2⟩, rfl⟩

lemma nodup_names_deadExports (imported : List ImportedName) (file : Path) (s : FactSheet) :
    ((deadExports imported config file s).map (·.name)).Nodup := by
  have hfirst : ((firstExports s.exports).map (·.name)).Nodup :=
    nodup_map_keepFirst same_name_iff s.exports
  rw [deadExports, List.map_map]
  exact hfirst.sublist (List.filter_sublist.map _)

def sheetExportItems (files : FileSystem) (project : Project) (config : LivenessConfig)
    (s : FactSheet) : List DeadItem :=
  (sheetItems files project config s).filter (·.kind == .exportName)

lemma sheetExportItems_eq (s : FactSheet) :
    sheetExportItems files project config s =
      if EntryFile files project config s.path then []
      else deadExports (importedNames project config.defaultExtension) config
        (project.relative s.path) s := by
  have hdeclarations : ∀ x ∈ deadDeclarations (referencedNames project) config
      (project.relative s.path) s, ¬(x.kind == .exportName) = true := by
    intro x hx hkind
    have hdeclaration := isDeclaration_of_mem_deadDeclarations hx
    rw [beq_iff_eq.mp hkind] at hdeclaration
    exact Bool.false_ne_true hdeclaration
  have hlocals : ∀ x ∈ unusedLocals files (project.relative s.path) s,
      ¬(x.kind == .exportName) = true := by
    intro x hx
    rw [kind_of_mem_unusedLocals hx]
    decide
  rw [sheetExportItems, sheetItems, List.filter_append, List.filter_append,
    List.filter_eq_nil_iff.mpr hdeclarations, List.filter_eq_nil_iff.mpr hlocals, List.nil_append,
    List.append_nil]
  by_cases hentry : EntryFile files project config s.path
  · rw [if_pos ((isEntryFile_iff s.path).mpr hentry), if_pos hentry, List.filter_nil]
  · rw [if_neg (mt (isEntryFile_iff s.path).mp hentry), if_neg hentry, List.filter_eq_self]
    intro x hx
    rw [kind_of_mem_deadExports hx]
    rfl

lemma mem_sheetExportItems_iff (s : FactSheet) (x : DeadItem) :
    x ∈ sheetExportItems files project config s ↔
      ∃ b, DeadExport files project config s b ∧ x = exportItem project s b := by
  rw [sheetExportItems_eq]
  split_ifs with hentry
  · simp only [List.not_mem_nil, false_iff, not_exists, not_and]
    exact fun b hdead => absurd hentry hdead.notEntry
  · exact mem_deadExports_iff s hentry x

lemma nodup_names_sheetExportItems (s : FactSheet) :
    ((sheetExportItems files project config s).map (·.name)).Nodup := by
  rw [sheetExportItems_eq]
  split_ifs
  · exact List.nodup_nil
  · exact nodup_names_deadExports _ _ s

lemma deadItems_filter_exportName :
    ((deadItems files project scope config).filter (·.kind == .exportName)).Perm
      ((reportedSheets project scope).flatMap (sheetExportItems files project config)) := by
  refine (deadItems_perm.filter _).trans (List.Perm.of_eq ?_)
  rw [List.filter_flatMap]
  rfl

end

/-- The export items of a report that is not cut are the dead exports of its sheets. They come in
one group for each sheet, in which every name stands at most once. -/
theorem classify_exports (files : FileSystem) (project : Project) (scope : Path)
    (config : LivenessConfig) (limit : Nat)
    (h : (classify files project scope config limit).total ≤ limit) :
    let report := classify files project scope config limit
    (∀ x, x ∈ report.items ∧ x.kind = .exportName ↔
        ∃ s ∈ reportedSheets project scope, ∃ b, DeadExport files project config s b
          ∧ x = exportItem project s b)
      ∧ ∃ group : FactSheet → List DeadItem,
        (report.items.filter (·.kind == .exportName)).Perm
            ((reportedSheets project scope).flatMap group)
          ∧ ∀ s, ((group s).map (·.name)).Nodup
            ∧ ∀ x, x ∈ group s ↔
              ∃ b, DeadExport files project config s b ∧ x = exportItem project s b := by
  intro report
  have hitems : report.items = deadItems files project scope config := classify_items h
  have hperm : (report.items.filter (·.kind == .exportName)).Perm
      ((reportedSheets project scope).flatMap (sheetExportItems files project config)) := by
    rw [hitems]
    exact deadItems_filter_exportName
  refine ⟨fun x => ?_, sheetExportItems files project config, hperm, fun s =>
    ⟨nodup_names_sheetExportItems s, mem_sheetExportItems_iff s⟩⟩
  have hx := hperm.mem_iff (a := x)
  simp only [List.mem_filter, beq_iff_eq, List.mem_flatMap, mem_sheetExportItems_iff] at hx
  exact hx

def linkingSheet (names : List String) (imports : List ImportBinding)
    (exports : List ExportBinding) (calls : List CallSite) : FactSheet :=
  { FactSheet.failed ⟨true, names⟩ .javaScript 9 with
    parseFailed := false, imports := imports, exports := exports, calls := calls }

/-- The test imports one export, the file uses another under its own name, and the manifest names
the other file. -/
def linkedProject : Project where
  root := ⟨true, ["app"]⟩
  sheets := [
    linkingSheet ["app", "index.js"] [] [⟨"start", "start", 1, .named⟩] [],
    linkingSheet ["app", "lib", "a.js"] []
      [⟨"used", "used", 1, .named⟩, ⟨"Store", "inner", 2, .named⟩, ⟨"spare", "hidden", 3, .named⟩,
        ⟨"spare", "other", 4, .named⟩]
      [⟨none, "open", some "inner", 5⟩],
    linkingSheet ["app", "tests", "t.js"] [⟨"used", "u", "../lib/a", .esm, 1⟩] [] []]

def linkedFiles : FileSystem :=
  ⟨.dir [("app", .dir [("package.json", .file (.ofText "\x7b\"main\": \"index\"\x7d"))])]⟩

/-- The second export without a use is reported once; the imported one, the one that qualifies a call
and that of the entry file are not. -/
theorem classify_exports_linked :
    let report := classify linkedFiles linkedProject ⟨true, ["app"]⟩ ⟨[], [], "js", 50⟩ 50
    report.total ≤ 50
      ∧ (∀ x, x ∈ report.items ∧ x.kind = .exportName ↔
        x = ⟨.exportName, "spare", none, ⟨false, ["lib", "a.js"]⟩, 3⟩)
      ∧ ∀ name ∈ ["used", "Store", "start"], ∀ x ∈ report.items,
        x.kind = .exportName → x.name ≠ name := by
  intro report
  have h : report.total ≤ 50 := by
    rw [classify_total]
    decide +kernel
  have hitems := (classify_exports _ _ _ _ _ h).1
  have hspare : ∀ x, x ∈ report.items ∧ x.kind = .exportName ↔
      x = ⟨.exportName, "spare", none, ⟨false, ["lib", "a.js"]⟩, 3⟩ := by
    intro x
    refine (hitems x).trans ⟨?_, ?_⟩
    · rintro ⟨s, hs, b, hdead, rfl⟩
      have hdead_spare : ∀ s ∈ reportedSheets linkedProject ⟨true, ["app"]⟩, ∀ b ∈ s.exports,
          DeadExport linkedFiles linkedProject ⟨[], [], "js", 50⟩ s b →
            exportItem linkedProject s b =
              ⟨.exportName, "spare", none, ⟨false, ["lib", "a.js"]⟩, 3⟩ := by
        decide +kernel
      exact hdead_spare s hs b (List.mem_of_find?_eq_some hdead.first) hdead
    · rintro rfl
      exact ⟨linkedProject.sheets[1], by decide +kernel, ⟨"spare", "hidden", 3, .named⟩,
        by decide +kernel, rfl⟩
  refine ⟨h, hspare, fun name hname x hx hkind => ?_⟩
  obtain rfl := (hspare x).mp ⟨hx, hkind⟩
  exact (List.forall_mem_ne.mpr (by decide)) name hname

end ScriptSurvey.Liveness
