import ScriptSurvey.Proofs.ProjectRoots
import ScriptSurvey.Proofs.StoredSets
import ScriptSurvey.Proofs.ViolationReports
import ScriptSurvey.Survey

/-!
# Rules below a directory

A check below a directory runs over the files of the project that lie there. With the sets of the
whole project it reports what the check of the project reports for these files. Sets that are asked for
are the same; detection looks at the files of the check, so it may see other marks below a directory.
-/
namespace ScriptSurvey

namespace Rules

/-! ## Detected sets -/

section

variable {files : FileSystem} {root : Path} {sets : List RuleSet} {disabled : List String}
  {paths paths' : List Path}

/-- Both lists of files show marks of the same sets, among those that the files decide about. -/
def MarkedAlike (files : FileSystem) (root : Path) (sets : List RuleSet) (disabled : List String)
    (paths paths' : List Path) : Prop :=
  ∀ set ∈ sets, disabled.contains set.name = false →
    isSettled ((Manifest.load? files root).getD Manifest.empty) set = false →
      isMarked (samples files paths) set = isMarked (samples files paths') set

lemma detect_eq_of_markedAlike (h : MarkedAlike files root sets disabled paths paths') :
    detect files root sets paths disabled = detect files root sets paths' disabled := by
  rw [detect, detect]
  congr 1
  refine List.filter_congr fun set hset => ?_
  obtain ⟨hset, henabled⟩ := List.mem_filter.mp hset
  cases hsettled : isSettled ((Manifest.load? files root).getD Manifest.empty) set with
  | true => rfl
  | false => exact h set hset (by simpa using henabled) hsettled

lemma names_detect_eq_iff (files : FileSystem) (root : Path) (disabled : List String)
    (paths paths' : List Path) (h : (sets.map (·.name)).Nodup) :
    (detect files root sets paths disabled).map (·.name) =
        (detect files root sets paths' disabled).map (·.name) ↔
      MarkedAlike files root sets disabled paths paths' := by
  rw [detect, detect, List.map_append, List.map_append, List.append_cancel_left_eq, List.filter_filter,
    List.filter_filter, map_filter_eq_iff h]
  refine forall₂_congr fun set _ => ?_
  cases disabled.contains set.name <;>
    cases isSettled ((Manifest.load? files root).getD Manifest.empty) set <;> simp

end

/-! ## Violations with their files -/

section

variable {files : FileSystem} {root : Path} {rules : List CompiledRule} {paths : List Path}

def violationsByPath (files : FileSystem) (root : Path) (rules : List CompiledRule)
    (paths : List Path) : List (Path × Violation) :=
  (paths.flatMap fun path => (checkFile files root rules path).map (Prod.mk path)).mergeSort
    fun a b => violationLe a.2 b.2

lemma map_snd_violationsByPath :
    (violationsByPath files root rules paths).map Prod.snd =
      (paths.flatMap (checkFile files root rules)).mergeSort violationLe := by
  rw [violationsByPath, List.map_mergeSort (s := violationLe) fun _ _ _ _ => rfl, List.map_flatMap]
  simp only [List.map_map, Function.comp_def, List.map_id']

/-- The order of the violations does not depend on the other files. -/
lemma filter_violationsByPath (p : Path → Bool) :
    (violationsByPath files root rules paths).filter (p ·.1) =
      violationsByPath files root rules (paths.filter p) := by
  have hother : ∀ path ∈ paths, p path = false →
      ((checkFile files root rules path).map (Prod.mk path)).filter (p ·.1) = [] := by
    intro path _ hp
    simp [List.filter_map, Function.comp_def, hp]
  rw [violationsByPath, filter_mergeSort (fun a b c => violationLe_trans a.2 b.2 c.2)
    fun a b => violationLe_total a.2 b.2, List.filter_flatMap, ← flatMap_filter_of_eq_nil hother,
    violationsByPath]
  refine congrArg (List.mergeSort · _) (List.flatMap_congr fun path hpath => ?_)
  simp [List.filter_map, Function.comp_def, (List.mem_filter.mp hpath).2]

lemma mem_violationsByPath_iff {entry : Path × Violation} :
    entry ∈ violationsByPath files root rules paths ↔
      entry.1 ∈ paths ∧ entry.2 ∈ checkFile files root rules entry.1 := by
  obtain ⟨path, v⟩ := entry
  simp only [violationsByPath, List.mem_mergeSort, List.mem_flatMap, List.mem_map, Prod.mk.injEq]
  constructor
  · rintro ⟨path, hpath, v, hv, rfl, rfl⟩
    exact ⟨hpath, hv⟩
  · rintro ⟨hpath, hv⟩
    exact ⟨path, hpath, v, hv, rfl, rfl⟩

end

end Rules

namespace Survey

/-! ## Checks of a project and below a directory -/

section

variable {files : FileSystem} {config : Config} {options : RuleOptions} {root scope : Path}
  {paths : List Path} {sets : List RuleSet} {text : String}

def report (files : FileSystem) (root : Path) (options : RuleOptions) (limit : ℕ)
    (paths : List Path) (sets : List RuleSet) : Rules.Report :=
  let full := Rules.run files root paths sets options.least
  { full with violations := full.violations.take limit }

lemma rules_of_error {e : Error} (hscope : files.canonical? text = some scope)
    (hroot : Walk.findProjectRoot files scope = root)
    (hfiles : ruleFiles files config root scope = .error e) :
    rules files config text options = .error e := by
  subst hroot
  rw [rules, hscope]
  simp only [hfiles]
  rfl

lemma rules_of_files (options : RuleOptions) (hscope : files.canonical? text = some scope)
    (hroot : Walk.findProjectRoot files scope = root)
    (hfiles : ruleFiles files config root scope = .ok paths) :
    rules files config text options =
      (chosenSets files config root (RuleStore.load files root config.rules) paths options.sets).map
        (report files root options (options.limit.getD config.rules.limit) paths) := by
  subst hroot
  rw [rules, hscope]
  simp only [hfiles]
  rfl

/-- Sets are chosen alike for two lists of files unless detection sees other marks in them. -/
lemma chosenSets_cases (config : Config) (root : Path) (names : Option (List String))
    (paths paths' : List Path) :
    let store := RuleStore.load files root config.rules
    (∃ e, chosenSets files config root store paths names = .error e ∧
      chosenSets files config root store paths' names = .error e) ∨
    ∃ sets sets', chosenSets files config root store paths names = .ok sets ∧
      chosenSets files config root store paths' names = .ok sets' ∧
      (sets'.map (·.name) = sets.map (·.name) ↔ names.isSome = true ∨
        Rules.MarkedAlike files root store.ruleSets config.rules.disabledSets paths' paths) ∧
      (sets'.map (·.name) = sets.map (·.name) → sets' = sets) := by
  intro store
  cases names with
  | some names =>
    cases hsets : namedSets store names with
    | error e => exact Or.inl ⟨e, hsets, hsets⟩
    | ok sets =>
      exact Or.inr ⟨sets, sets, hsets, hsets, iff_of_true rfl (Or.inl rfl), fun _ => rfl⟩
  | none =>
    have hdistinct : (store.ruleSets.map (·.name)).Nodup :=
      RuleStore.nodup_names_load files root config.rules
    have hnames := Rules.names_detect_eq_iff files root config.rules.disabledSets paths' paths
      hdistinct
    refine Or.inr ⟨_, _, rfl, rfl, ?_, fun heq => ?_⟩
    · rw [hnames]
      simp
    · exact Rules.detect_eq_of_markedAlike (hnames.mp heq)

lemma ruleFiles_scope (h : scope.startsWith root = true) :
    ruleFiles files config root scope =
      (ruleFiles files config root root).map (List.filter (·.startsWith scope)) := by
  rw [ruleFiles, ruleFiles]
  cases Walk.walk files config .scriptsAndMarkup root.toString with
  | error e => rfl
  | ok walked =>
    simp only [Except.map, List.filter_filter]
    refine congrArg Except.ok (List.filter_congr fun path _ => ?_)
    rw [Bool.eq_iff_iff, Bool.and_eq_true, iff_self_and]
    exact fun hpath => Path.startsWith_trans hpath h

lemma sets_report (limit : ℕ) :
    (report files root options limit paths sets).sets = sets.map (·.name) := rfl

lemma total_report (limit : ℕ) :
    (report files root options limit paths sets).total =
      (paths.flatMap (Rules.checkFile files root
        (Rules.compiledRules sets options.least))).length :=
  List.length_mergeSort _

lemma violations_report {limit : ℕ}
    (h : (report files root options limit paths sets).total ≤ limit) :
    (report files root options limit paths sets).violations =
      (Rules.violationsByPath files root (Rules.compiledRules sets options.least) paths).map
        Prod.snd := by
  rw [Rules.map_snd_violationsByPath]
  exact List.take_of_length_le h

lemma total_report_filter_le (limit : ℕ) (p : Path → Bool) :
    (report files root options limit (paths.filter p) sets).total ≤
      (report files root options limit paths sets).total := by
  rw [total_report, total_report]
  exact (List.filter_sublist.flatMap _).length_le

/-- With the same sets, the report on chosen files lists the violations of these files. -/
lemma violations_report_filter {limit : ℕ} (p : Path → Bool)
    (h : (report files root options limit paths sets).total ≤ limit) :
    (report files root options limit (paths.filter p) sets).violations =
      ((Rules.violationsByPath files root (Rules.compiledRules sets options.least) paths).filter
        (p ·.1)).map Prod.snd := by
  rw [violations_report ((total_report_filter_le limit p).trans h), Rules.filter_violationsByPath]

lemma violations_report_of_pairwise {limit : ℕ} {violations : List Violation}
    (h : paths.flatMap (Rules.checkFile files root (Rules.compiledRules sets options.least)) =
      violations)
    (hsorted : violations.Pairwise fun a b => Rules.violationLe a b = true)
    (hlimit : violations.length ≤ limit) :
    (report files root options limit paths sets).violations = violations := by
  rw [violations_report (by rwa [total_report, h]), Rules.map_snd_violationsByPath, h,
    List.mergeSort_of_pairwise hsorted]

lemma exists_found {limit : ℕ} (p : Path → Bool)
    (h : (report files root options limit paths sets).total ≤ limit) :
    ∃ found : List (Path × Violation),
      (report files root options limit paths sets).violations = found.map Prod.snd ∧
      (report files root options limit (paths.filter p) sets).violations =
        (found.filter (p ·.1)).map Prod.snd ∧
      ∀ entry ∈ found, entry.1 ∈ paths ∧
        entry.2 ∈ Rules.checkFile files root (Rules.compiledRules sets options.least) entry.1 :=
  ⟨_, violations_report h, violations_report_filter p h,
    fun _ hentry => Rules.mem_violationsByPath_iff.mp hentry⟩

end

/-- A check below a directory and the check of the whole project fail alike, or both succeed. The sets
are the same where they are asked for, and otherwise where the files below the directory show the
same marks as those of the project. With the same sets and no cut, the check below the directory lists
the violations of the project that come from files there. -/
theorem rules_scope (files : FileSystem) (config : Config) (options : RuleOptions)
    {rootText scopeText : String} {scope : Path}
    (hscope : files.canonical? scopeText = some scope)
    (hroot : files.canonical? rootText = some (Walk.findProjectRoot files scope)) :
    let root := Walk.findProjectRoot files scope
    let store := RuleStore.load files root config.rules
    (∃ e, rules files config rootText options = .error e ∧
      rules files config scopeText options = .error e) ∨
    ∃ paths sets whole part, ruleFiles files config root root = .ok paths ∧
      chosenSets files config root store paths options.sets = .ok sets ∧
      rules files config rootText options = .ok whole ∧
      rules files config scopeText options = .ok part ∧
      (part.sets = whole.sets ↔ options.sets.isSome = true ∨
        Rules.MarkedAlike files root store.ruleSets config.rules.disabledSets
          (paths.filter (·.startsWith scope)) paths) ∧
      (part.sets = whole.sets → whole.total ≤ options.limit.getD config.rules.limit →
        ∃ found : List (Path × Violation), whole.violations = found.map Prod.snd ∧
          part.violations = (found.filter (·.1.startsWith scope)).map Prod.snd ∧
          ∀ entry ∈ found, entry.1 ∈ paths ∧
            entry.2 ∈ Rules.checkFile files root (Rules.compiledRules sets options.least)
              entry.1) := by
  intro root store
  have hself : Walk.findProjectRoot files root = root := Walk.findProjectRoot_findProjectRoot ..
  have hfiles : ruleFiles files config root scope =
      (ruleFiles files config root root).map (List.filter (·.startsWith scope)) :=
    ruleFiles_scope (Walk.startsWith_findProjectRoot files scope)
  cases hpaths : ruleFiles files config root root with
  | error e =>
    rw [hpaths] at hfiles
    exact Or.inl ⟨e, rules_of_error hroot hself hpaths, rules_of_error hscope rfl hfiles⟩
  | ok paths =>
    rw [hpaths] at hfiles
    have hwhole := rules_of_files options hroot hself hpaths
    have hpart := rules_of_files options hscope rfl hfiles
    rcases chosenSets_cases config root options.sets paths (paths.filter (·.startsWith scope)) with
      ⟨e, hsets, hsets'⟩ | ⟨sets, sets', hsets, hsets', hnames, heq⟩
    · rw [hsets] at hwhole
      rw [hsets'] at hpart
      exact Or.inl ⟨e, hwhole, hpart⟩
    · rw [hsets] at hwhole
      rw [hsets'] at hpart
      refine Or.inr ⟨paths, sets, _, _, rfl, hsets, hwhole, hpart, hnames, fun hsame hlimit => ?_⟩
      rw [heq hsame]
      exact exists_found (·.startsWith scope) hlimit

/-- One page imports the module whose functions the other one calls. -/
def lodashFiles : FileSystem :=
  ⟨.dir [("proj", .dir [
    ("package.json", .file (.ofText "\x7b\x7d")),
    ("a", .dir [("page.html", .file (.ofText "import 'lodash'"))]),
    ("b", .dir [("page.html", .file (.ofText "_.isArray(z)"))])])]⟩

def lodashRoot : Path := ⟨true, ["proj"]⟩

def lodashScope : Path := ⟨true, ["proj", "b"]⟩

def lodashPaths : List Path :=
  [⟨true, ["proj", "a", "page.html"]⟩, ⟨true, ["proj", "b", "page.html"]⟩]

lemma ruleFiles_lodash : ruleFiles lodashFiles .default lodashRoot lodashRoot = .ok lodashPaths := by
  have hroot : lodashFiles.canonical? lodashRoot.toString = some lodashRoot := by decide +kernel
  have hfound : (((Walk.entryFiles (Walk.levelsAbove lodashFiles lodashRoot) lodashRoot.names
        ((lodashFiles.entry? lodashRoot).getD (.dir []))).map fun names =>
      (⟨true, (Path.ofString lodashRoot.toString).names ++
        names.drop lodashRoot.names.length⟩ : Path)).filter
          (Walk.isWanted .default .scriptsAndMarkup)) = lodashPaths := by
    decide +kernel
  have hsorted : lodashPaths.mergeSort Walk.pathLe = lodashPaths :=
    List.mergeSort_of_pairwise (by decide +kernel)
  have hwalk : Walk.walk lodashFiles .default .scriptsAndMarkup lodashRoot.toString =
      .ok lodashPaths := by
    rw [Walk.walk, hroot, ← hsorted, ← hfound]
    rfl
  rw [ruleFiles, hwalk]
  decide +kernel

lemma ruleSets_lodash :
    (RuleStore.load lodashFiles lodashRoot Config.default.rules).ruleSets = RuleSet.builtIn :=
  RuleStore.ruleSets_load_of_missing (by decide +kernel)

lemma namedSets_lodash :
    namedSets (RuleStore.load lodashFiles lodashRoot Config.default.rules) ["lodash"] =
      .ok [RuleSet.lodash] := by
  have hget : (RuleStore.load lodashFiles lodashRoot Config.default.rules).get? "lodash" =
      some RuleSet.lodash := by
    rw [RuleStore.get?, RuleStore.stored?, RuleStore.sets_load_of_missing (by decide +kernel),
      RuleStore.lookup_builtInSets]
    rfl
  simp only [namedSets, List.mapM_cons, List.mapM_nil, hget]
  rfl

/-- A set that is asked for runs below `b` as well. -/
theorem rules_scope_namedSet :
    lodashFiles.canonical? "/proj/b" = some lodashScope ∧
    lodashFiles.canonical? "/proj" = some (Walk.findProjectRoot lodashFiles lodashScope) ∧
    ∃ whole part, rules lodashFiles .default "/proj" ⟨some ["lodash"], none, some 9⟩ = .ok whole ∧
      rules lodashFiles .default "/proj/b" ⟨some ["lodash"], none, some 9⟩ = .ok part ∧
      part.sets = whole.sets ∧
      ∃ found : List (Path × Violation), whole.violations = found.map Prod.snd ∧
        part.violations = (found.filter (·.1.startsWith lodashScope)).map Prod.snd := by
  have hscope : lodashFiles.canonical? "/proj/b" = some lodashScope := by decide +kernel
  have hroot : lodashFiles.canonical? "/proj" =
      some (Walk.findProjectRoot lodashFiles lodashScope) := by
    decide +kernel
  have hself : Walk.findProjectRoot lodashFiles lodashRoot = lodashRoot := by decide +kernel
  have hrun : rules lodashFiles .default "/proj" ⟨some ["lodash"], none, some 9⟩ =
      .ok (report lodashFiles lodashRoot ⟨some ["lodash"], none, some 9⟩ 9 lodashPaths
        [RuleSet.lodash]) := by
    rw [rules_of_files _ hroot hself ruleFiles_lodash, chosenSets, namedSets_lodash]
    rfl
  refine ⟨hscope, hroot, ?_⟩
  rcases rules_scope lodashFiles .default ⟨some ["lodash"], none, some 9⟩ hscope hroot with
    ⟨e, herror, -⟩ | ⟨paths, sets, whole, part, -, -, hwhole, hpart, hsets, hfound⟩
  · rw [hrun] at herror
    cases herror
  · have hsame : part.sets = whole.sets := hsets.mpr (Or.inl rfl)
    have htotal : whole.total ≤ 9 := by
      rw [hrun] at hwhole
      rw [← Except.ok.inj hwhole, total_report]
      decide +kernel
    obtain ⟨found, hfull, hbelow, -⟩ := hfound hsame htotal
    exact ⟨whole, part, hwhole, hpart, hsame, found, hfull, hbelow⟩

def lodashViolation : Violation :=
  ⟨"is-array", "lodash", .info, "b/page.html", 1, "_.isArray(", some "Array.isArray(", none⟩

/-- The files below `b` do not show that the project imports the module. -/
theorem rules_scope_unseenMarks :
    Walk.findProjectRoot lodashFiles lodashScope = lodashRoot ∧
    ∃ whole part, rules lodashFiles .default "/proj" ⟨none, none, some 1000⟩ = .ok whole ∧
      rules lodashFiles .default "/proj/b" ⟨none, none, some 1000⟩ = .ok part ∧
      whole.sets = ["javascript", "lodash"] ∧ part.sets = ["javascript"] ∧
      whole.violations = [lodashViolation] ∧ part.violations = [] := by
  have hroot : Walk.findProjectRoot lodashFiles lodashRoot = lodashRoot := by decide +kernel
  have hsame : Walk.findProjectRoot lodashFiles lodashScope = lodashRoot := by decide +kernel
  have hfiles : ruleFiles lodashFiles .default lodashRoot lodashScope =
      .ok (lodashPaths.drop 1) := by
    rw [ruleFiles_scope (by decide +kernel), ruleFiles_lodash]
    decide +kernel
  have hwhole := rules_of_files ⟨none, none, some 1000⟩
    (show lodashFiles.canonical? "/proj" = some lodashRoot by decide +kernel) hroot ruleFiles_lodash
  have hpart := rules_of_files ⟨none, none, some 1000⟩
    (show lodashFiles.canonical? "/proj/b" = some lodashScope by decide +kernel) hsame hfiles
  simp only [chosenSets, ruleSets_lodash] at hwhole hpart
  refine ⟨hsame, _, _, hwhole, hpart, ?_, ?_, ?_, ?_⟩
  · rw [sets_report]
    decide +kernel
  · rw [sets_report]
    decide +kernel
  · exact violations_report_of_pairwise (by decide +kernel) (List.pairwise_singleton ..)
      (by decide)
  · exact violations_report_of_pairwise (by decide +kernel) List.Pairwise.nil (by decide)

end Survey

end ScriptSurvey
