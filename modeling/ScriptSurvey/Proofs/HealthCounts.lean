import ScriptSurvey.Health.Check
import ScriptSurvey.Proofs.CanonicalPaths
import ScriptSurvey.Proofs.RuleEdits
import ScriptSurvey.Proofs.ScopedRules

/-!
# Health and the single queries

The checks of a project share one reading of its files and keep no items. Since the totals and
counts of a report cover all items, whatever its limit, each signal counts what the query behind it
reports.
-/
namespace ScriptSurvey

namespace Survey

section

variable {files : FileSystem} {config : Config} {text : String} {scope : Path}

lemma forScope_of_canonical (h : files.canonical? text = some scope) :
    forScope files config text =
      (collect files config (Walk.findProjectRoot files scope)).map (⟨·, scope⟩) := by
  rw [forScope, h]

lemma exists_walk (config : Config) (h : files.canonical? text = some scope)
    (filter : Walk.Filter) :
    ∃ paths, Walk.walk files config filter (Walk.findProjectRoot files scope).toString =
      .ok paths := by
  rw [Walk.walk, Walk.canonical?_findProjectRoot h]
  exact ⟨_, rfl⟩

lemma exists_collect (h : files.canonical? text = some scope) :
    ∃ project, collect files config (Walk.findProjectRoot files scope) = .ok project := by
  obtain ⟨paths, hpaths⟩ := exists_walk config h .scripts
  exact ⟨_, by rw [collect, hpaths]⟩

lemma root_of_collect {root : Path} {project : Project}
    (h : collect files config root = .ok project) : project.root = root := by
  rw [collect] at h
  split at h
  · rw [← Except.ok.inj h]
  · cases h

/-- Without names, sets are chosen for every project that is there. -/
lemma exists_rules (h : files.canonical? text = some scope) (limit : Option ℕ) :
    ∃ report, rules files config text { RuleOptions.default with limit := limit } = .ok report := by
  obtain ⟨paths, hpaths⟩ := exists_walk config h .scriptsAndMarkup
  have hfiles : ruleFiles files config (Walk.findProjectRoot files scope) scope =
      .ok (paths.filter (·.startsWith scope)) := by rw [ruleFiles, hpaths]
  exact ⟨_, rules_of_files _ h rfl hfiles⟩

/-- The counts of a check depend on where its path text leads, and not on its limit. -/
lemma exists_rules_of_limit {text' : String} (h : files.canonical? text = some scope)
    (h' : files.canonical? text' = some scope) {options : RuleOptions} {limit : Option ℕ}
    {report : Rules.Report} (limit' : Option ℕ)
    (hreport : rules files config text { options with limit := limit } = .ok report) :
    ∃ report', rules files config text' { options with limit := limit' } = .ok report' ∧
      report'.bySeverity = report.bySeverity := by
  cases hfiles : ruleFiles files config (Walk.findProjectRoot files scope) scope with
  | error e =>
    rw [rules_of_error h rfl hfiles] at hreport
    cases hreport
  | ok paths =>
    rw [rules_of_files _ h rfl hfiles] at hreport
    rw [rules_of_files _ h' rfl hfiles]
    dsimp only at hreport ⊢
    let root := Walk.findProjectRoot files scope
    cases hsets : chosenSets files config root (RuleStore.load files root config.rules) paths
        options.sets with
    | error e => rw [hsets] at hreport; cases hreport
    | ok sets =>
      rw [hsets] at hreport
      obtain rfl := Except.ok.inj hreport
      exact ⟨_, rfl, rfl⟩

end

end Survey

namespace Health
open RuleStore

/-- How many findings of a signal the query behind it reports. The query is asked with the default
options and any limit. -/
def queried (files : FileSystem) (config : Config) (path : String) (limit : Option ℕ) :
    Signal → Except Survey.Error ℕ
  | .deadCode => (Survey.liveness files config path limit).map (·.total)
  | .undocumented => (Survey.documentation files config path limit).map (·.total)
  | .similarPairs => (Survey.similarity files config path none limit).map (·.total)
  | .complexityCritical => (Survey.complexity files config path none limit).map (·.stats.critical)
  | .complexityHigh => (Survey.complexity files config path none limit).map (·.stats.high)
  | .largeFilesCritical => (Survey.fileSizes files config path limit).map (·.stats.critical)
  | .largeFilesWarning => (Survey.fileSizes files config path limit).map (·.stats.warning)
  | .ruleErrors =>
    (Survey.rules files config path { Survey.RuleOptions.default with limit := limit }).map
      fun report => (report.bySeverity.lookup .error).getD 0
  | .ruleWarnings =>
    (Survey.rules files config path { Survey.RuleOptions.default with limit := limit }).map
      fun report => (report.bySeverity.lookup .warning).getD 0
  | .redundantDependencies =>
    match files.canonical? path with
    | none => .error (.missingPath path)
    | some scope =>
      .ok (redundantDependencies ((Manifest.load? files (Walk.findProjectRoot files scope)).getD
        Manifest.empty)).length

section

variable {files : FileSystem} {config : Config} {path : String} {checks : List Check}
  {scope root : Path} {project : Project}

lemma mem_wanted_iff {check : Check} : check ∈ wanted checks ↔ checks = [] ∨ check ∈ checks := by
  rw [wanted]
  cases checks with
  | nil => cases check <;> simp [Check.all]
  | cons => simp

/-! ## What the signals count -/

lemma facts_of_needsFacts {check : Check} (hcheck : check ∈ checks)
    (hneeds : check.needsFacts = true) : facts files config root checks =
      Survey.collect files config root := by
  rw [facts, if_pos (List.any_eq_true.mpr ⟨check, hcheck, hneeds⟩)]

lemma root_of_facts (h : facts files config root checks = .ok project) : project.root = root := by
  rw [facts] at h
  split_ifs at h
  · exact Survey.root_of_collect h
  · rw [← Except.ok.inj h]

lemma ruleEvidence_of_mem (hcheck : Check.rules ∈ checks) : ruleEvidence files config scope checks =
    Survey.rules files config scope.toString
      { Survey.RuleOptions.default with limit := some 0 } := by
  rw [ruleEvidence, if_pos (List.contains_iff_mem.mpr hcheck)]

lemma queried_eq_count {rules : Rules.Report} {signal : Signal} (limit : Option ℕ)
    (hcheck : signal.check ∈ checks) (hscope : files.canonical? path = some scope)
    (hfacts : facts files config (Walk.findProjectRoot files scope) checks = .ok project)
    (hrules : ruleEvidence files config scope checks = .ok rules) :
    queried files config path limit signal =
      .ok ((⟨files, config, project, scope, rules⟩ : Evidence).count signal) := by
  have hforScope (hneeds : signal.check.needsFacts = true) :
      Survey.forScope files config path = .ok ⟨project, scope⟩ := by
    rw [Survey.forScope_of_canonical hscope, ← facts_of_needsFacts hcheck hneeds, hfacts]
    rfl
  have hreport (hruns : signal.check = .rules) : ∃ report,
      Survey.rules files config path { Survey.RuleOptions.default with limit := limit } =
        .ok report ∧ report.bySeverity = rules.bySeverity := by
    rw [hruns] at hcheck
    rw [ruleEvidence_of_mem hcheck] at hrules
    exact Survey.exists_rules_of_limit (FileSystem.canonical?_toString hscope) hscope limit hrules
  cases signal with
  | deadCode => rw [queried, Survey.liveness, hforScope rfl]; rfl
  | undocumented => rw [queried, Survey.documentation, hforScope rfl]; rfl
  | similarPairs => rw [queried, Survey.similarity, hforScope rfl]; rfl
  | complexityCritical => rw [queried, Survey.complexity, hforScope rfl]; rfl
  | complexityHigh => rw [queried, Survey.complexity, hforScope rfl]; rfl
  | largeFilesCritical => rw [queried, Survey.fileSizes, hforScope rfl]; rfl
  | largeFilesWarning => rw [queried, Survey.fileSizes, hforScope rfl]; rfl
  | ruleErrors =>
    obtain ⟨report, hreport, hsame⟩ := hreport rfl
    rw [queried, hreport, Evidence.count, Evidence.severityCount, ← hsame]
    rfl
  | ruleWarnings =>
    obtain ⟨report, hreport, hsame⟩ := hreport rfl
    rw [queried, hreport, Evidence.count, Evidence.severityCount, ← hsame]
    rfl
  | redundantDependencies =>
    rw [queried, hscope, Evidence.count, root_of_facts hfacts]

/-! ## The lines of a score -/

lemma counts_eq_ok {result : Counts} (h : counts files config path checks = .ok result) :
    ∃ scope project rules, files.canonical? path = some scope ∧
      facts files config (Walk.findProjectRoot files scope) (wanted checks) = .ok project ∧
      ruleEvidence files config scope (wanted checks) = .ok rules ∧
      result = fun signal => if (wanted checks).contains signal.check then
        some ((⟨files, config, project, scope, rules⟩ : Evidence).count signal) else none := by
  rw [counts] at h
  split at h
  · cases h
  · next scope hscope =>
    obtain ⟨project, hproject, h⟩ := bind_eq_ok.mp h
    obtain ⟨rules, hrules, h⟩ := bind_eq_ok.mp h
    exact ⟨scope, project, rules, hscope, hproject, hrules, (Except.ok.inj h).symm⟩

/-- Whatever is asked for is counted where a path text leads somewhere. -/
lemma exists_counts (config : Config) (checks : List Check)
    (hscope : files.canonical? path = some scope) :
    ∃ result, counts files config path checks = .ok result := by
  have hfacts : ∃ project,
      facts files config (Walk.findProjectRoot files scope) (wanted checks) = .ok project := by
    rw [facts]
    split_ifs
    · exact Survey.exists_collect hscope
    · exact ⟨_, rfl⟩
  have hrules : ∃ rules, ruleEvidence files config scope (wanted checks) = .ok rules := by
    rw [ruleEvidence]
    split_ifs
    · exact Survey.exists_rules (FileSystem.canonical?_toString hscope) _
    · exact ⟨_, rfl⟩
  obtain ⟨project, hproject⟩ := hfacts
  obtain ⟨rules, hrules⟩ := hrules
  rw [counts, hscope]
  exact ⟨_, bind_eq_ok.mpr ⟨project, hproject, bind_eq_ok.mpr ⟨rules, hrules, rfl⟩⟩⟩

lemma breakdown_score (result : Counts) : (score result).breakdown = breakdown result := rfl

variable {α : Type} [Scale α]

lemma map_signal_breakdown (result : Counts) :
    (breakdown result : List (PenaltyLine α)).map (·.signal) =
      Signal.all.filter fun s => (result s).isSome := by
  rw [breakdown, List.map_filterMap, ← List.filterMap_eq_filter]
  refine List.filterMap_congr fun s _ => ?_
  cases h : result s <;> simp [h, Option.guard]

lemma count_of_mem_breakdown {result : Counts} {line : PenaltyLine α}
    (h : line ∈ breakdown result) : result line.signal = some line.count := by
  obtain ⟨s, -, hline⟩ := List.mem_filterMap.mp h
  obtain ⟨n, hn, rfl⟩ := Option.map_eq_some_iff.mp hline
  exact hn

end

/-- The lines of a score are the signals of the checks asked for, or of all checks when none is. The
count of each is what the query behind the signal reports for the same path, whatever its limit. -/
theorem aggregate_counts (files : FileSystem) (config : Config) (path : String)
    (checks : List Check) {score : Score Float}
    (h : aggregate files config path checks = .ok score) :
    (score.breakdown.map (·.signal) =
      Signal.all.filter fun s => decide (checks = [] ∨ s.check ∈ checks)) ∧
    ∀ line ∈ score.breakdown, ∀ limit,
      queried files config path limit line.signal = .ok line.count := by
  obtain ⟨result, hresult, rfl⟩ : ∃ result, counts files config path checks = .ok result ∧
      Health.score result = score := by
    rw [aggregate] at h
    cases hcounts : counts files config path checks with
    | error e => rw [hcounts] at h; cases h
    | ok result => rw [hcounts] at h; exact ⟨result, rfl, Except.ok.inj h⟩
  obtain ⟨scope, project, rules, hscope, hproject, hrules, rfl⟩ := counts_eq_ok hresult
  rw [breakdown_score]
  refine ⟨?_, fun line hline limit => ?_⟩
  · rw [map_signal_breakdown]
    refine List.filter_congr fun s _ => ?_
    rw [Bool.eq_iff_iff, decide_eq_true_eq, ← mem_wanted_iff]
    by_cases hs : s.check ∈ wanted checks <;> simp [hs]
  · obtain ⟨hcheck, hcount⟩ :=
      Option.ite_none_right_eq_some.mp (count_of_mem_breakdown hline)
    rw [queried_eq_count limit (List.contains_iff_mem.mp hcheck) hscope hproject hrules,
      Option.some.inj hcount]

/-- The manifest above the directory lists a package twice. -/
def twiceListed : FileSystem :=
  let package := "\x7b\"lodash\": \"4\"\x7d"
  let manifest := "\x7b\"dependencies\": " ++ package
    ++ ", \"devDependencies\": " ++ package ++ "\x7d"
  ⟨.dir [("proj", .dir [("package.json", .file (.ofText manifest)),
    ("a", .dir [("page.html", .file (.ofText "eval(x)"))])])]⟩

theorem aggregate_counts_twiceListed :
    ∃ score, aggregate twiceListed .default "/proj/a" [] = .ok score ∧
      score.breakdown.map (·.signal) = Signal.all ∧
      ∀ line ∈ score.breakdown,
        (∀ limit, queried twiceListed .default "/proj/a" limit line.signal = .ok line.count) ∧
        (line.signal = .redundantDependencies → line.count = 1) := by
  have hscope : twiceListed.canonical? "/proj/a" = some ⟨true, ["proj", "a"]⟩ := by decide +kernel
  obtain ⟨result, hresult⟩ := exists_counts .default [] hscope
  have hscore : aggregate twiceListed .default "/proj/a" [] = .ok (score result) := by
    rw [aggregate, hresult]
    rfl
  have hredundant : queried twiceListed .default "/proj/a" none .redundantDependencies = .ok 1 := by
    decide +kernel
  obtain ⟨hsignals, hcounts⟩ := aggregate_counts twiceListed .default "/proj/a" [] hscore
  refine ⟨score result, hscore, hsignals, fun line hline => ⟨hcounts line hline, fun heq => ?_⟩⟩
  have hcount := hcounts line hline none
  rw [heq, hredundant] at hcount
  exact (Except.ok.inj hcount).symm

end Health

end ScriptSurvey
