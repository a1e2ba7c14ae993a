import Mathlib.Data.List.Flatten
import ScriptSurvey.Proofs.RuleEdits
import ScriptSurvey.Proofs.ViolationReports

/-!
# Reports with a least severity

A least severity takes rules away before a text of a line goes to the first rule that finds it. So a
violation that is severe enough is never lost, but where a milder rule in front finds the same text
the more severe rule shows only when the milder one is taken away.
-/
namespace ScriptSurvey

/-! ## The rules that run -/

namespace CompiledRule
open RuleStore

def reaches (rule : CompiledRule) (least : Severity) : Bool := rule.rule.severity.reaches least

lemma rule_of_compile {name : String} {rule : Rule} {compiled : CompiledRule}
    (h : compile name rule = .ok compiled) : compiled.rule = rule := by
  obtain ⟨needle, -, h⟩ := bind_eq_ok.mp h
  obtain ⟨included, -, h⟩ := bind_eq_ok.mp h
  obtain ⟨excluded, -, h⟩ := bind_eq_ok.mp h
  rw [← Except.ok.inj h]

end CompiledRule

namespace Rules

lemma compiledRules_some (sets : List RuleSet) (least : Severity) :
    compiledRules sets (some least) = (compiledRules sets none).filter (·.reaches least) := by
  rw [compiledRules, compiledRules, List.filter_flatMap]
  refine List.flatMap_congr fun set _ => ?_
  rw [List.filter_filterMap, List.filterMap_filter, List.filterMap_filter]
  refine List.filterMap_congr fun rule _ => ?_
  cases hcompile : CompiledRule.compile set.name rule with
  | error fault => simp [Except.toOption]
  | ok compiled =>
    have hrule := CompiledRule.rule_of_compile hcompile
    simp [Except.toOption, Option.filter, CompiledRule.reaches, hrule]

/-! ## Choosing before and after -/

/-- Parts that are sublists of each other parts join to the same list only where they are equal. -/
lemma flatMap_eq_flatMap_iff {α β : Type} {f g : α → List β} {l : List α}
    (h : ∀ a ∈ l, (f a).Sublist (g a)) : l.flatMap f = l.flatMap g ↔ ∀ a ∈ l, f a = g a := by
  induction l with
  | nil => simp
  | cons a l ih =>
    have hhead := h a (List.mem_cons_self ..)
    have htail := fun b hb => h b (List.mem_cons_of_mem a hb)
    rw [List.flatMap_cons, List.flatMap_cons, List.forall_mem_cons]
    constructor
    · intro heq
      have hlength := congrArg List.length heq
      have hle := (List.Sublist.flatMap_right l htail).length_le
      rw [List.length_append, List.length_append] at hlength
      have hsame : f a = g a := hhead.eq_of_length_le (by omega)
      rw [hsame] at heq
      exact ⟨hsame, (ih htail).mp (List.append_cancel_left heq)⟩
    · rintro ⟨hsame, hrest⟩
      rw [hsame, (ih htail).mpr hrest]

section

variable {file text : String} {rules : List CompiledRule} {line : Text.Line text} {least : Severity}

def Find.reaches (least : Severity) (find : Find) : Bool := find.rule.reaches least

/-- The finds of a line, each text for the first rule that is severe enough. -/
def severeFindsOn {text : String} (file : String) (rules : List CompiledRule) (least : Severity)
    (line : Text.Line text) : List Find :=
  keepFirst (fun a b => a.matched == b.matched)
    ((findsOn file rules line).filter (Find.reaches least))

lemma filter_checkLine :
    (checkLine file (rules.filter (·.appliesTo file)) line).filter (·.severity.reaches least) =
      ((firstFindsOn file rules line).filter (Find.reaches least)).map (Find.violation file) := by
  rw [← map_violation_firstFindsOn, List.filter_map]
  rfl

lemma filterMap_report?_filter :
    (rules.filter (·.reaches least)).filterMap (report? file line) =
      (rules.filterMap (report? file line)).filter (·.severity.reaches least) := by
  rw [List.filterMap_filter, List.filter_filterMap]
  refine List.filterMap_congr fun rule _ => ?_
  rw [report?]
  cases rule.findLive line.content with
  | none => simp
  | some hit =>
    by_cases hinside : inContext rule line = true
    · simp [hinside, Option.filter, CompiledRule.reaches]
    · simp [hinside]

lemma checkLine_filter :
    checkLine file ((rules.filter (·.reaches least)).filter (·.appliesTo file)) line =
      (severeFindsOn file rules least line).map (Find.violation file) := by
  have hkeep : (severeFindsOn file rules least line).map (Find.violation file) =
      firstMatches (((findsOn file rules line).filter (Find.reaches least)).map
        (Find.violation file)) :=
    map_keepFirst (fun a b : Violation => a.matched == b.matched) (fun _ _ => rfl) _
  have hchosen : ((findsOn file rules line).filter (Find.reaches least)).map (Find.violation file) =
      ((findsOn file rules line).map (Find.violation file)).filter (·.severity.reaches least) := by
    rw [List.filter_map]
    rfl
  rw [hkeep, hchosen, map_violation_findsOn, ← filterMap_report?_filter, checkLine,
    List.filter_filter, List.filter_filter]
  simp only [Bool.and_comm]

lemma filter_firstFindsOn_sublist :
    ((firstFindsOn file rules line).filter (Find.reaches least)).Sublist
      (severeFindsOn file rules least line) :=
  filter_keepFirst_sublist (fun _ _ => beq_iff_eq) _ _

/-- On one line the two ways agree where no milder find is in front of a severe one. -/
lemma filter_firstFindsOn_eq_iff :
    (firstFindsOn file rules line).filter (Find.reaches least) =
        severeFindsOn file rules least line ↔
      ∀ a ∈ firstFindsOn file rules line, ∀ b ∈ findsOn file rules line,
        a.matched = b.matched → b.reaches least = true → a.reaches least = true :=
  filter_keepFirst_eq_iff (fun _ _ => beq_iff_eq) _ _

/-- A severe find is the first one of its text, or a milder one is. -/
lemma mem_severeFindsOn_cases {find : Find} (h : find ∈ severeFindsOn file rules least line) :
    find ∈ firstFindsOn file rules line ∨
      ∃ milder ∈ firstFindsOn file rules line,
        milder.matched = find.matched ∧ milder.reaches least = false := by
  have hsame : ∀ a b : Find, (a.matched == b.matched) = true ↔ a.matched = b.matched :=
    fun _ _ => beq_iff_eq
  have hfind := (List.mem_filter.mp ((keepFirst_sublist _).subset h)).1
  obtain ⟨first, hfirst, hmatched⟩ := List.mem_map.mp
    ((mem_map_keepFirst hsame _ _).mpr (List.mem_map_of_mem hfind))
  cases hreaches : first.reaches least with
  | false => exact Or.inr ⟨first, hfirst, hmatched, hreaches⟩
  | true =>
    have hkept := filter_firstFindsOn_sublist.subset (List.mem_filter.mpr ⟨hfirst, hreaches⟩)
    rw [← eq_of_mem_keepFirst hsame hkept h hmatched]
    exact Or.inl hfirst

/-! ## Concealed finds -/

/-- The milder find is the one reported for a text that a rule severe enough finds as well. -/
structure Conceals (file text : String) (rules : List CompiledRule) (least : Severity)
    (milder severe : Find) : Prop where
  first : milder.IsFirst file text rules
  holds : severe.Holds file text rules
  line_eq : milder.line = severe.line
  matched_eq : milder.matched = severe.matched
  below : milder.reaches least = false
  reaches : severe.reaches least = true

lemma filter_checkText :
    (checkText file text rules).filter (·.severity.reaches least) =
      (Text.placedLines text).flatMap fun line =>
        ((firstFindsOn file rules line).filter (Find.reaches least)).map (Find.violation file) := by
  rw [checkText, List.filter_flatMap]
  exact List.flatMap_congr fun line _ => filter_checkLine

lemma checkText_filter :
    checkText file text (rules.filter (·.reaches least)) =
      (Text.placedLines text).flatMap fun line =>
        (severeFindsOn file rules least line).map (Find.violation file) := by
  rw [checkText]
  exact List.flatMap_congr fun line _ => checkLine_filter

lemma conceals_iff_exists_line {milder severe : Find} :
    Conceals file text rules least milder severe ↔
      ∃ line ∈ Text.placedLines text, milder ∈ firstFindsOn file rules line ∧
        severe ∈ findsOn file rules line ∧ milder.matched = severe.matched ∧
        milder.reaches least = false ∧ severe.reaches least = true := by
  constructor
  · rintro ⟨hfirst, hholds, hline, hmatched, hbelow, hreaches⟩
    obtain ⟨line, hmem, hmilder⟩ := List.mem_flatMap.mp (mem_firstFinds_iff.mpr hfirst)
    obtain ⟨line', hmem', hsevere⟩ := holds_iff_exists_line.mp hholds
    have hnumber : line.number = line'.number := by
      rw [← line_of_mem_firstFindsOn hmilder, ← (mem_findsOn_iff.mp hsevere).1, hline]
    obtain rfl := eq_of_number_eq hmem hmem' hnumber
    exact ⟨line, hmem, hmilder, hsevere, hmatched, hbelow, hreaches⟩
  · rintro ⟨line, hmem, hmilder, hsevere, hmatched, hbelow, hreaches⟩
    refine ⟨mem_firstFinds_iff.mp (List.mem_flatMap.mpr ⟨line, hmem, hmilder⟩),
      holds_iff_exists_line.mpr ⟨line, hmem, hsevere⟩, ?_, hmatched, hbelow, hreaches⟩
    rw [line_of_mem_firstFindsOn hmilder, (mem_findsOn_iff.mp hsevere).1]

lemma filter_checkText_sublist :
    ((checkText file text rules).filter (·.severity.reaches least)).Sublist
      (checkText file text (rules.filter (·.reaches least))) := by
  rw [filter_checkText, checkText_filter]
  exact List.Sublist.flatMap_right _ fun line _ => filter_firstFindsOn_sublist.map _

lemma filter_checkText_eq_iff :
    (checkText file text rules).filter (·.severity.reaches least) =
        checkText file text (rules.filter (·.reaches least)) ↔
      ∀ milder severe, ¬ Conceals file text rules least milder severe := by
  have hline : ∀ line : Text.Line text,
      ((firstFindsOn file rules line).filter (Find.reaches least)).map (Find.violation file) =
          (severeFindsOn file rules least line).map (Find.violation file) ↔
        (firstFindsOn file rules line).filter (Find.reaches least) =
          severeFindsOn file rules least line := by
    intro line
    rw [← (filter_firstFindsOn_sublist.map _).length_eq, List.length_map, List.length_map,
      filter_firstFindsOn_sublist.length_eq]
  rw [filter_checkText, checkText_filter,
    flatMap_eq_flatMap_iff fun line _ => filter_firstFindsOn_sublist.map _]
  simp only [hline, filter_firstFindsOn_eq_iff]
  constructor
  · intro h milder severe hconceals
    obtain ⟨line, hmem, hmilder, hsevere, hmatched, hbelow, hreaches⟩ :=
      conceals_iff_exists_line.mp hconceals
    exact Bool.eq_false_iff.mp hbelow (h line hmem milder hmilder severe hsevere hmatched hreaches)
  · intro h line hmem milder hmilder severe hsevere hmatched hreaches
    by_contra hbelow
    exact h milder severe (conceals_iff_exists_line.mpr
      ⟨line, hmem, hmilder, hsevere, hmatched, Bool.eq_false_iff.mpr hbelow, hreaches⟩)

/-- What the milder rules do not report is concealed by one of their finds. -/
lemma mem_checkText_filter_cases {v : Violation}
    (h : v ∈ checkText file text (rules.filter (·.reaches least))) :
    v ∈ checkText file text rules ∨
      ∃ milder severe, Conceals file text rules least milder severe ∧
        v = severe.violation file := by
  rw [checkText_filter] at h
  obtain ⟨line, hmem, hv⟩ := List.mem_flatMap.mp h
  obtain ⟨find, hfind, rfl⟩ := List.mem_map.mp hv
  rcases mem_severeFindsOn_cases hfind with hfirst | ⟨milder, hmilder, hmatched, hbelow⟩
  · rw [checkText_eq_map]
    exact Or.inl (List.mem_map_of_mem (List.mem_flatMap.mpr ⟨line, hmem, hfirst⟩))
  · obtain ⟨hsevere, hreaches⟩ := List.mem_filter.mp ((keepFirst_sublist _).subset hfind)
    exact Or.inr ⟨milder, find, conceals_iff_exists_line.mpr
      ⟨line, hmem, hmilder, hsevere, hmatched, hbelow, hreaches⟩, rfl⟩

end

/-! ## Files -/

section

variable {files : FileSystem} {root : Path} {paths : List Path} {sets : List RuleSet}
  {rules : List CompiledRule} {least : Severity}

lemma filter_checkFile_sublist (path : Path) :
    ((checkFile files root rules path).filter (·.severity.reaches least)).Sublist
      (checkFile files root (rules.filter (·.reaches least)) path) := by
  rw [checkFile, checkFile]
  cases files.readText? path with
  | none => exact List.Sublist.refl _
  | some text => exact filter_checkText_sublist

lemma filter_checkFile_eq_iff (path : Path) :
    (checkFile files root rules path).filter (·.severity.reaches least) =
        checkFile files root (rules.filter (·.reaches least)) path ↔
      ∀ text, files.readText? path = some text →
        ∀ milder severe, ¬ Conceals (displayPath root path) text rules least milder severe := by
  rw [checkFile, checkFile]
  cases files.readText? path with
  | none => simp
  | some text => simp [filter_checkText_eq_iff]

/-! ## Reports -/

lemma filter_violations :
    (run files root paths sets none).violations.filter (·.severity.reaches least) =
      (paths.flatMap fun path => (checkFile files root (compiledRules sets none) path).filter
        (·.severity.reaches least)).mergeSort violationLe := by
  rw [run, filter_mergeSort violationLe_trans violationLe_total, List.filter_flatMap]

lemma violations_some :
    (run files root paths sets (some least)).violations =
      (paths.flatMap (checkFile files root
        ((compiledRules sets none).filter (·.reaches least)))).mergeSort violationLe := by
  rw [run, compiledRules_some]

lemma filter_violations_sublist :
    ((run files root paths sets none).violations.filter (·.severity.reaches least)).Sublist
      (run files root paths sets (some least)).violations := by
  rw [filter_violations, violations_some]
  exact mergeSort_sublist_mergeSort violationLe_trans violationLe_total
    (List.Sublist.flatMap_right _ fun path _ => filter_checkFile_sublist path)

lemma filter_violations_eq_iff :
    (run files root paths sets none).violations.filter (·.severity.reaches least) =
        (run files root paths sets (some least)).violations ↔
      ∀ path ∈ paths, ∀ text, files.readText? path = some text → ∀ milder severe,
        ¬ Conceals (displayPath root path) text (compiledRules sets none) least milder severe := by
  have hsub : ∀ path ∈ paths,
      ((checkFile files root (compiledRules sets none) path).filter
        (·.severity.reaches least)).Sublist
        (checkFile files root ((compiledRules sets none).filter (·.reaches least)) path) :=
    fun path _ => filter_checkFile_sublist path
  rw [← filter_violations_sublist.length_eq, filter_violations, violations_some,
    List.length_mergeSort, List.length_mergeSort,
    (List.Sublist.flatMap_right _ hsub).length_eq, flatMap_eq_flatMap_iff hsub]
  simp only [filter_checkFile_eq_iff]

lemma reaches_of_mem_violations {v : Violation}
    (h : v ∈ (run files root paths sets (some least)).violations) :
    v.severity.reaches least = true := by
  rw [violations_some, List.mem_mergeSort, List.mem_flatMap] at h
  obtain ⟨path, -, hv⟩ := h
  obtain ⟨text, -, hv⟩ := mem_checkFile_iff.mp hv
  obtain ⟨find, hfirst, rfl⟩ := mem_checkText_iff.mp hv
  exact (List.mem_filter.mp (List.mem_of_getElem? hfirst.holds.rule_eq)).2

lemma mem_violations_cases {v : Violation}
    (h : v ∈ (run files root paths sets (some least)).violations) :
    v ∈ (run files root paths sets none).violations ∨
      ∃ path ∈ paths, ∃ text, files.readText? path = some text ∧ ∃ milder severe,
        Conceals (displayPath root path) text (compiledRules sets none) least milder severe ∧
          v = severe.violation (displayPath root path) := by
  rw [violations_some, List.mem_mergeSort, List.mem_flatMap] at h
  obtain ⟨path, hpath, hv⟩ := h
  obtain ⟨text, htext, hv⟩ := mem_checkFile_iff.mp hv
  rcases mem_checkText_filter_cases hv with hfirst | hconceals
  · exact Or.inl ((violations_perm ..).mem_iff.mpr
      (List.mem_flatMap.mpr ⟨path, hpath, mem_checkFile_iff.mpr ⟨text, htext, hfirst⟩⟩))
  · exact Or.inr ⟨path, hpath, text, htext, hconceals⟩

lemma countSeverities_filter (violations : List Violation) :
    countSeverities (violations.filter (·.severity.reaches least)) =
      (countSeverities violations).filter (·.1.reaches least) := by
  have hcount : ∀ s : Severity,
      (violations.filter (·.severity.reaches least)).countP (·.severity == s) =
        if s.reaches least then violations.countP (·.severity == s) else 0 := by
    intro s
    rw [List.countP_filter]
    split_ifs with hs
    · refine List.countP_congr fun v _ => ?_
      rw [Bool.and_eq_true, beq_iff_eq, and_iff_left_of_imp]
      rintro rfl
      exact hs
    · refine List.countP_eq_zero.mpr fun v _ hv => hs ?_
      rw [Bool.and_eq_true, beq_iff_eq] at hv
      rw [← hv.1]
      exact hv.2
  simp only [countSeverities, List.filter_map, List.filter_filter, hcount, Function.comp_def]
  have hkept : (Severity.all.filter fun s =>
        decide (0 < if s.reaches least then violations.countP (·.severity == s) else 0)) =
      Severity.all.filter fun s =>
        s.reaches least && decide (0 < violations.countP (·.severity == s)) := by
    refine List.filter_congr fun s _ => ?_
    split_ifs with hs <;> simp [hs]
  rw [hkept]
  refine List.map_congr_left fun s hs => ?_
  rw [if_pos (Bool.and_eq_true_iff.mp (List.mem_filter.mp hs).2).1]

end

/-- With a least severity a report keeps all violations that are severe enough, in their order. It
lists another one only where a milder rule that is taken away was the first to find its text, and it
does so wherever there is such a place. Without one, the counts are restricted as the violations are. -/
theorem run_least_severity (files : FileSystem) (root : Path) (paths : List Path)
    (sets : List RuleSet) (least : Severity) :
    let all := run files root paths sets none
    let severe := run files root paths sets (some least)
    let kept := all.violations.filter (·.severity.reaches least)
    kept.Sublist severe.violations ∧
    (∀ v ∈ severe.violations, v.severity.reaches least = true ∧ (v ∈ kept ∨
      ∃ path ∈ paths, ∃ text, files.readText? path = some text ∧ ∃ milder concealed,
        Conceals (displayPath root path) text (compiledRules sets none) least milder concealed ∧
          v = concealed.violation (displayPath root path))) ∧
    (severe.violations = kept ↔
      ∀ path ∈ paths, ∀ text, files.readText? path = some text → ∀ milder concealed,
        ¬ Conceals (displayPath root path) text (compiledRules sets none) least milder
          concealed) ∧
    (severe.violations = kept →
      severe.bySeverity = all.bySeverity.filter (·.1.reaches least) ∧
        severe.byRule = countRules kept) := by
  refine ⟨filter_violations_sublist, fun v hv => ⟨reaches_of_mem_violations hv, ?_⟩,
    eq_comm.trans filter_violations_eq_iff, fun heq => ⟨?_, ?_⟩⟩
  · exact (mem_violations_cases hv).imp_left fun hmem =>
      List.mem_filter.mpr ⟨hmem, reaches_of_mem_violations hv⟩
  · exact (congrArg countSeverities heq).trans (countSeverities_filter _)
  · exact congrArg countRules heq

def oldApiSet (name : String) (severity : Severity) : RuleSet :=
  { RuleSet.named name with
    rules := [{ Rule.ofPattern "old-api" "oldApi(" with severity := severity }] }

/-- The mild rule finds the call first. -/
def oldApiSets : List RuleSet := [oldApiSet "one" .info, oldApiSet "two" .error]

def oldApiFiles : FileSystem :=
  ⟨.dir [("proj", .dir [("page.html", .file (.ofText "oldApi(x)\n"))])]⟩

/-- The call is no error in the full report and is one among the errors. -/
theorem run_least_severity_reveals :
    let root : Path := ⟨true, ["proj"]⟩
    let paths : List Path := [⟨true, ["proj", "page.html"]⟩]
    let all := run oldApiFiles root paths oldApiSets none
    let severe := run oldApiFiles root paths oldApiSets (some .error)
    severe.violations ≠ all.violations.filter (·.severity.reaches .error) ∧
      all.violations.filter (·.severity.reaches .error) = [] ∧
      severe.violations = [⟨"old-api", "two", .error, "page.html", 1, "oldApi(", none, none⟩] := by
  intro root paths all severe
  have hall : all.violations.filter (·.severity.reaches .error) = [] := by
    have hnone : (paths.flatMap fun path => (checkFile oldApiFiles root
        (compiledRules oldApiSets none) path).filter (·.severity.reaches .error)) = [] := by
      decide +kernel
    rw [filter_violations, hnone, List.mergeSort_nil]
  have hsevere : severe.violations =
      [⟨"old-api", "two", .error, "page.html", 1, "oldApi(", none, none⟩] := by
    have hone : paths.flatMap (checkFile oldApiFiles root (compiledRules oldApiSets (some .error))) =
        [⟨"old-api", "two", .error, "page.html", 1, "oldApi(", none, none⟩] := by
      decide +kernel
    simp only [severe, run, hone, List.mergeSort_singleton]
  refine ⟨?_, hall, hsevere⟩
  rw [hall, hsevere]
  exact List.cons_ne_nil _ _

end Rules

end ScriptSurvey
