import Mathlib.Algebra.BigOperators.Group.List.Lemmas
import Mathlib.Algebra.GroupWithZero.Nat
import Mathlib.Data.List.Dedup
import Mathlib.Data.String.Basic
import ScriptSurvey.Proofs.RuleFinds
import ScriptSurvey.Proofs.TextOrder

/-!
# Reports of rules

A report sorts the violations of its files and counts them. Only violations of one file are ever tied
in the order, and these stay as the file has them, so the files may be read in any order.
-/
namespace ScriptSurvey

namespace Severity

lemma rank_inj {s t : Severity} : s.rank = t.rank ↔ s = t := by
  cases s <;> cases t <;> simp [rank]

lemma mem_all (s : Severity) : s ∈ all := by cases s <;> decide

end Severity

namespace Rules
open Std

/-! ## The order of violations -/

def ViolationOrder (a b : Violation) : Prop :=
  a.severity.rank < b.severity.rank ∨
    a.severity = b.severity ∧ (a.file < b.file ∨
      a.file = b.file ∧ (a.line < b.line ∨ a.line = b.line ∧ a.ruleId ≤ b.ruleId))

def violationCompare : Violation → Violation → Ordering :=
  compareLex (compareOn (·.severity.rank))
    (compareLex (compareOn Violation.file)
      (compareLex (compareOn Violation.line) (compareOn Violation.ruleId)))

instance : TransCmp violationCompare := inferInstanceAs (TransCmp (compareLex _ _))

lemma violationLe_eq (a b : Violation) : violationLe a b = (violationCompare a b).isLE := rfl

lemma violationLe_trans (a b c : Violation) (hab : violationLe a b = true)
    (hbc : violationLe b c = true) : violationLe a c = true :=
  @TransCmp.isLE_trans _ violationCompare _ a b c hab hbc

lemma violationLe_total (a b : Violation) : (violationLe a b || violationLe b a) = true :=
  isLE_total violationCompare a b

lemma violationLe_iff (a b : Violation) : violationLe a b = true ↔ ViolationOrder a b := by
  have hfile : Ord.compare a.file b.file = .eq ↔ a.file = b.file := LawfulEqCmp.compare_eq_iff_eq
  rw [violationLe_eq]
  simp only [violationCompare, compareLex, compareOn, Ordering.isLE_then_iff_or, compare_lt_iff_lt,
    hfile, Text.isLE_compare_iff, Nat.compare_eq_eq, Severity.rank_inj, ViolationOrder]

lemma file_eq_of_tied {a b : Violation} (h : tied violationLe a b = true) : a.file = b.file := by
  rw [tied, Bool.and_eq_true, violationLe_eq, violationLe_eq] at h
  have heq : violationCompare a b = .eq := OrientedCmp.isLE_antisymm h.1 h.2
  simp only [violationCompare, compareLex, compareOn, Ordering.then_eq_eq] at heq
  exact LawfulEqCmp.compare_eq_iff_eq.mp heq.2.1

/-! ## Counts -/

/-- Counts of all keys that occur add up to the number of entries. -/
lemma sum_counts {κ : Type} [DecidableEq κ] {counts : List (κ × ℕ)} {keys : List κ}
    (hnodup : (counts.map Prod.fst).Nodup)
    (hmem : ∀ key n, (key, n) ∈ counts ↔ 0 < n ∧ n = keys.count key) :
    (counts.map Prod.snd).sum = keys.length := by
  have hcount : counts.map Prod.snd = (counts.map Prod.fst).map (keys.count ·) := by
    rw [List.map_map]
    exact List.map_congr_left fun entry hentry => ((hmem _ _).mp hentry).2
  have hperm : (counts.map Prod.fst).Perm keys.dedup := by
    refine (List.perm_ext_iff_of_nodup hnodup keys.nodup_dedup).mpr fun key => ?_
    rw [List.mem_dedup, ← List.count_pos_iff (l := keys), List.mem_map]
    constructor
    · rintro ⟨⟨_, n⟩, hentry, rfl⟩
      obtain ⟨hpos, rfl⟩ := (hmem _ _).mp hentry
      exact hpos
    · exact fun hpos => ⟨(key, keys.count key), (hmem _ _).mpr ⟨hpos, rfl⟩, rfl⟩
  rw [hcount, (hperm.map _).sum_eq, List.sum_map_count_dedup_eq_length]

lemma countP_eq_count {κ : Type} [DecidableEq κ] (key : Violation → κ) (violations : List Violation)
    (k : κ) : violations.countP (fun v => key v == k) = (violations.map key).count k := by
  rw [List.count_eq_countP, List.countP_map]
  rfl

lemma mem_countSeverities_iff (violations : List Violation) (s : Severity) (n : ℕ) :
    (s, n) ∈ countSeverities violations ↔
      0 < n ∧ n = (violations.map (·.severity)).count s := by
  simp only [countSeverities, List.mem_filter, List.mem_map, Prod.mk.injEq, decide_eq_true_eq,
    countP_eq_count]
  constructor
  · rintro ⟨⟨t, -, rfl, hn⟩, hpos⟩
    exact ⟨hpos, hn.symm⟩
  · rintro ⟨hpos, hn⟩
    exact ⟨⟨s, Severity.mem_all s, rfl, hn.symm⟩, hpos⟩

lemma nodup_countSeverities (violations : List Violation) :
    ((countSeverities violations).map Prod.fst).Nodup := by
  have hsub : ((countSeverities violations).map Prod.fst).Sublist
      ((Severity.all.map fun s => (s, violations.countP (·.severity == s))).map Prod.fst) :=
    List.filter_sublist.map Prod.fst
  have hall : (Severity.all.map fun s => (s, violations.countP (·.severity == s))).map Prod.fst =
      Severity.all := by rw [List.map_map]; exact List.map_id _
  rw [hall] at hsub
  exact hsub.nodup (by decide)

lemma mem_countRules_iff (violations : List Violation) (id : String) (n : ℕ) :
    (id, n) ∈ countRules violations ↔ 0 < n ∧ n = (violations.map (·.ruleId)).count id := by
  simp only [countRules, List.mem_map, Text.mem_sortedDistinct, Prod.mk.injEq, countP_eq_count]
  constructor
  · rintro ⟨id', ⟨v, hv, rfl⟩, rfl, rfl⟩
    exact ⟨List.count_pos_iff.mpr (List.mem_map.mpr ⟨v, hv, rfl⟩), rfl⟩
  · rintro ⟨hpos, rfl⟩
    exact ⟨id, List.mem_map.mp (List.count_pos_iff.mp hpos), rfl, rfl⟩

lemma nodup_countRules (violations : List Violation) :
    ((countRules violations).map Prod.fst).Nodup := by
  have hfst : (countRules violations).map Prod.fst =
      Text.sortedDistinct (violations.map (·.ruleId)) := by
    rw [countRules, List.map_map]
    exact List.map_id _
  rw [hfst]
  exact (Text.pairwise_sortedDistinct _).imp fun h => String.ne_of_lt h

/-! ## Reports over files -/

section

variable {files : FileSystem} {root : Path} {paths : List Path} {sets : List RuleSet}
  {least : Option Severity} {rules : List CompiledRule}

lemma mem_checkFile_iff {path : Path} {v : Violation} :
    v ∈ checkFile files root rules path ↔
      ∃ text, files.readText? path = some text ∧ v ∈ checkText (displayPath root path) text rules := by
  rw [checkFile]
  cases files.readText? path <;> simp

lemma file_of_mem_checkFile {path : Path} {v : Violation}
    (h : v ∈ checkFile files root rules path) : v.file = displayPath root path := by
  obtain ⟨text, -, hv⟩ := mem_checkFile_iff.mp h
  obtain ⟨find, -, rfl⟩ := mem_checkText_iff.mp hv
  rfl

lemma nodup_places_checkFile (files : FileSystem) (root : Path) (rules : List CompiledRule)
    (path : Path) :
    ((checkFile files root rules path).map fun v => (v.line, v.matched)).Nodup := by
  rw [checkFile]
  split
  · exact (checkText_firstFinds _ _ _).2.2.1
  · exact List.nodup_nil

lemma flatMap_filter_of_eq_nil {α β : Type} {p : α → Bool} {f : α → List β} {l : List α}
    (h : ∀ a ∈ l, p a = false → f a = []) : (l.filter p).flatMap f = l.flatMap f := by
  induction l with
  | nil => rfl
  | cons a l ih =>
    have hrest := ih fun b hb => h b (List.mem_cons_of_mem a hb)
    by_cases ha : p a = true
    · rw [List.filter_cons_of_pos ha, List.flatMap_cons, List.flatMap_cons, hrest]
    · rw [List.filter_cons_of_neg ha, hrest, List.flatMap_cons,
        h a (List.mem_cons_self ..) (Bool.eq_false_iff.mpr ha), List.nil_append]

/-- The violations that are tied come from one file, whose place in the list decides nothing. -/
lemma filter_tied_eq_of_perm {paths' : List Path} (hperm : paths'.Perm paths)
    (h : (paths.map (displayPath root)).Nodup) (v : Violation) :
    (paths'.flatMap (checkFile files root rules)).filter (tied violationLe v) =
      (paths.flatMap (checkFile files root rules)).filter (tied violationLe v) := by
  have hnone : ∀ path, (displayPath root path == v.file) = false →
      (checkFile files root rules path).filter (tied violationLe v) = [] := by
    intro path hne
    refine List.filter_eq_nil_iff.mpr fun w hw htied => ?_
    rw [← file_of_mem_checkFile hw, ← file_eq_of_tied htied, beq_self_eq_true] at hne
    cases hne
  rw [List.filter_flatMap, List.filter_flatMap,
    ← flatMap_filter_of_eq_nil (p := (displayPath root · == v.file)) fun path _ => hnone path,
    filter_key_eq_of_perm hperm h, flatMap_filter_of_eq_nil fun path _ => hnone path]

lemma nodup_places_flatMap_checkFile (h : (paths.map (displayPath root)).Nodup) :
    ((paths.flatMap (checkFile files root rules)).map fun v =>
      (v.file, v.line, v.matched)).Nodup := by
  rw [List.map_flatMap, List.nodup_flatMap]
  constructor
  · intro path _
    have hplaces := nodup_places_checkFile files root rules path
    refine List.Nodup.of_map Prod.snd ?_
    rwa [List.map_map]
  · refine (List.pairwise_map.mp h).imp fun {path path'} hne => ?_
    simp only [Function.onFun, List.disjoint_left, List.mem_map]
    rintro _ ⟨v, hv, rfl⟩ ⟨w, hw, hsame⟩
    obtain ⟨hfile, -⟩ := Prod.mk.inj hsame
    rw [file_of_mem_checkFile hv, file_of_mem_checkFile hw] at hfile
    exact hne hfile.symm

lemma violations_perm (files : FileSystem) (root : Path) (paths : List Path) (sets : List RuleSet)
    (least : Option Severity) :
    (run files root paths sets least).violations.Perm
      (paths.flatMap (checkFile files root (compiledRules sets least))) :=
  List.mergeSort_perm _ _

lemma run_eq_of_violations {paths' : List Path}
    (h : (run files root paths' sets least).violations =
      (run files root paths sets least).violations) :
    run files root paths' sets least = run files root paths sets least := by
  simp only [run] at h
  simp only [run, h]

end

/-- Over files with different places, a report does not depend on the order of the files. It lists
what the files report in its order, no text of a line twice, and its counts add up to their number. -/
theorem run_of_nodup_places (files : FileSystem) (root : Path) (paths : List Path)
    (sets : List RuleSet) (least : Option Severity)
    (hplaces : (paths.map (displayPath root)).Nodup) :
    let report := run files root paths sets least
    (∀ paths', paths'.Perm paths → run files root paths' sets least = report) ∧
    report.violations.Perm
      (paths.flatMap (checkFile files root (compiledRules sets least))) ∧
    report.violations.Pairwise ViolationOrder ∧
    (report.violations.map fun v => (v.file, v.line, v.matched)).Nodup ∧
    report.total = report.violations.length ∧
    (report.bySeverity.map Prod.snd).sum = report.violations.length ∧
    (report.byRule.map Prod.snd).sum = report.violations.length := by
  refine ⟨fun paths' hperm => run_eq_of_violations ?_, violations_perm .., ?_, ?_, ?_, ?_, ?_⟩
  · exact mergeSort_eq_of_filter_tied violationLe_trans violationLe_total
      (filter_tied_eq_of_perm hperm hplaces)
  · exact (List.pairwise_mergeSort violationLe_trans violationLe_total _).imp
      fun h => (violationLe_iff _ _).mp h
  · exact ((violations_perm ..).map _).nodup_iff.mpr (nodup_places_flatMap_checkFile hplaces)
  · rfl
  · rw [← List.length_map (·.severity)]
    exact sum_counts (nodup_countSeverities _) (mem_countSeverities_iff _)
  · rw [← List.length_map (·.ruleId)]
    exact sum_counts (nodup_countRules _) (mem_countRules_iff _)

def bannedSet (name pattern : String) : RuleSet :=
  { RuleSet.named name with rules := [Rule.ofPattern "banned" pattern] }

def bannedSets : List RuleSet := [bannedSet "one" "exec(", bannedSet "two" "eval("]

def pagePaths : List Path := [⟨true, ["app", "a.js"]⟩, ⟨true, ["app", "b.js"]⟩]

/-- Each line breaks two rules, whose violations are tied. -/
def pageFiles : FileSystem :=
  let page := .file (.ofText "eval(exec(x))\n")
  ⟨.dir [("app", .dir [("a.js", page), ("b.js", page)])]⟩

theorem run_of_nodup_places_pages :
    (pagePaths.map (displayPath ⟨true, ["app"]⟩)).Nodup ∧
      run pageFiles ⟨true, ["app"]⟩ pagePaths.reverse bannedSets none =
        run pageFiles ⟨true, ["app"]⟩ pagePaths bannedSets none ∧
      (run pageFiles ⟨true, ["app"]⟩ pagePaths bannedSets none).violations.length = 4 := by
  have hplaces : (pagePaths.map (displayPath ⟨true, ["app"]⟩)).Nodup := by decide +kernel
  obtain ⟨hany, hperm, -⟩ :=
    run_of_nodup_places pageFiles ⟨true, ["app"]⟩ pagePaths bannedSets none hplaces
  refine ⟨hplaces, hany _ (List.reverse_perm _), hperm.length_eq.trans ?_⟩
  decide +kernel

end Rules

end ScriptSurvey
