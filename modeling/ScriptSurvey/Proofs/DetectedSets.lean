import Mathlib.Data.List.Infix
import Mathlib.Data.List.Nodup
import Mathlib.Tactic.Common
import ScriptSurvey.Rules.Detect

/-!
# Detected rule sets

A set runs on a project because of its flag, because of a package of the manifest, or because one of
the first files shows a mark of it. The sets found are in the order in which they are stored, those
that need no look at the files before the others, and the files beyond the sample have no say.
-/
namespace ScriptSurvey

namespace Text

lemma occursIn_iff {α : Type} [BEq α] [LawfulBEq α] {needle text : List α} :
    occursIn needle text = true ↔ needle <:+: text := by
  induction text with
  | nil => simp [occursIn]
  | cons c rest ih =>
    rw [occursIn, Bool.or_eq_true, List.isPrefixOf_iff_prefix, ih, List.infix_cons_iff]

lemma contains_iff {text needle : String} :
    contains text needle = true ↔ needle.toList <:+: text.toList := occursIn_iff

end Text

namespace Rules

/-! ## Why a set runs -/

/-- The text has the module in quotes, or the beginning of a path into the module. -/
def QuotesModule (text module : String) : Prop :=
  ∃ quote ∈ ["\"", "'"], ∃ stop ∈ [quote, "/"], (quote ++ module ++ stop).toList <:+: text.toList

def ShowsMark (text : String) (set : RuleSet) : Prop :=
  (∃ module ∈ set.detection.imports, QuotesModule text module) ∨
    ∃ fragment ∈ set.detection.fragments, fragment.toList <:+: text.toList

/-- The set runs whatever the files hold: always, or for a package in a table of the manifest. -/
def RunsAnyway (manifest : Manifest) (set : RuleSet) : Prop :=
  set.alwaysApply = true ∨ ∃ package ∈ set.detection.packages,
    package ∈ manifest.dependencies ∨ package ∈ manifest.devDependencies ∨
      package ∈ manifest.peerDependencies

/-- One of the first forty files can be read and has a mark of the set. -/
def MarkedBySample (files : FileSystem) (paths : List Path) (set : RuleSet) : Prop :=
  ∃ path ∈ paths.take 40, ∃ text, files.readText? path = some text ∧ ShowsMark text set

instance : DecidableRel QuotesModule := fun text module =>
  inferInstanceAs (Decidable (∃ quote ∈ ["\"", "'"], ∃ stop ∈ [quote, "/"],
    (quote ++ module ++ stop).toList <:+: text.toList))

instance : DecidableRel ShowsMark := fun text set =>
  inferInstanceAs (Decidable ((∃ module ∈ set.detection.imports, QuotesModule text module) ∨
    ∃ fragment ∈ set.detection.fragments, fragment.toList <:+: text.toList))

instance : DecidableRel RunsAnyway := fun manifest set =>
  inferInstanceAs (Decidable (set.alwaysApply = true ∨ ∃ package ∈ set.detection.packages,
    package ∈ manifest.dependencies ∨ package ∈ manifest.devDependencies ∨
      package ∈ manifest.peerDependencies))

section

variable {files files' : FileSystem} {root : Path} {sets : List RuleSet} {disabled : List String}
  {paths paths' : List Path} {manifest : Manifest} {set : RuleSet} {text module : String}

lemma importsModule_iff : importsModule text module = true ↔ QuotesModule text module := by
  simp [importsModule, QuotesModule, Text.contains_iff]

lemma isMarked_iff {texts : List String} :
    isMarked texts set = true ↔ ∃ text ∈ texts, ShowsMark text set := by
  simp only [isMarked, ShowsMark, List.any_eq_true, Bool.or_eq_true, importsModule_iff,
    Text.contains_iff]

lemma isMarked_samples_iff :
    isMarked (samples files paths) set = true ↔ MarkedBySample files paths set := by
  simp only [isMarked_iff, samples, List.mem_filterMap, MarkedBySample]
  constructor
  · rintro ⟨text, ⟨path, hpath, htext⟩, hshows⟩
    exact ⟨path, hpath, text, htext, hshows⟩
  · rintro ⟨path, hpath, text, htext, hshows⟩
    exact ⟨text, ⟨path, hpath, htext⟩, hshows⟩

lemma isSettled_iff : isSettled manifest set = true ↔ RunsAnyway manifest set := by
  simp [isSettled, RunsAnyway, Manifest.dependsOn, Manifest.allDependencies]

/-! ## The sets found -/

lemma mem_detect_iff :
    set ∈ detect files root sets paths disabled ↔ set ∈ sets ∧ set.name ∉ disabled ∧
      (RunsAnyway ((Manifest.load? files root).getD Manifest.empty) set ∨
        MarkedBySample files paths set) := by
  rw [detect, List.mem_append, List.mem_filter, List.mem_filter, List.mem_filter, ← isSettled_iff,
    ← isMarked_samples_iff]
  cases isSettled ((Manifest.load? files root).getD Manifest.empty) set <;> simp [and_assoc]

lemma nodup_names_detect (h : (sets.map (·.name)).Nodup) :
    ((detect files root sets paths disabled).map (·.name)).Nodup := by
  have hsets : sets.Nodup := h.of_map _
  have hname : ∀ s ∈ detect files root sets paths disabled, s ∈ sets := fun s hs =>
    (mem_detect_iff.mp hs).1
  refine List.Nodup.map_on
    (fun s hs t ht heq => List.inj_on_of_nodup_map h (hname s hs) (hname t ht) heq) ?_
  rw [detect]
  refine ((hsets.filter _).filter _).append ((hsets.filter _).filter _) fun s hs hs' => ?_
  have hsettled := (List.mem_filter.mp hs).2
  simp [hsettled] at hs'

lemma detect_congr (hmanifest : Manifest.load? files' root = Manifest.load? files root)
    (hpaths : paths'.take 40 = paths.take 40)
    (htexts : ∀ path ∈ paths.take 40, files'.readText? path = files.readText? path) :
    detect files' root sets paths' disabled = detect files root sets paths disabled := by
  have hsamples : samples files' paths' = samples files paths := by
    rw [samples, samples, sampleCount, hpaths]
    exact List.filterMap_congr htexts
  rw [detect, detect, hmanifest, hsamples]

end

/-- The sets found are just those that are not disabled and run anyway or are marked by a sample, each
once: first those that run anyway, then the others, both in the order in which they are stored. What
is not among the first forty files does not matter. -/
theorem detect_sampled (files : FileSystem) (root : Path) (sets : List RuleSet)
    (paths : List Path) (disabled : List String) (hnames : (sets.map (·.name)).Nodup) :
    let manifest := (Manifest.load? files root).getD Manifest.empty
    let found := detect files root sets paths disabled
    (found.map (·.name)).Nodup ∧
      (∀ set, set ∈ found ↔ set ∈ sets ∧ set.name ∉ disabled ∧
        (RunsAnyway manifest set ∨ MarkedBySample files paths set)) ∧
      (∃ first later, found = first ++ later ∧ first.Sublist sets ∧ later.Sublist sets ∧
        (∀ set ∈ first, RunsAnyway manifest set) ∧ ∀ set ∈ later, ¬RunsAnyway manifest set) ∧
      ∀ files' paths', Manifest.load? files' root = Manifest.load? files root →
        paths'.take 40 = paths.take 40 →
        (∀ path ∈ paths.take 40, files'.readText? path = files.readText? path) →
        detect files' root sets paths' disabled = found := by
  intro manifest found
  refine ⟨nodup_names_detect hnames, fun set => mem_detect_iff, ⟨_, _, rfl,
    List.filter_sublist.trans List.filter_sublist, List.filter_sublist.trans List.filter_sublist,
    fun set hset => ?_, fun set hset hruns => ?_⟩, fun files' paths' => detect_congr⟩
  · exact isSettled_iff.mp (List.mem_filter.mp hset).2
  · have hundecided := (List.mem_filter.mp hset).2
    rw [isSettled_iff.mpr hruns] at hundecided
    cases hundecided

/-- The manifest names a package, and the only file imports a part of a module. -/
def markedFiles : FileSystem :=
  ⟨.dir [("proj", .dir [
    ("package.json", .file (.ofText "\x7b\"dependencies\": \x7b\"react\": \"18\"\x7d\x7d")),
    ("app.js", .file (.ofText "import _ from 'lodash/fp';"))])]⟩

def detecting (name : String) (packages imports fragments : List String) : RuleSet :=
  { RuleSet.named name with detection := ⟨packages, imports, fragments⟩ }

def markedSets : List RuleSet :=
  [detecting "lodash" [] ["lodash"] [], detecting "axios" [] ["axios"] [],
    detecting "vue" ["vue"] [] ["<template"], detecting "react" ["react"] [] ["jsx"]]

lemma load?_markedFiles :
    Manifest.load? markedFiles ⟨true, ["proj"]⟩ = some ⟨none, none, ["react"], [], []⟩ := by
  decide +kernel

lemma readText?_markedFiles : markedFiles.readText? ⟨true, ["proj", "app.js"]⟩ =
    some "import _ from 'lodash/fp';" := by
  decide +kernel

/-- A set of the manifest comes before one of the sample, and file number 41 is not looked at. -/
theorem detect_sampled_lodash :
    let sample : List Path := List.replicate 40 ⟨true, ["proj", "app.js"]⟩
    let found := detect markedFiles ⟨true, ["proj"]⟩ markedSets sample []
    (markedSets.map (·.name)).Nodup ∧ detecting "react" ["react"] [] ["jsx"] ∈ found ∧
      detecting "lodash" [] ["lodash"] [] ∈ found ∧ detecting "axios" [] ["axios"] [] ∉ found ∧
      ∀ path, detect markedFiles ⟨true, ["proj"]⟩ markedSets (sample ++ [path]) [] = found := by
  intro sample found
  have hnames : (markedSets.map (·.name)).Nodup := by decide
  obtain ⟨-, hfound, -, hsame⟩ :=
    detect_sampled markedFiles ⟨true, ["proj"]⟩ markedSets sample [] hnames
  rw [load?_markedFiles, Option.getD_some] at hfound
  refine ⟨hnames, (hfound _).mpr ?_, (hfound _).mpr ?_, fun haxios => ?_,
    fun path => hsame markedFiles (sample ++ [path]) rfl rfl fun _ _ => rfl⟩
  · exact ⟨by simp [markedSets], List.not_mem_nil, Or.inl (by decide)⟩
  · exact ⟨List.mem_cons_self, List.not_mem_nil, Or.inr
      ⟨_, List.mem_cons_self, _, readText?_markedFiles, by decide +kernel⟩⟩
  · obtain ⟨-, -, hanyway | ⟨path, hpath, text, hread, hshows⟩⟩ := (hfound _).mp haxios
    · exact absurd hanyway (by decide)
    · rw [List.eq_of_mem_replicate (List.mem_of_mem_take hpath), readText?_markedFiles] at hread
      obtain rfl := Option.some.inj hread
      exact absurd hshows (by decide +kernel)

end Rules

end ScriptSurvey
