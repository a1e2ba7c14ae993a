import ScriptSurvey.Proofs.FirstOccurrences
import ScriptSurvey.Proofs.LinePlaces
import ScriptSurvey.Rules.Violation

/-!
# What the rules find in a file

A rule finds a text on a line when its pattern stands there in live code and the markup tag that it
asks for is open. A file reports the finds in the order of the lines and then of the rules, each text
of a line for the first rule that finds it.
-/
namespace ScriptSurvey.Rules

/-! ## Finds -/

/-- The rule is meant for the file and its first place in the live code of the line holds `matched`.
The tag that it asks for is open in the text through the line. -/
structure Finds (file : String) (rule : CompiledRule) (content through : List Char)
    (matched : String) : Prop where
  meant : rule.appliesTo file = true
  live : (rule.findLive content).map (·.matched) = some matched
  inside : ∀ tag, rule.rule.context = some tag → 0 < Markup.tagDepth through tag

structure Find where
  line : ℕ
  place : ℕ
  rule : CompiledRule
  matched : String

namespace Find

def violation (file : String) (find : Find) : Violation where
  ruleId := find.rule.rule.id
  ruleSet := find.rule.setName
  severity := find.rule.rule.severity
  file := file
  line := find.line
  matched := find.matched
  replacement := find.rule.rule.replacement
  message := find.rule.rule.message

def Before (a b : Find) : Prop := a.line < b.line ∨ a.line = b.line ∧ a.place < b.place

structure Holds (file text : String) (rules : List CompiledRule) (find : Find) : Prop where
  rule_eq : rules[find.place]? = some find.rule
  finds : ∃ content through, Text.IsLine text.toList find.line content through ∧
    Finds file find.rule content through find.matched

/-- No rule in front finds the same text on the line. -/
structure IsFirst (file text : String) (rules : List CompiledRule) (find : Find) : Prop where
  holds : find.Holds file text rules
  first : ∀ other : Find, other.Holds file text rules → other.line = find.line →
    other.matched = find.matched → find.place ≤ other.place

end Find

/-! ## The finds on one line -/

section

variable {file text : String} {rules : List CompiledRule} {line : Text.Line text}

lemma inContext_iff (rule : CompiledRule) :
    inContext rule line = true ↔
      ∀ tag, rule.rule.context = some tag → 0 < Markup.tagDepth line.through tag := by
  rw [inContext]
  cases rule.rule.context <;> simp

lemma report?_eq_some_iff {rule : CompiledRule} (place : ℕ) {v : Violation} :
    rule.appliesTo file = true ∧ report? file line rule = some v ↔
      Finds file rule line.content line.through v.matched ∧
        v = Find.violation file ⟨line.number, place, rule, v.matched⟩ := by
  rw [report?, Option.bind_eq_some_iff]
  constructor
  · rintro ⟨hmeant, hit, hlive, hreport⟩
    split_ifs at hreport with hinside
    obtain rfl := Option.some_inj.mp hreport
    exact ⟨⟨hmeant, by simp [hlive], (inContext_iff rule).mp hinside⟩, rfl⟩
  · rintro ⟨hfinds, hv⟩
    obtain ⟨hit, hlive, hmatched⟩ := Option.map_eq_some_iff.mp hfinds.live
    refine ⟨hfinds.meant, hit, hlive, ?_⟩
    rw [if_pos ((inContext_iff rule).mpr hfinds.inside), hv, ← hmatched]
    rfl

end

def findOn? {text : String} (file : String) (line : Text.Line text) (rule : CompiledRule × ℕ) :
    Option Find :=
  if rule.1.appliesTo file then
    (report? file line rule.1).map fun v => ⟨line.number, rule.2, rule.1, v.matched⟩
  else none

def findsOn {text : String} (file : String) (rules : List CompiledRule) (line : Text.Line text) :
    List Find := rules.zipIdx.filterMap (findOn? file line)

def firstFindsOn {text : String} (file : String) (rules : List CompiledRule)
    (line : Text.Line text) : List Find :=
  keepFirst (fun a b => a.matched == b.matched) (findsOn file rules line)

section

variable {file text : String} {rules : List CompiledRule} {line : Text.Line text} {find : Find}

lemma mem_findsOn_iff :
    find ∈ findsOn file rules line ↔
      find.line = line.number ∧ rules[find.place]? = some find.rule ∧
        Finds file find.rule line.content line.through find.matched := by
  simp only [findsOn, List.mem_filterMap, Prod.exists, List.mk_mem_zipIdx_iff_getElem?, findOn?]
  constructor
  · rintro ⟨rule, place, hrule, hfind⟩
    split_ifs at hfind with hmeant
    obtain ⟨v, hv, rfl⟩ := Option.map_eq_some_iff.mp hfind
    exact ⟨rfl, hrule, ((report?_eq_some_iff place).mp ⟨hmeant, hv⟩).1⟩
  · rintro ⟨hline, hrule, hfinds⟩
    obtain ⟨hmeant, hv⟩ := (report?_eq_some_iff (v := find.violation file) find.place).mpr
      ⟨hfinds, congrArg (fun n => Find.violation file ⟨n, find.place, _, _⟩) hline⟩
    refine ⟨find.rule, find.place, hrule, ?_⟩
    rw [if_pos hmeant, hv, Option.map_some, ← hline]
    rfl

lemma pairwise_place_findsOn :
    (findsOn file rules line).Pairwise fun a b => a.place < b.place := by
  refine List.pairwise_filterMap.mpr ((pairwise_snd_zipIdx rules).imp fun {a b} hab f hf g hg => ?_)
  have hplace : ∀ {c : CompiledRule × ℕ} {h : Find}, findOn? file line c = some h →
      h.place = c.2 := by
    intro c h hc
    rw [findOn?] at hc
    split_ifs at hc
    obtain ⟨v, -, rfl⟩ := Option.map_eq_some_iff.mp hc
    rfl
  rw [hplace hf, hplace hg]
  exact hab

lemma map_violation_findsOn :
    (findsOn file rules line).map (Find.violation file) =
      (rules.filter (·.appliesTo file)).filterMap (report? file line) := by
  have hreport : ∀ rule : CompiledRule × ℕ, (findOn? file line rule).map (Find.violation file) =
      if rule.1.appliesTo file then report? file line rule.1 else none := by
    intro rule
    rw [findOn?]
    split_ifs with hmeant
    · cases hv : report? file line rule.1 with
      | none => rfl
      | some v =>
        have hsame := ((report?_eq_some_iff rule.2).mp ⟨hmeant, hv⟩).2
        rw [Option.map_some, Option.map_some, ← hsame]
    · rfl
  conv_rhs => rw [List.filterMap_filter, ← List.zipIdx_map_fst 0 rules, List.filterMap_map]
  rw [findsOn, List.map_filterMap]
  congr 1
  funext rule
  exact hreport rule

lemma map_violation_firstFindsOn :
    (firstFindsOn file rules line).map (Find.violation file) =
      checkLine file (rules.filter (·.appliesTo file)) line := by
  have hkeep : (firstFindsOn file rules line).map (Find.violation file) =
      firstMatches ((findsOn file rules line).map (Find.violation file)) :=
    map_keepFirst (fun a b : Violation => a.matched == b.matched) (fun _ _ => rfl) _
  rw [hkeep, map_violation_findsOn, checkLine]

lemma mem_firstFindsOn_iff :
    find ∈ firstFindsOn file rules line ↔
      find ∈ findsOn file rules line ∧
        ∀ other ∈ findsOn file rules line, other.matched = find.matched →
          find.place ≤ other.place :=
  mem_keepFirst_iff_of_rank (fun _ _ => beq_iff_eq) pairwise_place_findsOn find

/-! ## The finds in a file -/

lemma holds_iff_exists_line :
    find.Holds file text rules ↔ ∃ line ∈ Text.placedLines text, find ∈ findsOn file rules line := by
  constructor
  · rintro ⟨hrule, content, through, hline, hfinds⟩
    obtain ⟨line, hmem, hnumber, rfl, rfl⟩ := Text.exists_mem_placedLines hline
    exact ⟨line, hmem, mem_findsOn_iff.mpr ⟨hnumber.symm, hrule, hfinds⟩⟩
  · rintro ⟨line, hmem, hfind⟩
    obtain ⟨hnumber, hrule, hfinds⟩ := mem_findsOn_iff.mp hfind
    exact ⟨hrule, _, _, hnumber ▸ Text.isLine_of_mem hmem, hfinds⟩

def firstFinds (file text : String) (rules : List CompiledRule) : List Find :=
  (Text.placedLines text).flatMap (firstFindsOn file rules)

lemma checkText_eq_map (file text : String) (rules : List CompiledRule) :
    checkText file text rules = (firstFinds file text rules).map (Find.violation file) := by
  rw [firstFinds, List.map_flatMap]
  exact List.flatMap_congr fun line _ => map_violation_firstFindsOn.symm

lemma eq_of_number_eq {a b : Text.Line text} (ha : a ∈ Text.placedLines text)
    (hb : b ∈ Text.placedLines text) (h : a.number = b.number) : a = b := by
  have hdistinct : ((Text.placedLines text).map Text.Line.number).Nodup :=
    List.pairwise_map.mpr ((Text.pairwise_number_placedLines text).imp Nat.ne_of_lt)
  exact List.inj_on_of_nodup_map hdistinct ha hb h

lemma mem_firstFinds_iff : find ∈ firstFinds file text rules ↔ find.IsFirst file text rules := by
  simp only [firstFinds, List.mem_flatMap, mem_firstFindsOn_iff]
  constructor
  · rintro ⟨line, hline, hfind, hfirst⟩
    refine ⟨holds_iff_exists_line.mpr ⟨line, hline, hfind⟩, fun other hother hnumber hmatched => ?_⟩
    obtain ⟨line', hline', hother⟩ := holds_iff_exists_line.mp hother
    have hsame : line'.number = line.number := by
      rw [← (mem_findsOn_iff.mp hother).1, ← (mem_findsOn_iff.mp hfind).1, hnumber]
    obtain rfl := eq_of_number_eq hline' hline hsame
    exact hfirst other hother hmatched
  · rintro ⟨hholds, hfirst⟩
    obtain ⟨line, hline, hfind⟩ := holds_iff_exists_line.mp hholds
    refine ⟨line, hline, hfind, fun other hother hmatched => ?_⟩
    refine hfirst other (holds_iff_exists_line.mpr ⟨line, hline, hother⟩) ?_ hmatched
    rw [(mem_findsOn_iff.mp hother).1, (mem_findsOn_iff.mp hfind).1]

lemma mem_checkText_iff {v : Violation} :
    v ∈ checkText file text rules ↔
      ∃ find : Find, find.IsFirst file text rules ∧ v = find.violation file := by
  rw [checkText_eq_map, List.mem_map]
  simp only [mem_firstFinds_iff, eq_comm]

lemma line_of_mem_firstFindsOn (h : find ∈ firstFindsOn file rules line) :
    find.line = line.number :=
  (mem_findsOn_iff.mp (mem_firstFindsOn_iff.mp h).1).1

lemma pairwise_before_firstFinds : (firstFinds file text rules).Pairwise Find.Before := by
  refine List.pairwise_flatMap.mpr ⟨fun line _ => ?_, ?_⟩
  · have hplaces : (firstFindsOn file rules line).Pairwise fun a b => a.place < b.place :=
      pairwise_place_findsOn.sublist (keepFirst_sublist _)
    refine hplaces.imp_of_mem fun {a b} ha hb hab => Or.inr ⟨?_, hab⟩
    rw [line_of_mem_firstFindsOn ha, line_of_mem_firstFindsOn hb]
  · refine (Text.pairwise_number_placedLines text).imp fun hab x hx y hy => Or.inl ?_
    rwa [line_of_mem_firstFindsOn hx, line_of_mem_firstFindsOn hy]

lemma nodup_places_firstFinds :
    ((firstFinds file text rules).map fun f => (f.line, f.matched)).Nodup := by
  refine List.pairwise_map.mpr (pairwise_before_firstFinds.imp_of_mem ?_)
  intro a b ha hb hab hsame
  obtain ⟨hline, hmatched⟩ := Prod.mk.inj hsame
  have hfirst := (mem_firstFinds_iff.mp hb).first a (mem_firstFinds_iff.mp ha).holds hline hmatched
  rcases hab with hlt | ⟨-, hlt⟩ <;> omega

end

/-- The report of a file is exactly the first finds, by line and then by rule. Its line numbers are
those of the text, no text of a line comes twice, and the sums of bytes that lead from line to line
are offsets of places in the text. -/
theorem checkText_firstFinds (file text : String) (rules : List CompiledRule) :
    (∃ finds : List Find, checkText file text rules = finds.map (Find.violation file) ∧
      finds.Pairwise Find.Before ∧ ∀ find, find ∈ finds ↔ find.IsFirst file text rules) ∧
    (∀ v ∈ checkText file text rules, 1 ≤ v.line ∧ v.line ≤ Text.countLines text.toUTF8.toList) ∧
    ((checkText file text rules).map fun v => (v.line, v.matched)).Nodup ∧
    ∃ placed, Text.placedLines? text = some placed ∧
      checkText file text rules =
        placed.flatMap (checkLine file (rules.filter (·.appliesTo file))) ∧
      ∀ number content through, Text.IsLine text.toList number content through ↔
        ∃ line ∈ placed, line.number = number ∧ line.content = content ∧
          line.through = through := by
  refine ⟨⟨firstFinds file text rules, checkText_eq_map file text rules,
    pairwise_before_firstFinds, fun find => mem_firstFinds_iff⟩, ?_, ?_,
    Text.placedLines text, Text.placedLines?_eq_some text, rfl, ?_⟩
  · intro v hv
    obtain ⟨find, hfirst, rfl⟩ := mem_checkText_iff.mp hv
    obtain ⟨content, through, hline, -⟩ := hfirst.holds.finds
    exact ⟨hline.positive, Text.number_le_countLines hline⟩
  · rw [checkText_eq_map, List.map_map]
    exact nodup_places_firstFinds
  · intro number content through
    constructor
    · exact Text.exists_mem_placedLines
    · rintro ⟨line, hline, rfl, rfl, rfl⟩
      exact Text.isLine_of_mem hline

end ScriptSurvey.Rules
