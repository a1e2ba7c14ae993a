import Mathlib.Data.List.Infix
import Mathlib.Order.Bounds.Basic
import ScriptSurvey.Proofs.LinePlaces
import ScriptSurvey.Proofs.LineStates
import ScriptSurvey.Proofs.Occurrences
import ScriptSurvey.Proofs.RuleEdits
import ScriptSurvey.Rules.Compiled

/-!
# Live hits of a literal pattern

A literal rule hits a line at the first live place that its search comes to. The search passes over
dead occurrences as a whole, so a live occurrence is missed if it begins within a dead one. It is
never missed when the pattern has no quote in front of a place where it overlaps itself, for only a
quote leads from dead to live code.
-/
namespace ScriptSurvey

namespace LiveCode

def quoteMarks : List Char := ['"', '\'', '`']

def LiveAt (line : List Char) (offset : ℕ) : Prop :=
  isLive (String.ofList line).toUTF8.toList offset = true

instance (line : List Char) (offset : ℕ) : Decidable (LiveAt line offset) :=
  inferInstanceAs (Decidable (_ = true))

lemma notMem_quotes {c : Char} (h : c ∉ quoteMarks) {b : UInt8}
    (hb : b ∈ String.utf8EncodeChar c) : b ∉ quotes := by
  intro hquote
  have hmarks : ∀ q ∈ quotes, q.toNat < 128 ∧ Char.ofNat q.toNat ∈ quoteMarks := by
    simp only [quotes, List.mem_cons, List.not_mem_nil, or_false, forall_eq_or_imp, forall_eq]
    decide
  obtain ⟨hsmall, hmark⟩ := hmarks b hquote
  rw [← Text.toNat_of_mem_utf8EncodeChar hb hsmall] at hmark
  exact h (Char.ofNat_toNat c ▸ hmark)

/-- Characters that are no quotes do not lead from a dead place to a live one. -/
lemma not_liveAt_of_plain {line front part rest : List Char} (hline : line = front ++ part ++ rest)
    (hplain : ∀ c ∈ part, c ∉ quoteMarks) (h : ¬ LiveAt line (Text.size front)) :
    ¬ LiveAt line (Text.size front + Text.size part) := by
  refine not_isLive_add h fun b hb => ?_
  have hbytes : ((String.ofList line).toUTF8.toList.drop (Text.size front)).take (Text.size part) =
      part.flatMap String.utf8EncodeChar := by
    rw [Text.toList_toUTF8, String.toList_ofList, hline, List.append_assoc, List.flatMap_append,
      List.flatMap_append, Text.size, Text.size, List.drop_left, List.take_left]
  rw [hbytes] at hb
  obtain ⟨c, hc, hb⟩ := List.mem_flatMap.mp hb
  exact notMem_quotes (hplain c hc) hb

end LiveCode

/-! ## The search for a live hit -/

namespace CompiledRule

open LiveCode (LiveAt quoteMarks)
open RuleStore (bind_eq_ok)

def liveOccurrences (text line : List Char) : Set ℕ :=
  {o | Text.OccursAt text line o ∧ LiveAt line o}

/-- The occurrence begins within an earlier one that is dead. -/
def Hidden (text line : List Char) (offset : ℕ) : Prop :=
  ∃ earlier < offset, Text.OccursAt text line earlier ∧ ¬ LiveAt line earlier ∧
    offset < earlier + Text.size text

/-- Where the text overlaps itself behind some first part, this part has no quote. -/
def PlainOverlaps (text : List Char) : Prop :=
  ∀ length < text.length, text.drop length <+: text → ∀ c ∈ text.take length, c ∉ quoteMarks

instance (text : List Char) : Decidable (PlainOverlaps text) :=
  haveI (length : ℕ) : Decidable (∀ c ∈ text.take length, c ∉ quoteMarks) :=
    List.decidableBAll _ _
  inferInstanceAs (Decidable (∀ length < text.length, text.drop length <+: text →
    ∀ c ∈ text.take length, c ∉ quoteMarks))

section

variable {rule : CompiledRule} {text line : List Char} {offset : ℕ}

lemma not_liveAt_of_hidden (hplain : PlainOverlaps text) (hoccurs : Text.OccursAt text line offset)
    (hhidden : Hidden text line offset) : ¬ LiveAt line offset := by
  obtain ⟨earlier, hlt, hearlier, hdead, hwithin⟩ := hhidden
  obtain ⟨front, part, rest, hline, rfl, rfl, hlength, htake, hoverlap⟩ :=
    Text.exists_overlap hearlier hoccurs hlt hwithin
  have hpart := hplain part.length hlength hoverlap
  rw [htake] at hpart
  exact LiveCode.not_liveAt_of_plain hline hpart hdead

def liveOffset? (text line : List Char) : Option ℕ :=
  (Text.occurrences text line).find? fun offset => decide (LiveAt line offset)

lemma findLive_eq (hneedle : rule.needle = .literal text) (line : List Char) :
    rule.findLive line = (liveOffset? text line).map fun offset => ⟨offset, String.ofList text⟩ := by
  rw [findLive, hneedle, hits, List.find?_map]
  congr 2
  funext offset
  simp [LiveAt]

/-- The search stops at the first live occurrence that it comes to. -/
lemma isLeast_of_liveOffset? (h : liveOffset? text line = some offset) :
    IsLeast {o | o ∈ Text.occurrences text line ∧ LiveAt line o} offset := by
  obtain ⟨hlive, front, back, hsplit, hdead⟩ := List.find?_eq_some_iff_append.mp h
  have hsorted := Text.pairwise_occurrencesFrom text 0 0 line
  rw [← Text.occurrences, hsplit, List.pairwise_append, List.pairwise_cons] at hsorted
  refine ⟨⟨by simp [hsplit], of_decide_eq_true hlive⟩, ?_⟩
  rintro o ⟨ho, hlive'⟩
  rw [hsplit, List.mem_append, List.mem_cons] at ho
  rcases ho with ho | rfl | ho
  · exact absurd hlive' (by simpa using hdead o ho)
  · exact le_rfl
  · exact (hsorted.2.1.1 o ho).le

lemma liveOffset?_eq_none_iff :
    liveOffset? text line = none ↔ ∀ o ∈ Text.occurrences text line, ¬ LiveAt line o := by
  simp [liveOffset?]

/-- An occurrence that is live and not hidden is found, unless an earlier one is. -/
lemma exists_liveOffset? (hne : text ≠ []) (hoccurs : Text.OccursAt text line offset)
    (hlive : LiveAt line offset) (hhidden : ¬ Hidden text line offset) :
    ∃ first ≤ offset, liveOffset? text line = some first := by
  obtain ⟨o, ho, hle, hwithin⟩ := Text.exists_mem_occurrences hne hoccurs
  have hfound : LiveAt line o := by
    rcases hle.lt_or_eq with hlt | rfl
    · by_contra hdead
      exact hhidden ⟨o, hlt, Text.occursAt_of_mem_occurrences ho, hdead, hwithin⟩
    · exact hlive
  cases hfirst : liveOffset? text line with
  | none => exact absurd hfound (liveOffset?_eq_none_iff.mp hfirst o ho)
  | some first =>
    exact ⟨first, ((isLeast_of_liveOffset? hfirst).2 ⟨ho, hfound⟩).trans hle, rfl⟩

lemma mem_liveOccurrences (h : liveOffset? text line = some offset) :
    offset ∈ liveOccurrences text line :=
  have hfound := (isLeast_of_liveOffset? h).1
  ⟨Text.occursAt_of_mem_occurrences hfound.1, hfound.2⟩

/-- No live occurrence of a text with plain overlaps is missed. -/
lemma isLeast_iff_of_plain (hne : text ≠ []) (hplain : PlainOverlaps text) :
    (∀ offset, liveOffset? text line = some offset ↔ IsLeast (liveOccurrences text line) offset) ∧
      (liveOffset? text line = none ↔ liveOccurrences text line = ∅) := by
  have hfound : ∀ o ∈ liveOccurrences text line, ∃ first ≤ o, liveOffset? text line = some first :=
    fun o h => exists_liveOffset? hne h.1 h.2 fun hhidden =>
      not_liveAt_of_hidden hplain h.1 hhidden h.2
  cases hfirst : liveOffset? text line with
  | none =>
    have hempty : liveOccurrences text line = ∅ := by
      refine Set.eq_empty_iff_forall_notMem.mpr fun o ho => ?_
      obtain ⟨first, -, hsome⟩ := hfound o ho
      rw [hfirst] at hsome
      cases hsome
    simp [hempty, IsLeast]
  | some first =>
    have hleast : IsLeast (liveOccurrences text line) first := by
      refine ⟨mem_liveOccurrences hfirst, fun o ho => ?_⟩
      obtain ⟨first', hle, hsome⟩ := hfound o ho
      rw [hfirst] at hsome
      exact Option.some.inj hsome ▸ hle
    refine ⟨fun offset => ⟨?_, fun h => congrArg some (hleast.unique h)⟩, iff_of_false (by simp) ?_⟩
    · rintro ⟨⟩
      exact hleast
    · exact Set.nonempty_iff_ne_empty.mp ⟨first, hleast.1⟩

end

/-! ## Literal rules -/

section

variable {setName : String} {source : Rule} {rule : CompiledRule}

lemma needle_of_compile (hcompile : compile setName source = .ok rule)
    (hkind : source.kind = .literal) :
    rule.needle = .literal source.pattern.toList ∧ source.pattern.toList ≠ [] := by
  obtain ⟨needle, hneedle, hcompile⟩ := bind_eq_ok.mp hcompile
  obtain ⟨included, -, hcompile⟩ := bind_eq_ok.mp hcompile
  obtain ⟨excluded, -, hcompile⟩ := bind_eq_ok.mp hcompile
  rw [compileNeedle, hkind] at hneedle
  split_ifs at hneedle with hempty
  obtain rfl := Except.ok.inj hneedle
  refine ⟨by rw [← Except.ok.inj hcompile], fun hnil => hempty ?_⟩
  simpa using hnil

/-- A literal rule hits a live occurrence of its pattern, and before this one come only live
occurrences that begin within a dead one. When the parts of the pattern in front of its overlaps with
itself have no quote, it hits the first live occurrence of all, and nothing just when there is none. -/
theorem findLive_literal (hcompile : compile setName source = .ok rule)
    (hkind : source.kind = .literal) (line : List Char) :
    let live := liveOccurrences source.pattern.toList line
    (∀ hit, rule.findLive line = some hit → hit.matched = source.pattern ∧ hit.offset ∈ live) ∧
      (∀ offset ∈ live, Hidden source.pattern.toList line offset ∨
        ∃ hit, rule.findLive line = some hit ∧ hit.offset ≤ offset) ∧
      (PlainOverlaps source.pattern.toList →
        (∀ hit, rule.findLive line = some hit ↔
          hit.matched = source.pattern ∧ IsLeast live hit.offset) ∧
        (rule.findLive line = none ↔ live = ∅)) := by
  intro live
  obtain ⟨hneedle, hne⟩ := needle_of_compile hcompile hkind
  have hhit : ∀ hit, rule.findLive line = some hit ↔
      liveOffset? source.pattern.toList line = some hit.offset ∧ hit.matched = source.pattern := by
    rintro ⟨offset, matched⟩
    rw [findLive_eq hneedle, String.ofList_toList, Option.map_eq_some_iff]
    simp [eq_comm]
  refine ⟨fun hit h => ?_, fun offset h => ?_, fun hplain => ⟨fun hit => ?_, ?_⟩⟩
  · obtain ⟨hfound, hmatched⟩ := (hhit hit).mp h
    exact ⟨hmatched, mem_liveOccurrences hfound⟩
  · refine Classical.or_iff_not_imp_left.mpr fun hhidden => ?_
    obtain ⟨first, hle, hfirst⟩ := exists_liveOffset? hne h.1 h.2 hhidden
    exact ⟨⟨first, source.pattern⟩, (hhit _).mpr ⟨hfirst, rfl⟩, hle⟩
  · rw [hhit, (isLeast_iff_of_plain hne hplain).1, and_comm]
  · rw [findLive_eq hneedle, Option.map_eq_none_iff, (isLeast_iff_of_plain hne hplain).2]

/-- The call in a string is passed over, and the one behind it is hit. -/
theorem findLive_literal_warned :
    let source := Rule.ofPattern "no-eval" "eval("
    let line := "warn(\"eval(\"); eval(x);".toList
    source.kind = .literal ∧ PlainOverlaps source.pattern.toList ∧
      ∃ rule, compile "team" source = .ok rule ∧ rule.findLive line = some ⟨15, "eval("⟩ ∧
        IsLeast (liveOccurrences source.pattern.toList line) 15 := by
  intro source line
  have hplain : PlainOverlaps source.pattern.toList := by decide +kernel
  obtain ⟨rule, hcompile⟩ : ∃ rule, compile "team" source = .ok rule := ⟨_, rfl⟩
  have hneedle := (needle_of_compile hcompile rfl).1
  have hfound : rule.findLive line = some ⟨15, "eval("⟩ := by
    rw [findLive_eq hneedle]
    decide +kernel
  obtain ⟨-, -, hplainly⟩ := findLive_literal hcompile rfl line
  exact ⟨rfl, hplain, rule, hcompile, hfound, (((hplainly hplain).1 _).mp hfound).2⟩

/-- The middle string begins in live code. But its first quote ends an occurrence at the end of the
string before, which is dead, and the search passes over this quote. -/
theorem live_hit_missed :
    let source := Rule.ofPattern "concatenation" "' + '"
    let line := "'a' + ' + ' + 'b'".toList
    6 ∈ liveOccurrences source.pattern.toList line ∧
      ∃ rule, compile "team" source = .ok rule ∧ rule.findLive line = none := by
  intro source line
  obtain ⟨rule, hcompile⟩ : ∃ rule, compile "team" source = .ok rule := ⟨_, rfl⟩
  have hoccurs : Text.OccursAt source.pattern.toList line 6 :=
    ⟨"'a' + ".toList, " + 'b'".toList, by decide +kernel, by decide +kernel⟩
  refine ⟨⟨hoccurs, by decide +kernel⟩, rule, hcompile, ?_⟩
  rw [findLive_eq (needle_of_compile hcompile rfl).1]
  decide +kernel

end

end CompiledRule

end ScriptSurvey
