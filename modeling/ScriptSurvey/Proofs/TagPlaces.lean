import Mathlib.Data.Int.Notation
import Mathlib.Data.Nat.Count
import Mathlib.SetTheory.Cardinal.Finite
import ScriptSurvey.Proofs.LinePlaces
import ScriptSurvey.Proofs.TagDepth

/-!
# Places of a tag

The scan for the depth of a tag turns from bracket to bracket and ends. What it has summed up is the
number of places where the tag opens less the number of places where it closes. No such place reaches
over a line feed, so the depth is summed up line by line.
-/
namespace ScriptSurvey.Markup

section

variable {tag mark text front back rest : List Char} {c : Char} {position turns : ℕ} {depth : ℤ}

/-! ## Places -/

/-- The mark stands behind so many characters of the text. The text ends behind the mark, or a closing
bracket, a slash or a blank follows. -/
def MarkAt (mark text : List Char) (position : ℕ) : Prop :=
  ∃ front back, text = front ++ mark ++ back ∧ front.length = position ∧
    ∀ c ∈ back.head?, c = '>' ∨ c = '/' ∨ Text.isBlank c = true

lemma endsName_iff_head? :
    endsName text = true ↔ ∀ c ∈ text.head?, c = '>' ∨ c = '/' ∨ Text.isBlank c = true := by
  cases text with
  | nil => simp [endsName]
  | cons c rest => simp [endsName, or_assoc]

lemma markAt_iff : MarkAt mark text position ↔ position ≤ text.length ∧
    (mark.isPrefixOf (text.drop position) &&
      endsName ((text.drop position).drop mark.length)) = true := by
  rw [Bool.and_eq_true, List.isPrefixOf_iff_prefix]
  constructor
  · rintro ⟨front, back, rfl, rfl, hback⟩
    simpa [endsName_iff_head?] using hback
  · rintro ⟨hle, ⟨back, hback⟩, hends⟩
    refine ⟨text.take position, back, ?_, List.length_take_of_le hle, ?_⟩
    · rw [List.append_assoc, hback, List.take_append_drop]
    · rwa [← hback, List.drop_left, endsName_iff_head?] at hends

instance : DecidablePred (MarkAt mark text) := fun _ => decidable_of_iff _ markAt_iff.symm

lemma MarkAt.lt_length (h : MarkAt (c :: mark) text position) : position < text.length := by
  obtain ⟨front, back, rfl, rfl, -⟩ := h
  simp only [List.length_append, List.length_cons]
  omega

lemma card_markAt : Nat.card {position // MarkAt (c :: mark) text position} =
    Nat.count (MarkAt (c :: mark) text) text.length := by
  rw [Nat.count_eq_card_filter_range]
  refine Nat.subtype_card _ fun position => ?_
  rw [Finset.mem_filter, Finset.mem_range]
  exact ⟨And.right, fun h => ⟨h.lt_length, h⟩⟩

lemma markAt_succ : MarkAt mark (c :: text) (position + 1) ↔ MarkAt mark text position := by
  rw [markAt_iff, markAt_iff, List.drop_succ_cons, List.length_cons, Nat.add_le_add_iff_right]

lemma count_markAt_cons : Nat.count (MarkAt mark (c :: text)) (c :: text).length =
    Nat.count (MarkAt mark text) text.length + if MarkAt mark (c :: text) 0 then 1 else 0 := by
  rw [List.length_cons, Nat.count_succ']
  simp only [markAt_succ]

lemma not_markAt_zero (hc : '<' ≠ c) : ¬MarkAt ('<' :: mark) (c :: text) 0 := by
  simp [markAt_iff, hc]

lemma markAt_bracket : MarkAt ('<' :: mark) ('<' :: rest) 0 ↔
    (mark.isPrefixOf rest && endsName (rest.drop mark.length)) = true := by
  simp [markAt_iff]

/-- A bracket that opens the tag does not close it: a slash is no part of a name. -/
lemma not_markAt_closing (htag : IsName tag) (h : MarkAt ('<' :: tag) ('<' :: rest) 0) :
    ¬MarkAt ('<' :: '/' :: tag) ('<' :: rest) 0 := by
  rw [markAt_bracket, isPrefixOf_and_endsName_iff htag.isNameChar] at h
  rw [markAt_bracket, Bool.and_eq_true, List.isPrefixOf_iff_prefix]
  rintro ⟨⟨back, rfl⟩, -⟩
  exact htag.ne_nil h.symm

lemma tagChange_eq (htag : IsName tag) : (tagChange tag rest).1 =
    (if MarkAt ('<' :: tag) ('<' :: rest) 0 then 1 else 0) -
      (if MarkAt ('<' :: '/' :: tag) ('<' :: rest) 0 then 1 else 0) := by
  have hchange : (tagChange tag rest).1 = if MarkAt ('<' :: '/' :: tag) ('<' :: rest) 0 then -1
      else if MarkAt ('<' :: tag) ('<' :: rest) 0 then 1 else 0 := by
    simp only [markAt_bracket, List.length_cons]
    rw [tagChange]
    split_ifs <;> rfl
  rw [hchange]
  by_cases hopens : MarkAt ('<' :: tag) ('<' :: rest) 0
  · have hcloses := not_markAt_closing htag hopens
    rw [if_neg hcloses, if_neg hcloses, if_pos hopens, Int.sub_zero]
  · rw [if_neg hopens]
    split_ifs <;> rfl

/-- By induction on the text. Each bracket counts for what stands at its place, whether or not the
scan passes over it. -/
lemma depthFrom_eq_count (htag : IsName tag) (text : List Char) : depthFrom tag 0 text =
    (Nat.count (MarkAt ('<' :: tag) text) text.length : ℤ) -
      Nat.count (MarkAt ('<' :: '/' :: tag) text) text.length := by
  induction text with
  | nil => rfl
  | cons c rest ih =>
    rw [count_markAt_cons, count_markAt_cons]
    by_cases hc : '<' = c
    · subst hc
      rw [depthFrom_bracket htag.notMem_bracket, tagChange_eq htag, ih]
      push_cast
      omega
    · rw [depthFrom_cons hc, ih, if_neg (not_markAt_zero hc), if_neg (not_markAt_zero hc),
        Nat.add_zero, Nat.add_zero]

/-! ## Turns of the scan -/

/-- A turn of the scan goes on to the next bracket, takes its change, and passes over the name that it
counts. There is none when no bracket is left. -/
def turn? (tag text : List Char) : Option (ℤ × List Char) :=
  match text.dropWhile (· != '<') with
  | [] => none
  | _ :: rest => some ((tagChange tag rest).1, rest.drop (tagChange tag rest).2)

/-- After so many turns the scan of the text has come to its end. The changes add up to the depth. -/
inductive Scan (tag : List Char) : List Char → ℕ → ℤ → Prop
  | stop {text : List Char} : turn? tag text = none → Scan tag text 0 0
  | turn {text rest : List Char} {change depth : ℤ} {turns : ℕ} :
      turn? tag text = some (change, rest) → Scan tag rest turns depth →
      Scan tag text (turns + 1) (change + depth)

lemma turn?_append (h : '<' ∉ front) : turn? tag (front ++ back) = turn? tag back := by
  have hdrop : (front ++ back).dropWhile (· != '<') = back.dropWhile (· != '<') :=
    List.dropWhile_append_of_pos fun c hc => bne_iff_ne.mpr fun heq => h (heq ▸ hc)
  rw [turn?, hdrop, turn?]

lemma Scan.congr (hturn : turn? tag front = turn? tag back) (h : Scan tag front turns depth) :
    Scan tag back turns depth := by
  cases h with
  | stop hstop => exact .stop (hturn ▸ hstop)
  | turn hnext hscan => exact .turn (hturn ▸ hnext) hscan

/-- By induction on the text. What a turn passes over has no bracket, so that the scan goes on as from
right behind the bracket. -/
lemma scan_depthFrom (htag : '<' ∉ tag) (text : List Char) :
    Scan tag text (text.count '<') (depthFrom tag 0 text) := by
  induction text with
  | nil => exact .stop rfl
  | cons c rest ih =>
    by_cases hc : '<' = c
    · subst hc
      rw [depthFrom_bracket htag, List.count_cons_self]
      refine .turn rfl (ih.congr ?_)
      conv_lhs => rw [← List.take_append_drop (tagChange tag rest).2 rest]
      exact turn?_append (notMem_take_tagChange htag)
    · rw [depthFrom_cons hc, List.count_cons_of_ne (Ne.symm hc)]
      have hplain : '<' ∉ [c] := by simpa using hc
      exact ih.congr (turn?_append hplain).symm

/-! ## Cuts at blanks -/

lemma isNameChar_blank (hc : Text.isBlank c = true) : isNameChar c = false := by
  simp [isNameChar, endsName, hc]

lemma ne_of_isBlank (hc : Text.isBlank c = true) : '<' ≠ c ∧ '/' ≠ c := by
  have hbracket : Text.isBlank '<' = false := by decide +kernel
  have hslash : Text.isBlank '/' = false := by decide +kernel
  exact ⟨ne_of_apply_ne Text.isBlank (by simp [hc, hbracket]),
    ne_of_apply_ne Text.isBlank (by simp [hc, hslash])⟩

lemma nameOf_append_cons (hc : Text.isBlank c = true) : nameOf (front ++ c :: back) = nameOf front := by
  rw [nameOf, nameOf]
  induction front with
  | nil => simp [isNameChar_blank hc]
  | cons d front ih => cases hd : isNameChar d <;> simp [hd, ih]

/-- What stands behind a blank does not matter in front of it. -/
lemma tagChange_append_cons (htag : IsName tag) (hc : Text.isBlank c = true) :
    (tagChange tag (front ++ c :: back)).1 = (tagChange tag front).1 := by
  by_cases hslash : front.head? = some '/'
  · obtain ⟨front, rfl⟩ : ∃ rest, front = '/' :: rest := List.head?_eq_some_iff.mp hslash
    rw [List.cons_append, tagChange_slash htag, tagChange_slash htag, nameOf_append_cons hc]
  · have hhead : (front ++ c :: back).head? ≠ some '/' := by
      cases front with
      | nil => simpa using (ne_of_isBlank hc).2.symm
      | cons d front => exact hslash
    rw [tagChange_of_not_slash htag hslash, tagChange_of_not_slash htag hhead, nameOf_append_cons hc]

/-- By induction on what stands in front of the blank. -/
lemma depthFrom_append_cons (htag : IsName tag) (hc : Text.isBlank c = true) (front back : List Char) :
    depthFrom tag 0 (front ++ c :: back) = depthFrom tag 0 front + depthFrom tag 0 back := by
  induction front with
  | nil => rw [List.nil_append, depthFrom_cons (ne_of_isBlank hc).1, depthFrom, Int.zero_add]
  | cons d front ih =>
    rw [List.cons_append]
    by_cases hd : '<' = d
    · subst hd
      rw [depthFrom_bracket htag.notMem_bracket, depthFrom_bracket htag.notMem_bracket,
        tagChange_append_cons htag hc, ih, Int.add_assoc]
    · rw [depthFrom_cons hd, depthFrom_cons hd, ih]

lemma depthFrom_concat (htag : IsName tag) (hc : Text.isBlank c = true) (front : List Char) :
    depthFrom tag 0 (front ++ [c]) = depthFrom tag 0 front := by
  rw [depthFrom_append_cons htag hc, depthFrom, Int.add_zero]

lemma isBlank_feed : Text.isBlank '\n' = true := by decide +kernel

lemma isBlank_return : Text.isBlank '\r' = true := by decide +kernel

lemma depthFrom_append_of_feed (htag : IsName tag) (hfront : front = [] ∨ front.getLast? = some '\n')
    (back : List Char) :
    depthFrom tag 0 (front ++ back) = depthFrom tag 0 front + depthFrom tag 0 back := by
  rcases hfront with rfl | hfeed
  · rw [List.nil_append, depthFrom, Int.zero_add]
  · obtain ⟨front, rfl⟩ := List.getLast?_eq_some_iff.mp hfeed
    rw [List.append_assoc, List.singleton_append, depthFrom_append_cons htag isBlank_feed,
      depthFrom_concat htag isBlank_feed]

/-! ## Lines -/

/-- The ending of a line holds nothing but blanks. -/
lemma depthFrom_append_dropEnding (htag : IsName tag) (front line : List Char) :
    depthFrom tag 0 (front ++ Text.dropEnding line) = depthFrom tag 0 (front ++ line) := by
  have hlast (line : List Char) {c : Char} (hc : Text.isBlank c = true)
      (hline : line.getLast? = some c) :
      depthFrom tag 0 (front ++ line.dropLast) = depthFrom tag 0 (front ++ line) := by
    obtain ⟨content, rfl⟩ := List.getLast?_eq_some_iff.mp hline
    rw [List.dropLast_concat, ← List.append_assoc, depthFrom_concat htag hc]
  rw [Text.dropEnding, Text.dropReturn]
  split_ifs with hfeed hreturn
  · rw [hlast _ isBlank_return hreturn, hlast _ isBlank_feed hfeed]
  · rw [hlast _ isBlank_feed hfeed]
  · rfl

/-- By induction on the number of lines. A line that is not the last one ends in a line feed. -/
lemma depthFrom_flatten_take (htag : IsName tag) (count : ℕ) (text : List Char) :
    depthFrom tag 0 ((Text.endedLines text).take count).flatten =
      (((Text.endedLines text).take count).map (depthFrom tag 0)).sum := by
  induction count generalizing text with
  | zero => rfl
  | succ count ih =>
    by_cases htext : text = []
    · subst htext
      rfl
    · obtain ⟨content, ending, rest, -, -, hending, hlines⟩ := Text.exists_first_line htext
      rw [hlines, List.take_succ_cons, List.flatten_cons, List.map_cons, List.sum_cons, ← ih rest]
      cases hending with
      | returnFeed => exact depthFrom_append_of_feed htag (.inr (by simp)) _
      | feed => exact depthFrom_append_of_feed htag (.inr (by simp)) _
      | textEnd hrest =>
        subst hrest
        simp [Text.endedLines, depthFrom]

lemma depthFrom_through (htag : IsName tag) {number : ℕ} {content through : List Char}
    (h : Text.IsLine text number content through) :
    depthFrom tag 0 through = (((Text.lines text).take number).map (depthFrom tag 0)).sum := by
  obtain ⟨line, hline, rfl⟩ : ∃ line, (Text.endedLines text)[number - 1]? = some line ∧
      Text.dropEnding line = content := by
    simpa [Text.lines] using h.content_eq
  have hnumber : number - 1 + 1 = number := Nat.sub_add_cancel h.positive
  have htake : (Text.endedLines text).take number =
      (Text.endedLines text).take (number - 1) ++ [line] := by
    conv_lhs => rw [← hnumber, List.take_add_one, hline]
    rfl
  have hlines : ((Text.lines text).take number).map (depthFrom tag 0) =
      ((Text.endedLines text).take number).map (depthFrom tag 0) := by
    rw [Text.lines, ← List.map_take, List.map_map]
    exact List.map_congr_left fun line _ => depthFrom_append_dropEnding htag [] line
  rw [h.through_eq, depthFrom_append_dropEnding htag, hlines, ← depthFrom_flatten_take htag, htake,
    List.flatten_append, List.flatten_singleton]

end

/-- The depth of a tag in a text is the number of places where the tag opens less the number of places
where it closes. The scan for it ends after as many turns as the text has brackets. Cut behind a line
feed, the depth of a text is the sum of the depths of both parts. So the depth through a line of a text
is the sum over the lines up to this one, each by itself. -/
theorem tagDepth_places (tag : String) (htag : IsName tag.toList) :
    (∀ text, tagDepth text tag =
      (Nat.card {position // MarkAt ('<' :: tag.toList) text position} : ℤ) -
        Nat.card {position // MarkAt ('<' :: '/' :: tag.toList) text position}) ∧
    (∀ text, Scan tag.toList text (text.count '<') (tagDepth text tag)) ∧
    (∀ front back, front = [] ∨ front.getLast? = some '\n' →
      tagDepth (front ++ back) tag = tagDepth front tag + tagDepth back tag) ∧
    ∀ text : String, ∀ line ∈ Text.placedLines text, tagDepth line.through tag =
      (((Text.lines text.toList).take line.number).map (tagDepth · tag)).sum := by
  refine ⟨fun text => ?_, scan_depthFrom htag.notMem_bracket, fun front back hfront => ?_,
    fun text line hline => ?_⟩
  · rw [card_markAt, card_markAt]
    exact depthFrom_eq_count htag text
  · exact depthFrom_append_of_feed htag hfront back
  · exact depthFrom_through htag (Text.isLine_of_mem hline)

/-- The tag opens at the end of the first line, and the third line closes it. -/
theorem tagDepth_places_lines :
    let text := "<template\n  <templates/>\r\n</template>\n<template>"
    let front := "<template\n  <templates/>\r\n".toList
    let back := "</template>\n<template>".toList
    IsName "template".toList ∧ front.getLast? = some '\n' ∧
      tagDepth (front ++ back) "template" = tagDepth front "template" + tagDepth back "template" ∧
      Scan "template".toList text.toList 4 1 ∧
      ∃ line ∈ Text.placedLines text, line.number = 3 ∧ tagDepth line.through "template" = 0 := by
  intro text front back
  have htag : IsName "template".toList := by decide +kernel
  have hfeed : front.getLast? = some '\n' := by decide
  obtain ⟨-, hscan, hcut, hlines⟩ := tagDepth_places "template" htag
  have hthird : Text.IsLine text.toList 3 "</template>".toList
      "<template\n  <templates/>\r\n</template>".toList := ⟨by decide, by decide, by decide⟩
  obtain ⟨line, hline, hnumber, -⟩ := Text.exists_mem_placedLines hthird
  have hbrackets : text.toList.count '<' = 4 := by decide
  have hdepth : tagDepth text.toList "template" = 1 := by decide +kernel
  have hturns := hscan text.toList
  rw [hbrackets, hdepth] at hturns
  refine ⟨htag, hfeed, hcut front back (.inr hfeed), hturns, line, hline, hnumber, ?_⟩
  rw [hlines text line hline, hnumber]
  decide +kernel

end ScriptSurvey.Markup
