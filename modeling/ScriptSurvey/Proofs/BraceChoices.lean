import Mathlib.Data.List.Forall2
import Mathlib.Data.List.Lex
import Mathlib.Order.RelClasses
import ScriptSurvey.Proofs.TextCuts
import ScriptSurvey.Rules.Braces

/-!
# Choices in braces

A glob is expanded by choosing from its first group and expanding what is left. Every choice takes a
closing brace away, so this comes to an end on any text. In a template the groups stand side by side
and their alternatives hold no braces: a choice leaves all other groups as they are, and the globs
come in the lexicographic order of the choices.
-/
namespace ScriptSurvey.Braces

/-! ## The end of the expansion -/

/-- The expansion step by step: each alternative of the first group is put in its place, and what
comes of it is expanded in turn. -/
inductive Expands : List Char → List (List Char) → Prop
  | plain {glob} (h : group? glob = none) : Expands glob [glob]
  | choose {glob head inner tail} {globs : List Char → List (List Char)}
      (h : group? glob = some (head, inner, tail))
      (each : ∀ a ∈ Text.pieces ',' inner, Expands (head ++ a ++ tail) (globs a)) :
      Expands glob ((Text.pieces ',' inner).flatMap globs)

lemma expandChars_of_plain {glob : List Char} (h : group? glob = none) :
    expandChars glob = [glob] := by
  rw [expandChars]
  split
  · rfl
  · simp_all

lemma expandChars_of_group {glob head inner tail : List Char}
    (h : group? glob = some (head, inner, tail)) : expandChars glob =
      (Text.pieces ',' inner).flatMap fun a => expandChars (head ++ a ++ tail) := by
  rw [expandChars]
  split
  · simp_all
  · rename_i heq
    obtain ⟨rfl, rfl, rfl⟩ : _ ∧ _ ∧ _ := by simpa [h] using heq
    simp

lemma expands_expandChars (glob : List Char) : Expands glob (expandChars glob) := by
  induction glob using expandChars.induct with
  | case1 glob h =>
    rw [expandChars_of_plain h]
    exact .plain h
  | case2 glob head inner tail h ih =>
    rw [expandChars_of_group h]
    exact .choose h ih

/-- Every text is expanded in finitely many steps, and in one way only. -/
lemma expands_iff {glob : List Char} {globs : List (List Char)} :
    Expands glob globs ↔ expandChars glob = globs := by
  constructor
  · intro h
    induction h with
    | plain h => exact expandChars_of_plain h
    | choose h _ ih =>
      rw [expandChars_of_group h]
      exact List.flatMap_congr ih
  · rintro rfl
    exact expands_expandChars glob

/-! ## Choices -/

/-- All ways to choose one of so many from each group, the first group first. -/
def choices : List ℕ → List (List ℕ)
  | [] => [[]]
  | n :: sizes => (List.range n).flatMap fun k => (choices sizes).map (k :: ·)

lemma mem_choices {sizes choice : List ℕ} :
    choice ∈ choices sizes ↔ List.Forall₂ (· < ·) choice sizes := by
  induction sizes generalizing choice with
  | nil => simp [choices]
  | cons n sizes ih =>
    simp only [choices, List.mem_flatMap, List.mem_range, List.mem_map, ih,
      List.forall₂_cons_right_iff]
    constructor
    · rintro ⟨k, hk, rest, hrest, rfl⟩
      exact ⟨k, rest, hk, hrest, rfl⟩
    · rintro ⟨k, rest, hk, hrest, rfl⟩
      exact ⟨k, hk, rest, hrest, rfl⟩

lemma pairwise_choices (sizes : List ℕ) : (choices sizes).Pairwise (· < ·) := by
  induction sizes with
  | nil => exact List.pairwise_singleton _ _
  | cons n sizes ih =>
    refine List.pairwise_flatMap.mpr ⟨fun k _ => ?_, ?_⟩
    · refine List.pairwise_map.mpr (ih.imp fun hlt => ?_)
      exact List.cons_lt_cons_iff.mpr (.inr ⟨rfl, hlt⟩)
    · refine List.pairwise_lt_range.imp fun hlt choice hchoice other hother => ?_
      obtain ⟨_, -, rfl⟩ := List.mem_map.mp hchoice
      obtain ⟨_, -, rfl⟩ := List.mem_map.mp hother
      exact List.cons_lt_cons_iff.mpr (.inl hlt)

/-! ## Templates -/

/-- A group of alternatives with the literal text behind it. -/
structure Group where
  alternatives : List (List Char)
  ne_nil : alternatives ≠ []
  noOpening : ∀ a ∈ alternatives, '\x7b' ∉ a
  noClosing : ∀ a ∈ alternatives, '\x7d' ∉ a
  noComma : ∀ a ∈ alternatives, ',' ∉ a
  after : List Char
  literal : '\x7b' ∉ after

/-- Literal text and groups in turn. Closing braces and commas may stand in literal text. -/
structure Template where
  before : List Char
  literal : '\x7b' ∉ before
  groups : List Group

namespace Group

def written (g : Group) : List Char :=
  '\x7b' :: ([','].intercalate g.alternatives ++ '\x7d' :: g.after)

def filled (g : Group) (k : ℕ) : List Char := (g.alternatives[k]?).getD [] ++ g.after

end Group

namespace Template

def written (t : Template) : List Char := t.before ++ t.groups.flatMap Group.written

def sizes (t : Template) : List ℕ := t.groups.map (·.alternatives.length)

def filled (t : Template) (choice : List ℕ) : List Char :=
  t.before ++ (List.zipWith Group.filled t.groups choice).flatten

end Template

section

variable {before : List Char}

lemma closing_notMem_intercalate (g : Group) : '\x7d' ∉ [','].intercalate g.alternatives := by
  have hparts := g.noClosing
  generalize g.alternatives = parts at hparts
  induction parts with
  | nil => simp
  | cons a parts ih =>
    cases parts with
    | nil => simpa using hparts
    | cons b parts =>
      rw [List.forall_mem_cons] at hparts
      rw [List.intercalate_cons_cons]
      simpa using ⟨hparts.1, ih hparts.2⟩

lemma group?_written (hbefore : '\x7b' ∉ before) (g : Group) (rest : List Char) :
    group? (before ++ (g.written ++ rest)) =
      some (before, [','].intercalate g.alternatives, g.after ++ rest) := by
  have hopen : Text.cutAt '\x7b' (before ++ (g.written ++ rest)) =
      some (before, [','].intercalate g.alternatives ++ '\x7d' :: (g.after ++ rest)) := by
    rw [Group.written]
    simpa using Text.cutAt_append hbefore
      ([','].intercalate g.alternatives ++ '\x7d' :: (g.after ++ rest))
  have hclose := Text.cutAt_append (closing_notMem_intercalate g) (g.after ++ rest)
  simp only [group?, hopen, Option.bind_some, hclose, Option.map_some]

lemma map_range_alternatives (g : Group) :
    (List.range g.alternatives.length).map (fun k => (g.alternatives[k]?).getD []) =
      g.alternatives :=
  List.ext_getElem (by simp) fun k hk hk' => by simp [List.getElem?_eq_getElem hk']

/-- By induction on the groups. A choice from the first group makes literal text of it. -/
lemma expandChars_written (groups : List Group) (hbefore : '\x7b' ∉ before) :
    expandChars (before ++ groups.flatMap Group.written) =
      (choices (groups.map (·.alternatives.length))).map fun choice =>
        before ++ (List.zipWith Group.filled groups choice).flatten := by
  induction groups generalizing before with
  | nil =>
    have hplain : group? before = none := by rw [group?, Text.cutAt_eq_none hbefore]; rfl
    simpa [choices] using expandChars_of_plain hplain
  | cons g groups ih =>
    have hnext : ∀ a ∈ g.alternatives,
        expandChars (before ++ a ++ (g.after ++ groups.flatMap Group.written)) =
          (choices (groups.map (·.alternatives.length))).map fun choice =>
            before ++ (a ++ g.after) ++ (List.zipWith Group.filled groups choice).flatten := by
      intro a ha
      have hliteral : '\x7b' ∉ before ++ (a ++ g.after) := by
        simp [hbefore, g.noOpening a ha, g.literal]
      rw [← ih hliteral]
      simp
    rw [List.flatMap_cons, expandChars_of_group (group?_written hbefore g _),
      Text.pieces_intercalate g.ne_nil g.noComma, List.flatMap_congr hnext, List.map_cons, choices,
      List.map_flatMap]
    conv_lhs => rw [← map_range_alternatives g, List.flatMap_map]
    refine List.flatMap_congr fun k _ => ?_
    rw [List.map_map]
    refine List.map_congr_left fun choice _ => ?_
    simp [Group.filled]

end

/-- The expansion ends on every text, with one list of globs. For a template it is the product of the
groups: there is one glob for each way to choose an alternative from every group, the globs come in
the lexicographic order of the choices, and all literal text stays in its place. -/
theorem expand_template :
    (∀ glob globs, Expands glob globs ↔ expandChars glob = globs) ∧
    (∀ glob, ∃ globs, Expands glob globs) ∧
    ∀ t : Template, ∃ all : List (List ℕ),
      (∀ choice, choice ∈ all ↔ List.Forall₂ (· < ·) choice t.sizes) ∧
      all.Pairwise (· < ·) ∧
      expand (String.ofList t.written) = all.map fun choice => String.ofList (t.filled choice) := by
  refine ⟨fun _ _ => expands_iff, fun glob => ⟨_, expands_expandChars glob⟩, fun t =>
    ⟨choices t.sizes, fun _ => mem_choices, pairwise_choices t.sizes, ?_⟩⟩
  rw [expand, String.toList_ofList, Template.written, expandChars_written t.groups t.literal,
    List.map_map]
  rfl

/-- A closing brace and a comma outside of groups are literal text. -/
example : expand "a\x7db,\x7bc,d\x7d\x7de\x7bf,\x7d" =
    ["a\x7db,c\x7def", "a\x7db,c\x7de", "a\x7db,d\x7def", "a\x7db,d\x7de"] := by
  cbv

end ScriptSurvey.Braces
