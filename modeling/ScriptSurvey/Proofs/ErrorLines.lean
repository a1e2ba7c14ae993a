import ScriptSurvey.Proofs.CallReading
import ScriptSurvey.Proofs.DistinctPlaces

/-!
# Lines of syntax errors

A tree that reports an error has a broken place, and the line of the message is that of the first one.
The search goes down to children that report a defect only, which a silent leaf does not; such a leaf
is passed over, unless the search has stopped at an error node around it.
-/
namespace ScriptSurvey

namespace Syntax

/-! ## One step of the search -/

lemma Place.map_node_siblings (above : List (Node × List Node)) (before nodes : List Node) :
    (siblings above before nodes).map (·.node) = nodes := by
  induction nodes generalizing before with
  | nil => rfl
  | cons node rest ih => rw [siblings, List.map_cons, ih]

lemma Place.map_node_children (p : Place) : p.children.map (·.node) = p.node.children :=
  map_node_siblings _ _ _

namespace Node

lemma anyDefect_eq (nodes : List Node) : anyDefect nodes = nodes.any hasDefect := by
  induction nodes with
  | nil => rw [anyDefect]; rfl
  | cons node rest ih => rw [anyDefect, List.any_cons, ih]

lemma hasDefect_eq (node : Node) :
    node.hasDefect = (node.isBroken || node.children.any hasDefect) := by
  obtain ⟨label, named, missing, silent, field, text, startRow, endRow, children⟩ := node
  rw [hasDefect, anyDefect_eq]

lemma firstErrorLineAmong?_eq (nodes : List Node) : firstErrorLineAmong? nodes =
    nodes.findSome? fun node => if node.hasError then node.firstErrorLine? else none := by
  induction nodes with
  | nil => rw [firstErrorLineAmong?]; rfl
  | cons node rest ih =>
    rw [firstErrorLineAmong?, List.findSome?_cons, ih]
    cases node.hasError
    · rfl
    · cases node.firstErrorLine? <;> rfl

lemma firstErrorLine?_eq (node : Node) : node.firstErrorLine? =
    if node.isBroken then some node.line
    else node.children.findSome? fun c => if c.hasError then c.firstErrorLine? else none := by
  obtain ⟨label, named, missing, silent, field, text, startRow, endRow, children⟩ := node
  rw [firstErrorLine?, firstErrorLineAmong?_eq]

end Node

end Syntax

namespace Extraction

open Syntax (Node Place)

section

variable {p q : Place} {tree : Node}

lemma hasDefect_iff (p : Place) :
    p.node.hasDefect = true ↔ ∃ q ∈ placesIn p, q.node.isBroken = true := by
  induction p using children_induction with
  | step p ih =>
    have hchildren : p.node.children.any Node.hasDefect = true ↔
        ∃ c ∈ p.children, ∃ q ∈ placesIn c, q.node.isBroken = true := by
      rw [← p.map_node_children, List.any_map, List.any_eq_true]
      exact exists_congr fun c => and_congr_right fun hc => ih c hc
    rw [Node.hasDefect_eq, Bool.or_eq_true, hchildren, placesIn_eq]
    simp only [List.mem_cons, List.mem_flatMap]
    constructor
    · rintro (hself | ⟨c, hc, q, hq, hbroken⟩)
      · exact ⟨p, Or.inl rfl, hself⟩
      · exact ⟨q, Or.inr ⟨c, hc, hq⟩, hbroken⟩
    · rintro ⟨q, rfl | ⟨c, hc, hq⟩, hbroken⟩
      · exact Or.inl hbroken
      · exact Or.inr ⟨c, hc, q, hq, hbroken⟩

/-! ## The whole search -/

def isReported (p : Place) : Bool := (spine p).all fun q => !q.node.silent

def isFound (p : Place) : Bool := p.node.isBroken && isReported p

lemma findSome?_congr {α β : Type} {f g : α → Option β} {l : List α}
    (h : ∀ a ∈ l, f a = g a) : l.findSome? f = l.findSome? g := by
  rw [← List.head?_filterMap, ← List.head?_filterMap, List.filterMap_congr h]

lemma isReported_child {c : Place} (hc : c ∈ p.children) :
    isReported c = (!c.node.silent && isReported p) := by
  rw [isReported, spine_of_mem_children hc, List.all_cons, isReported]

lemma not_isFound_of_silent (h : p.node.silent = true) (hq : q ∈ placesIn p) :
    isFound q = false := by
  have hsilent : isReported q = false :=
    List.all_eq_false.mpr ⟨p, descends_placesIn.mem_spine hq, by simp [h]⟩
  rw [isFound, hsilent, Bool.and_false]

lemma find?_isFound_of_not_hasError (h : p.node.hasError = false) :
    (placesIn p).find? isFound = none := by
  refine List.find?_eq_none.mpr fun q hq hfound => ?_
  rw [Node.hasError, Bool.and_eq_false_iff, Bool.not_eq_false'] at h
  rcases h with hsilent | hsound
  · rw [not_isFound_of_silent hsilent hq] at hfound
    cases hfound
  · have hbroken := (Bool.and_eq_true_iff.mp hfound).1
    rw [(hasDefect_iff p).mpr ⟨q, hq, hbroken⟩] at hsound
    cases hsound

/-- By induction on the place: the search comes to the first broken place in preorder among those
that are reported. -/
lemma firstErrorLine?_eq_find? (h : isReported p = true) :
    p.node.firstErrorLine? = ((placesIn p).find? isFound).map (·.line) := by
  induction p using children_induction with
  | step p ih =>
    rw [Node.firstErrorLine?_eq, placesIn_eq, List.find?_cons]
    cases hbroken : p.node.isBroken with
    | true =>
      rw [isFound, hbroken, h]
      rfl
    | false =>
      rw [isFound, hbroken, Bool.false_and, List.find?_flatMap, List.map_findSome?,
        ← p.map_node_children, List.findSome?_map, if_neg Bool.false_ne_true]
      refine findSome?_congr fun c hc => ?_
      rw [Function.comp_apply, Function.comp_apply]
      split_ifs with herror
      · have hloud : (!c.node.silent) = true := (Bool.and_eq_true_iff.mp herror).1
        exact ih c hc (by rw [isReported_child hc, hloud, h]; rfl)
      · rw [find?_isFound_of_not_hasError (Bool.eq_false_iff.mpr herror)]
        rfl

/-! ## Silent leaves -/

/-- What is assumed of the parser: it wraps what it cannot read, so a leaf that does not report
itself stands in an error node. Its error flags are those of `hasError` on such trees. Elsewhere they
would differ: the nodes above a bare silent leaf have a defect here, and no flag there. -/
def SilentInError (tree : Node) : Prop :=
  ∀ p ∈ tree.places, p.node.silent = true → ∃ q ∈ enclosingPlaces p.above, q.node.isError = true

instance : DecidablePred SilentInError := fun tree =>
  inferInstanceAs (Decidable (∀ p ∈ tree.places, p.node.silent = true →
    ∃ q ∈ enclosingPlaces p.above, q.node.isError = true))

/-- By induction on the place: an error node comes before the silent leaves in it, so the search
misses nothing where no place around is broken. -/
lemma find?_isFound_eq (h : isReported p = true)
    (hsound : ∀ q ∈ enclosingPlaces p.above, q.node.isBroken = false)
    (hsilent : ∀ q ∈ placesIn p, q.node.silent = true →
      ∃ r ∈ enclosingPlaces q.above, r.node.isError = true) :
    (placesIn p).find? isFound = (placesIn p).find? (·.node.isBroken) := by
  induction p using children_induction with
  | step p ih =>
    rw [placesIn_eq, List.find?_cons, List.find?_cons]
    cases hbroken : p.node.isBroken with
    | true => rw [isFound, hbroken, h]; rfl
    | false =>
      rw [isFound, hbroken, Bool.false_and, List.find?_flatMap, List.find?_flatMap]
      refine findSome?_congr fun c hc => ?_
      have hinside (q : Place) (hq : q ∈ placesIn c) : q ∈ placesIn p := by
        rw [placesIn_eq]
        exact List.mem_cons_of_mem _ (List.mem_flatMap.mpr ⟨c, hc, hq⟩)
      have haround : ∀ q ∈ enclosingPlaces c.above, q.node.isBroken = false := by
        rw [enclosingPlaces_of_mem_children hc]
        exact List.forall_mem_cons.mpr ⟨hbroken, hsound⟩
      refine ih c hc ?_ haround fun q hq => hsilent q (hinside q hq)
      rw [isReported_child hc, h, Bool.and_true, Bool.not_eq_true']
      by_contra hself
      obtain ⟨r, hr, herror⟩ := hsilent c (hinside c (mem_preorder_self c))
        (by simpa using hself)
      have hr := haround r hr
      rw [Node.isBroken, herror] at hr
      cases hr

end

/-- A script whose tree reports an error is refused with the line of the first place in preorder that
is an error node or was supplied by the parser. The one assumption about the parser is
`SilentInError`: without it the search could pass over a bare silent leaf that comes first. -/
theorem parse_first_broken {language : Language} (hscript : language.isScript = true) {tree : Node}
    (herror : tree.hasError = true) (hsilent : SilentInError tree) (path : String)
    (bytes : ByteArray) :
    ∃ p, tree.places.find? (fun q => q.node.isError || q.node.missing) = some p ∧ 1 ≤ p.line ∧
      parse path language bytes (some tree) = .error (.badSyntax path p.line) ∧
      (SheetError.badSyntax path p.line).message = s!"syntax error in {path} near line {p.line}" := by
  obtain ⟨hloud, hdefect⟩ := Bool.and_eq_true_iff.mp herror
  have hreported : isReported (Place.ofRoot tree) = true := by
    simpa [isReported, spine, enclosingPlaces, Place.ofRoot] using hloud
  have hline : tree.firstErrorLine? = (tree.places.find? (·.node.isBroken)).map (·.line) := by
    rw [← show (placesIn (Place.ofRoot tree)).find? isFound = tree.places.find? (·.node.isBroken) from
      find?_isFound_eq hreported (fun q hq => absurd hq List.not_mem_nil) hsilent]
    exact firstErrorLine?_eq_find? hreported
  obtain ⟨q, hq, hbroken⟩ := (hasDefect_iff (Place.ofRoot tree)).mp hdefect
  have hsome : (tree.places.find? (·.node.isBroken)).isSome = true :=
    List.find?_isSome.mpr ⟨q, hq, hbroken⟩
  obtain ⟨p, hp⟩ := Option.isSome_iff_exists.mp hsome
  refine ⟨p, hp, Nat.le_add_left 1 _, ?_, rfl⟩
  rw [parse, hscript, herror, hline, hp]
  rfl

/-- A program whose second line has a character that the parser cannot read. -/
def unreadableTree : Node :=
  let leaf : Node := ⟨"ERROR", true, false, true, "", "\x00", 1, 1, []⟩
  let error : Node := ⟨"ERROR", true, false, false, "", "\x00", 1, 1, [leaf]⟩
  part "program" "" ";\n\x00" 0 [part "empty_statement" "" ";" 0 [sign ";" 0], error]

theorem parse_first_broken_unreadable :
    Language.isScript .javaScript = true ∧ unreadableTree.hasError = true ∧
      SilentInError unreadableTree ∧ (∃ p ∈ unreadableTree.places, p.node.silent = true) ∧
      parse "a.js" .javaScript ";\n\x00".toUTF8 (some unreadableTree) =
        .error (.badSyntax "a.js" 2) := by
  have hscript : Language.isScript .javaScript = true := rfl
  have herror : unreadableTree.hasError = true := by decide +kernel
  have hsilent : SilentInError unreadableTree := by decide +kernel
  obtain ⟨p, hp, -, hparse, -⟩ := parse_first_broken hscript herror hsilent "a.js"
    ";\n\x00".toUTF8
  have hline : (unreadableTree.places.find? fun q => q.node.isError || q.node.missing).map (·.line) =
      some 2 := by
    decide +kernel
  rw [hp] at hline
  rw [show p.line = 2 from Option.some.inj hline] at hparse
  exact ⟨hscript, herror, hsilent, by decide +kernel, hparse⟩

end Extraction

end ScriptSurvey
