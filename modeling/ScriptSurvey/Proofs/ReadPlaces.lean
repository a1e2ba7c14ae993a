import Mathlib.Tactic.Common
import ScriptSurvey.Extraction.Harvest

/-!
# The places that are read

Extraction does not read a whole tree. Of a function it reads the parameters and the body, of a
class with a name the body, of a field in such a class and of a variable the value; everything else
is read in full. `readChildren` says so of one place, and `Reads` follows it down the tree.
-/
namespace ScriptSurvey.Extraction

open Syntax (Node Place Kind)

/-- A variable of one name gives it to the function or class that is its value. -/
def namesValue (p : Place) : Bool :=
  p.kind == .variableDeclarator && (p.node.field? "name").any (·.label == "identifier")

def isBound (p : Place) : Bool := p.parent?.any namesValue

/-- A class that is declared: it has a name, or takes that of a variable or of the default
export. -/
def isNamedClass (p : Place) : Bool :=
  p.kind == .classDeclaration &&
    ((p.node.field? "name").isSome || isBound p || isExportChild p)

def enclosingPlaces : List (Node × List Node) → List Place
  | [] => []
  | (node, before) :: rest => ⟨node, before, rest⟩ :: enclosingPlaces rest

def inNamedClass (p : Place) : Bool := (enclosingPlaces p.above).any isNamedClass

def functionParts (p : Place) : List Place :=
  ((p.field? "parameters").or (p.field? "parameter")).toList ++ (p.field? "body").toList

def readChildren (p : Place) : List Place :=
  match p.kind with
  | .functionDeclaration | .functionExpression | .arrowFunction | .methodDefinition =>
    functionParts p
  | .classDeclaration => if isNamedClass p then (p.field? "body").toList else p.children
  | .fieldDefinition => if inNamedClass p then (p.field? "value").toList else p.children
  | .variableDeclarator =>
    if (p.node.field? "name").isSome then (p.field? "value").toList else p.children
  | _ => p.children

inductive Reads : Place → Place → Prop where
  | here (p : Place) : Reads p p
  | inside {p r q : Place} (child : r ∈ readChildren p) (rest : Reads r q) : Reads p q

/-! ## Children -/

lemma above_of_mem_siblings {above : List (Node × List Node)} {before nodes : List Node}
    {p : Place} (h : p ∈ Place.siblings above before nodes) : p.above = above := by
  induction nodes generalizing before with
  | nil => simp [Place.siblings] at h
  | cons node rest ih =>
    simp only [Place.siblings, List.mem_cons] at h
    rcases h with rfl | h
    · rfl
    · exact ih h

section

variable {p q r : Place}

lemma above_of_mem_children (h : r ∈ p.children) : r.above = (p.node, p.before) :: p.above :=
  above_of_mem_siblings h

lemma parent?_of_mem_children (h : r ∈ p.children) : r.parent? = some p := by
  rw [Place.parent?, above_of_mem_children h]

lemma inNamedClass_of_mem_children (h : r ∈ p.children) :
    inNamedClass r = (isNamedClass p || inNamedClass p) := by
  rw [inNamedClass, above_of_mem_children h]
  rfl

lemma isBound_of_mem_children (h : r ∈ p.children) : isBound r = namesValue p := by
  rw [isBound, parent?_of_mem_children h]
  rfl

lemma mem_children_of_field? {name : String} (h : p.field? name = some r) : r ∈ p.children :=
  List.mem_of_find?_eq_some h

lemma mem_children_of_mem_functionParts (h : r ∈ functionParts p) : r ∈ p.children := by
  simp only [functionParts, List.mem_append, Option.mem_toList, Option.or_eq_some_iff] at h
  rcases h with (h | ⟨-, h⟩) | h <;> exact mem_children_of_field? h

lemma mem_children_of_mem_readChildren (h : r ∈ readChildren p) : r ∈ p.children := by
  have hfield {name : String} (h : r ∈ (p.field? name).toList) : r ∈ p.children :=
    mem_children_of_field? (Option.mem_toList.mp h)
  unfold readChildren at h
  split at h
  case h_5 | h_6 | h_7 =>
    split_ifs at h
    · exact hfield h
    · exact h
  case h_8 => exact h
  all_goals exact mem_children_of_mem_functionParts h

lemma readChildren_of_isFunction (h : p.kind.isFunction = true) :
    readChildren p = functionParts p := by
  unfold readChildren
  cases hk : p.kind <;> simp_all [Kind.isFunction]

/-! ## Reading stays inside the tree -/

lemma mem_preorder_self (p : Place) : p ∈ Place.preorder p.above p.before p.node := by
  obtain ⟨node, before, above⟩ := p
  cases node
  simp [Place.preorder]

lemma mem_preorderAmong {above : List (Node × List Node)} {before nodes : List Node}
    (hr : r ∈ Place.siblings above before nodes)
    (hq : q ∈ Place.preorder r.above r.before r.node) :
    q ∈ Place.preorderAmong above before nodes := by
  induction nodes generalizing before with
  | nil => simp [Place.siblings] at hr
  | cons node rest ih =>
    simp only [Place.siblings, List.mem_cons] at hr
    rw [Place.preorderAmong, List.mem_append]
    rcases hr with rfl | hr
    · exact Or.inl hq
    · exact Or.inr (ih hr)

lemma mem_preorder_of_mem_children (hr : r ∈ p.children)
    (hq : q ∈ Place.preorder r.above r.before r.node) :
    q ∈ Place.preorder p.above p.before p.node := by
  have hamong := mem_preorderAmong hr hq
  obtain ⟨node, before, above⟩ := p
  cases node
  rw [Place.preorder, List.mem_cons]
  exact Or.inr hamong

lemma Reads.mem_preorder (h : Reads p q) : q ∈ Place.preorder p.above p.before p.node := by
  induction h with
  | here p => exact mem_preorder_self p
  | inside child _ ih =>
    exact mem_preorder_of_mem_children (mem_children_of_mem_readChildren child) ih

end

lemma Reads.mem_places {tree : Node} {q : Place} (h : Reads (Place.ofRoot tree) q) :
    q ∈ tree.places := h.mem_preorder

end ScriptSurvey.Extraction
