import ScriptSurvey.Syntax.Node

/-!
# Places in a syntax tree

A place is a node together with what surrounds it: the siblings before it and the nodes above it.
Moving to a child goes to a smaller node (`sizeOf_children`).
-/
namespace ScriptSurvey.Syntax

/-- `before` holds the siblings in front of the node, the nearest first; `above` the enclosing
nodes, the innermost first, each with the siblings in front of it. -/
structure Place where
  node : Node
  before : List Node
  above : List (Node × List Node)
  deriving Repr, Inhabited

namespace Place

def ofRoot (node : Node) : Place := ⟨node, [], []⟩

def kind (p : Place) : Kind := p.node.kind

def text (p : Place) : String := p.node.text

def line (p : Place) : Nat := p.node.line

def parent? (p : Place) : Option Place :=
  match p.above with
  | (node, before) :: rest => some ⟨node, before, rest⟩
  | [] => none

def parentKind? (p : Place) : Option Kind := p.parent?.map kind

/-- The places of siblings, given those already passed. -/
def siblings (above : List (Node × List Node)) (before : List Node) : List Node → List Place
  | [] => []
  | node :: rest => ⟨node, before, above⟩ :: siblings above (node :: before) rest

def children (p : Place) : List Place :=
  siblings ((p.node, p.before) :: p.above) [] p.node.children

def field? (p : Place) (name : String) : Option Place :=
  p.children.find? (·.node.field == name)

theorem node_mem_of_mem_siblings {above : List (Node × List Node)} {nodes before : List Node}
    {p : Place} (h : p ∈ siblings above before nodes) : p.node ∈ nodes := by
  induction nodes generalizing before with
  | nil => simp [siblings] at h
  | cons node rest ih =>
    simp only [siblings, List.mem_cons] at h
    rcases h with rfl | h
    · simp
    · exact List.mem_cons_of_mem _ (ih h)

theorem sizeOf_children {p child : Place} (h : child ∈ p.children) :
    sizeOf child.node < sizeOf p.node :=
  Node.sizeOf_lt_of_mem (node_mem_of_mem_siblings h)

theorem sizeOf_field? {p child : Place} {name : String} (h : p.field? name = some child) :
    sizeOf child.node < sizeOf p.node := sizeOf_children (List.mem_of_find?_eq_some h)

mutual

/-- All places of a tree in preorder. -/
def preorder (above : List (Node × List Node)) (before : List Node) : Node → List Place
  | node@⟨_, _, _, _, _, _, _, _, children⟩ =>
    ⟨node, before, above⟩ :: preorderAmong ((node, before) :: above) [] children

def preorderAmong (above : List (Node × List Node)) (before : List Node) :
    List Node → List Place
  | [] => []
  | node :: rest => preorder above before node ++ preorderAmong above (node :: before) rest

end

end Place

/-- All places of the tree in preorder. -/
def Node.places (tree : Node) : List Place := Place.preorder [] [] tree

end ScriptSurvey.Syntax
