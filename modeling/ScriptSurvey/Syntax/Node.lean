import ScriptSurvey.Syntax.Kind

/-!
# Syntax trees

A node carries its grammar label, its role in the parent, the text it covers and the rows of its
ends. `hasError` tells whether a tree is broken somewhere.
-/
namespace ScriptSurvey.Syntax

/-- Rows count from zero. An anonymous node is a token such as a keyword; a missing node was
supplied by the parser; a silent node is an error leaf that does not report itself. -/
structure Node where
  label : String
  named : Bool
  missing : Bool
  silent : Bool
  field : String
  text : String
  startRow : Nat
  endRow : Nat
  children : List Node
  deriving Repr, Inhabited

namespace Node

/-- Tokens share their spelling with named kinds, so they have no kind of their own. -/
def kind (node : Node) : Kind := if node.named then Kind.ofLabel node.label else .other

/-- The one-based line where the node starts. -/
def line (node : Node) : Nat := node.startRow + 1

def isError (node : Node) : Bool := node.label == "ERROR"

/-- The node itself is a place where the text does not fit the grammar. -/
def isBroken (node : Node) : Bool := node.isError || node.missing

def field? (node : Node) (name : String) : Option Node :=
  node.children.find? (·.field == name)

def namedChildren (node : Node) : List Node := node.children.filter (·.named)

def childLabelled? (node : Node) (label : String) : Option Node :=
  node.children.find? (·.label == label)

def hasToken (node : Node) (token : String) : Bool :=
  node.children.any fun c => !c.named && c.label == token

theorem sizeOf_lt_of_mem {node child : Node} (h : child ∈ node.children) :
    sizeOf child < sizeOf node := by
  cases node
  have := List.sizeOf_lt_of_mem h
  simp only [Node.mk.sizeOf_spec] at *
  omega

theorem mem_of_field? {node child : Node} {name : String} (h : node.field? name = some child) :
    child ∈ node.children := List.mem_of_find?_eq_some h

theorem sizeOf_field? {node child : Node} {name : String} (h : node.field? name = some child) :
    sizeOf child < sizeOf node := sizeOf_lt_of_mem (mem_of_field? h)

mutual

/-- Some node of the tree is broken. -/
def hasDefect : Node → Bool
  | node@⟨_, _, _, _, _, _, _, _, children⟩ => node.isBroken || anyDefect children

/-- Some node of the trees is broken. -/
def anyDefect : List Node → Bool
  | [] => false
  | node :: rest => hasDefect node || anyDefect rest

end

/-- The tree reports a defect. A silent leaf does not, though the nodes above it do. A parser flags
the nodes above for the error node that it wraps around such a leaf; the two agree on its trees. -/
def hasError (node : Node) : Bool := !node.silent && node.hasDefect

mutual

/-- The line of the first broken node, searched depth first through the children that report a
defect. -/
def firstErrorLine? : Node → Option Nat
  | node@⟨_, _, _, _, _, _, _, _, children⟩ =>
    if node.isBroken then some node.line else firstErrorLineAmong? children

def firstErrorLineAmong? : List Node → Option Nat
  | [] => none
  | node :: rest =>
    if node.hasError then (firstErrorLine? node).or (firstErrorLineAmong? rest)
    else firstErrorLineAmong? rest

end

end Node

end ScriptSurvey.Syntax
