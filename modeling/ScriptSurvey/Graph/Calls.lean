/-!
# Call graphs

A call graph numbers the addresses that edges join, in the order in which they come up, and keeps
one arc between numbers for each edge. Neighbours are found along the arcs.
-/
namespace ScriptSurvey

structure CallEdge where
  source : String
  target : String
  line : Nat
  deriving DecidableEq, Repr, Inhabited

structure CallArc where
  source : Nat
  target : Nat
  line : Nat
  deriving DecidableEq, Repr, Inhabited

/-- Addresses in the order of their numbers, and the table of these numbers. -/
structure CallGraph where
  addresses : List String
  numbers : List (String × Nat)
  arcs : List CallArc
  deriving DecidableEq, Repr, Inhabited

namespace CallGraph

/-- Against the calls or along with them. -/
inductive Direction where
  | incoming
  | outgoing
  deriving DecidableEq, Repr, Inhabited

namespace Direction

/-- The end that a step in this direction leaves. -/
def near {α : Type} (direction : Direction) (source target : α) : α :=
  match direction with
  | .incoming => target
  | .outgoing => source

/-- The end that a step in this direction comes to. -/
def far {α : Type} (direction : Direction) (source target : α) : α :=
  match direction with
  | .incoming => source
  | .outgoing => target

end Direction

def empty : CallGraph := ⟨[], [], []⟩

/-- The number of an address; one that is new gets the next number. -/
def intern (graph : CallGraph) (address : String) : Nat × CallGraph :=
  match graph.numbers.lookup address with
  | some i => (i, graph)
  | none =>
    let next := graph.addresses.length
    (next, { graph with
      addresses := graph.addresses ++ [address], numbers := (address, next) :: graph.numbers })

def addEdge (graph : CallGraph) (edge : CallEdge) : CallGraph :=
  let (source, graph) := graph.intern edge.source
  let (target, graph) := graph.intern edge.target
  { graph with arcs := graph.arcs ++ [⟨source, target, edge.line⟩] }

def ofEdges (edges : List CallEdge) : CallGraph := edges.foldl addEdge empty

/-- The numbers one step away, one for each arc. -/
def adjacent (graph : CallGraph) (direction : Direction) (i : Nat) : List Nat :=
  (graph.arcs.filter fun a => direction.near a.source a.target == i).map fun a =>
    direction.far a.source a.target

/-- The addresses one step away, one for each arc; none when no edge has the address. -/
def neighbours (graph : CallGraph) (direction : Direction) (address : String) : List String :=
  match graph.numbers.lookup address with
  | some i => (graph.adjacent direction i).filterMap (graph.addresses[·]?)
  | none => []

/-- No arc leads to the address. -/
def isUncalled (graph : CallGraph) (address : String) : Bool :=
  match graph.numbers.lookup address with
  | some i => (graph.adjacent .incoming i).isEmpty
  | none => true

end CallGraph

end ScriptSurvey
