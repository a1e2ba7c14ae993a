import ScriptSurvey.Graph.Calls
import ScriptSurvey.Legend
import ScriptSurvey.Project
import ScriptSurvey.Text.Sorted

/-!
# Symbol graphs

The nodes of a symbol graph are the functions and classes of a project under their codes; its
edges are the calls between them. A member is addressed by the codes of its owner and itself.
-/
namespace ScriptSurvey

inductive NodeKind where
  | classNode
  | functionNode
  deriving DecidableEq, Repr, Inhabited

/-- The parent is a code when it names a node. -/
structure GraphNode where
  code : String
  name : String
  kind : NodeKind
  file : Path
  line : Nat
  exported : Bool
  methods : List String
  properties : List String
  parent : Option String
  deriving DecidableEq, Repr, Inhabited

/-- A class that declares a method which other classes declare too. -/
structure DuplicateSite where
  owner : String
  file : Path
  line : Nat
  deriving DecidableEq, Repr, Inhabited

/-- Nodes are sorted by code and duplicates by method name. -/
structure SymbolGraph where
  legend : Legend
  nodes : List GraphNode
  edges : List CallEdge
  orphans : List String
  duplicates : List (String × List DuplicateSite)
  deriving DecidableEq, Repr, Inhabited

namespace SymbolGraph

def node? (graph : SymbolGraph) (code : String) : Option GraphNode :=
  graph.nodes.find? (·.code == code)

/-- The addresses that a call joins to `address`, in order. -/
def neighbours (graph : SymbolGraph) (direction : CallGraph.Direction) (address : String) :
    List String :=
  Text.sortedDistinct ((CallGraph.ofEdges graph.edges).neighbours direction address)

end SymbolGraph

end ScriptSurvey
