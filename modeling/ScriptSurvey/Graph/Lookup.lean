import ScriptSurvey.Graph.Build
import ScriptSurvey.Suggestion
import ScriptSurvey.Text.WordTable

/-!
# Looking up symbols

A symbol is asked for by code, by name, or as a member of an owner.
-/
namespace ScriptSurvey.SymbolGraph

/-- A symbol with its direct neighbours; `node` is the owner when a member was asked for. -/
structure SymbolContext where
  address : String
  name : String
  node : GraphNode
  callers : List String
  callees : List String
  deriving DecidableEq, Repr, Inhabited

structure UnknownSymbol where
  query : String
  suggestions : List String
  deriving DecidableEq, Repr, Inhabited

namespace UnknownSymbol

def message (e : UnknownSymbol) : String :=
  s!"Symbol '{e.query}' not found." ++
    if e.suggestions.isEmpty then ""
    else " Did you mean: " ++ ", ".intercalate e.suggestions ++ "?"

end UnknownSymbol

/-- What a query addresses, before its neighbours are added. -/
structure Resolved where
  address : String
  name : String
  node : GraphNode
  deriving DecidableEq, Repr, Inhabited

def resolveNode? (graph : SymbolGraph) (query : String) : Option Resolved :=
  (graph.legend.resolve? query).bind fun code =>
    (graph.node? code).map fun node => ⟨code, node.name, node⟩

def resolveMember? (graph : SymbolGraph) (owner member : String) : Option Resolved :=
  (graph.legend.resolve? owner).bind fun ownerCode =>
    (graph.node? ownerCode).bind fun node =>
      (graph.legend.resolve? member).bind fun memberCode =>
        if node.methods.contains memberCode then
          (graph.legend.nameOf? memberCode).map fun memberName =>
            ⟨ownerCode ++ "." ++ memberCode, node.name ++ "." ++ memberName, node⟩
        else none

/-- A method without owner: that of the first class, by code, that has it. -/
def resolveMethod? (graph : SymbolGraph) (query : String) : Option Resolved :=
  (graph.legend.resolve? query).bind fun memberCode =>
    (graph.nodes.find? (·.methods.contains memberCode)).bind fun owner =>
      resolveMember? graph owner.code memberCode

def resolve? (graph : SymbolGraph) (query : String) : Option Resolved :=
  match Text.splitOnce query '.' with
  | some (owner, member) => resolveMember? graph owner member
  | none => (resolveNode? graph query).or (resolveMethod? graph query)

def lookup (graph : SymbolGraph) (query : String) : Except UnknownSymbol SymbolContext :=
  let query := String.ofList (Text.strip Text.isBlank query.toList)
  match resolve? graph query with
  | some r =>
    .ok ⟨r.address, r.name, r.node, graph.neighbours .incoming r.address,
      graph.neighbours .outgoing r.address⟩
  | none => .error ⟨query, Suggestion.closest graph.legend.names query⟩

end ScriptSurvey.SymbolGraph
