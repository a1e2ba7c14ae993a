import ScriptSurvey.Survey

/-!
# Graph cache

The cache keeps the graph that was built last, together with the directory it was built for.
-/
namespace ScriptSurvey

structure GraphCache where
  slot : Option (Path × SymbolGraph)
  deriving DecidableEq, Repr, Inhabited

namespace GraphCache

def empty : GraphCache := ⟨none⟩

def cachedRoot? (cache : GraphCache) : Option Path := cache.slot.map (·.1)

def get? (cache : GraphCache) (root : Path) : Option SymbolGraph :=
  (cache.slot.filter (·.1 == root)).map (·.2)

def insert (_ : GraphCache) (root : Path) (graph : SymbolGraph) : GraphCache :=
  ⟨some (root, graph)⟩

/-- The graph for `root`, and the cache that holds it. -/
def getOrBuild (cache : GraphCache) (files : FileSystem) (config : Config) (root : Path) :
    Except Survey.Error (SymbolGraph × GraphCache) :=
  match cache.get? root with
  | some graph => .ok (graph, cache)
  | none => (Survey.graph files config root).map fun graph => (graph, cache.insert root graph)

/-- Whether the cache holds a graph for `root`, or any graph when no root is given. -/
def holds (cache : GraphCache) (root : Option Path) : Bool :=
  match cache.slot with
  | none => false
  | some (cached, _) => (root.map (· == cached)).getD true

/-- Drops the graph for `root`, or any graph; says whether there was one. -/
def invalidate (cache : GraphCache) (root : Option Path) : Bool × GraphCache :=
  if cache.holds root then (true, empty) else (false, cache)

end GraphCache

end ScriptSurvey
