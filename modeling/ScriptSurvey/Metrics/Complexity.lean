import ScriptSurvey.Project

/-!
# Complexity

The cyclomatic complexity of a function is one more than the number of decisions in its body.
-/
namespace ScriptSurvey.Complexity

inductive Band where
  | low
  | moderate
  | high
  | critical
  deriving DecidableEq, Repr, Inhabited

namespace Band

def of (score : Nat) : Band :=
  if score ≤ 5 then low else if score ≤ 10 then moderate else if score ≤ 20 then high else critical

def text : Band → String
  | low => "low"
  | moderate => "moderate"
  | high => "high"
  | critical => "critical"

end Band

def cyclomatic (f : FunctionFacts) : Nat := 1 + f.flow.countP (·.isDecision)

structure Item where
  name : String
  file : Path
  line : Nat
  endLine : Nat
  score : Nat
  band : Band
  deriving DecidableEq, Repr, Inhabited

/-- Functions that are listed however simple they are. -/
def isAlwaysListed (f : FunctionFacts) : Bool :=
  match f.kind with
  | .declaration | .method => true
  | .expression => f.name.isSome
  | .arrow => false

def isListed (minScore : Nat) (f : FunctionFacts) : Bool :=
  (isAlwaysListed f || 5 < cyclomatic f) && minScore ≤ cyclomatic f

def itemOf (file : Path) (f : FunctionFacts) : Item :=
  let score := cyclomatic f
  ⟨f.displayName, file, f.line, f.endLine, score, Band.of score⟩

/-- Higher scores first, then files by path, then lines. -/
def itemLe (a b : Item) : Bool :=
  ((compare b.score a.score).then
    ((compare a.file b.file).then (compare a.line b.line))).isLE

/-- All listed functions of the sheets below `scope`, in order. -/
def items (project : Project) (scope : Path) (minScore : Nat) : List Item :=
  let sheets := (project.inScope scope).filter fun s =>
    !FileRole.isGenerated (project.relative s.path).toString
  (sheets.flatMap fun s =>
    (s.functions.filter (isListed minScore)).map (itemOf (project.relative s.path))).mergeSort
      itemLe

structure Stats where
  low : Nat
  moderate : Nat
  high : Nat
  critical : Nat
  deriving DecidableEq, Repr, Inhabited

def statsOf (items : List Item) : Stats :=
  let count (b : Band) : Nat := items.countP (·.band == b)
  ⟨count .low, count .moderate, count .high, count .critical⟩

/-- `total` and `stats` cover all items, of which the first ones are kept. -/
structure Report where
  total : Nat
  stats : Stats
  items : List Item
  deriving DecidableEq, Repr, Inhabited

def report (project : Project) (scope : Path) (minScore limit : Nat) : Report :=
  let all := items project scope minScore
  ⟨all.length, statsOf all, all.take limit⟩

end ScriptSurvey.Complexity
