import ScriptSurvey.Decimal.Binary64
import ScriptSurvey.Graph.Lookup
import ScriptSurvey.Health.Score
import ScriptSurvey.Liveness
import ScriptSurvey.Metrics.Complexity
import ScriptSurvey.Metrics.Documentation
import ScriptSurvey.Metrics.FileSize
import ScriptSurvey.Metrics.Similarity
import ScriptSurvey.Rules.Store
import ScriptSurvey.Rules.Violation

/-!
# Compact reports

Short texts for the results of the analyses. No report ends with a line feed.
-/
namespace ScriptSurvey.Report

/-- A file with a line. -/
def place (file : Path) (line : Nat) : String := s!"{file}:{line}"

def bracketed (mark : String) (items : List String) : String :=
  if items.isEmpty then "" else s!" {mark}[" ++ ",".intercalate items ++ "]"

def listOrDash (items : List String) : String :=
  if items.isEmpty then "-" else ",".intercalate items

def lines (first : String) (rest : List String) : String := "\n".intercalate (first :: rest)

def nodeLine (n : GraphNode) : String :=
  let mark := match n.kind with
    | .classNode => "c"
    | .functionNode => "f"
  s!"{n.code} {mark} {place n.file n.line}" ++ (if n.exported then " exp" else "")
    ++ ((n.parent.map (" ^" ++ ·)).getD "") ++ bracketed "m" n.methods
    ++ bracketed "p" n.properties

/-- The graph with at most `maxEdges` of its edges. -/
def graph (g : SymbolGraph) (maxEdges : Option Nat) : String :=
  let shown := g.edges.take (maxEdges.getD g.edges.length)
  let omitted := g.edges.length - shown.length
  lines ("legend " ++ " ".intercalate (g.legend.entries.map fun e => e.code ++ "=" ++ e.name))
    (g.nodes.map nodeLine
      ++ ["edges " ++ " ".intercalate (shown.map fun e => e.source ++ ">" ++ e.target)]
      ++ (if omitted = 0 then [] else [s!"edges omitted {omitted}"])
      ++ (if g.orphans.isEmpty then [] else ["orphans " ++ ",".intercalate g.orphans])
      ++ (g.duplicates.map fun (name, sites) => s!"dup {name} " ++
            " ".intercalate (sites.map fun s => s!"{s.owner}@{place s.file s.line}"))
      ++ [s!"{g.nodes.length} nodes, {g.edges.length} edges"])

def lookup (c : SymbolGraph.SymbolContext) : String :=
  let isMember := c.address.toList.contains '.'
  let members (mark : String) (items : List String) : List String :=
    if items.isEmpty || isMember then [] else [mark ++ " " ++ ",".intercalate items]
  lines (s!"{c.address} {c.name} {place c.node.file c.node.line}"
      ++ (if c.node.exported then " exp" else ""))
    ((c.node.parent.map ("extends " ++ ·)).toList ++ members "methods" c.node.methods
      ++ members "props" c.node.properties
      ++ ["callers " ++ listOrDash c.callers, "callees " ++ listOrDash c.callees])

def deadKind : Liveness.DeadKind → String
  | .function => "function"
  | .classDef => "class"
  | .method => "method"
  | .exportName => "export"
  | .localName => "variable"

def liveness (r : Liveness.Report) : String :=
  let counts := r.byKind.map fun (kind, n) => s!"{deadKind kind}={n}"
  lines (s!"dead {r.total} (" ++ " ".intercalate counts ++ ")") (r.items.map fun i =>
    s!"{deadKind i.kind} {memberKey i.owner i.name} {place i.file i.line}")

def complexity (r : Complexity.Report) : String :=
  lines (s!"functions {r.total} low={r.stats.low} moderate={r.stats.moderate} high={r.stats.high}"
      ++ s!" critical={r.stats.critical}")
    (r.items.map fun i =>
      s!"{i.score} {i.band.text} {i.name} {place i.file i.line}-{i.endLine}")

def similarity (r : Similarity.Report) : String :=
  let side (f : Similarity.FunctionRef) : String := s!"{f.name} {place f.file f.line}"
  lines s!"similar pairs {r.total} (threshold {r.threshold})"
    (r.pairs.map fun p => s!"{p.score} {side p.first} ~ {side p.second}")

def fileSizes (r : FileSize.Report) : String :=
  lines (s!"large files {r.total} of {r.stats.files} (critical={r.stats.critical}"
      ++ s!" warning={r.stats.warning})")
    (r.items.map fun i =>
      s!"{i.rating.text} {i.points} {i.file}: " ++ ", ".intercalate i.reasons)

/-- A text between back quotes. -/
def quoted (text : String) : String := "\x60" ++ text ++ "\x60"

def violationLine (v : Violation) : String :=
  s!"{v.severity.text} {v.ruleId} {v.file}:{v.line} " ++ quoted v.matched
    ++ ((v.replacement.map fun r => " -> " ++ quoted r).getD "")

def rules (r : Rules.Report) : String :=
  let severities := r.bySeverity.map fun (s, n) => s!"{s.text}={n}"
  lines (s!"violations {r.total} (" ++ " ".intercalate severities ++ ") sets ["
      ++ ",".intercalate r.sets ++ "]")
    (r.violations.map violationLine)

/-- A number of points with a fixed number of decimal places. -/
def points (value : Float) (places : Nat) : String :=
  let x := Decimal.Binary64.ofFloat value
  let (num, den) := x.quotient
  Decimal.fixedPlaces x.isNegative num den places

def health (s : Health.Score Float) : String :=
  let issues := if s.topIssues.isEmpty then [] else
    "top issues:" :: s.topIssues.map ("  " ++ ·)
  lines s!"health {s.points} {s.rating.text}"
    (s.breakdown.map (fun l => s!"  {l.signal.text} {l.count} -" ++ points l.penalty 1) ++ issues)

def ruleSetLine (store : RuleStore) (set : RuleSet) : String :=
  let source := match store.source? set.name with
    | some (.file _) => "stored"
    | some .builtIn | none => "builtin"
  s!"{set.name} {source} rules={set.rules.length}"
    ++ (if set.alwaysApply then " always" else "")
    ++ (if set.detection.packages.isEmpty then ""
      else " pkgs[" ++ ",".intercalate set.detection.packages ++ "]")
    ++ (if set.description.isEmpty then "" else " - " ++ set.description)

def ruleSets (store : RuleStore) : String :=
  if store.ruleSets.isEmpty then "no rule sets"
  else "\n".intercalate (store.ruleSets.map (ruleSetLine store))

end ScriptSurvey.Report
