import ScriptSurvey.Json.Writer
import ScriptSurvey.Report.Compact

/-!
# Reports as records

The results of the analyses as JSON values, with their fields in a fixed order.
-/
namespace ScriptSurvey.Record

open Json (Value)
open Json.Value (text texts ofNat record optional)

def path (p : Path) : Value := text p.toString

def nodeKind : NodeKind → Value
  | .classNode => text "class"
  | .functionNode => text "function"

/-- A field that is left out when empty. -/
def unlessEmpty (key : String) (items : List String) : List (String × Value) :=
  if items.isEmpty then [] else [(key, texts items)]

def optionalField (key : String) (value : Option String) : List (String × Value) :=
  (value.map fun v => (key, text v)).toList

def node (n : GraphNode) : Value :=
  record ([("code", text n.code), ("name", text n.name), ("kind", nodeKind n.kind),
    ("file", path n.file), ("line", ofNat n.line), ("exported", .bool n.exported)]
    ++ unlessEmpty "methods" n.methods ++ unlessEmpty "properties" n.properties
    ++ optionalField "parent" n.parent)

def edge (e : CallEdge) : Value :=
  record [("from", text e.source), ("to", text e.target), ("line", ofNat e.line)]

def duplicateSite (s : DuplicateSite) : Value :=
  record [("owner", text s.owner), ("file", path s.file), ("line", ofNat s.line)]

def legend (l : Legend) : Value := record (l.entries.map fun e => (e.code, text e.name))

def graph (g : SymbolGraph) : Value :=
  record [("legend", legend g.legend),
    ("nodes", record (g.nodes.map fun n => (n.code, node n))),
    ("edges", .array (g.edges.map edge)), ("orphans", texts g.orphans),
    ("duplicates", record (g.duplicates.map fun (name, sites) =>
      (name, .array (sites.map duplicateSite))))]

def lookup (c : SymbolGraph.SymbolContext) : Value :=
  record [("address", text c.address), ("name", text c.name), ("node", node c.node),
    ("callers", texts c.callers), ("callees", texts c.callees)]

def deadItem (i : Liveness.DeadItem) : Value :=
  record ([("kind", text (Report.deadKind i.kind)), ("name", text i.name)]
    ++ optionalField "owner" i.owner ++ [("file", path i.file), ("line", ofNat i.line)])

def liveness (r : Liveness.Report) : Value :=
  record [("total", ofNat r.total),
    ("by_type", record (r.byKind.map fun (kind, n) => (Report.deadKind kind, ofNat n))),
    ("items", .array (r.items.map deadItem)), ("scope", path r.scope)]

def complexity (r : Complexity.Report) : Value :=
  record [("total", ofNat r.total),
    ("stats", record [("low", ofNat r.stats.low), ("moderate", ofNat r.stats.moderate),
      ("high", ofNat r.stats.high), ("critical", ofNat r.stats.critical)]),
    ("items", .array (r.items.map fun i => record [("name", text i.name), ("file", path i.file),
      ("line", ofNat i.line), ("end_line", ofNat i.endLine), ("score", ofNat i.score),
      ("band", text i.band.text)]))]

def functionRef (f : Similarity.FunctionRef) : Value :=
  record [("name", text f.name), ("file", path f.file), ("line", ofNat f.line)]

def similarity (r : Similarity.Report) : Value :=
  record [("total", ofNat r.total), ("threshold", ofNat r.threshold),
    ("pairs", .array (r.pairs.map fun p => record [("score", ofNat p.score),
      ("a", functionRef p.first), ("b", functionRef p.second)]))]

def declarationKind : DeclarationKind → Value
  | .function => text "function"
  | .classDef => text "class"
  | .method => text "method"

def documentation (r : Documentation.Report) : Value :=
  record [("exported", ofNat r.exported), ("total", ofNat r.total),
    ("items", .array (r.items.map fun i => record [("name", text i.name),
      ("kind", declarationKind i.kind), ("file", path i.file), ("line", ofNat i.line)]))]

def fileSizeItem (i : FileSize.Item) : Value :=
  record [("file", path i.file), ("lines", ofNat i.lines), ("functions", ofNat i.functions),
    ("classes", ofNat i.classes), ("exports", ofNat i.exports), ("points", ofNat i.points),
    ("rating", text i.rating.text), ("reasons", texts i.reasons)]

def fileSizes (r : FileSize.Report) : Value :=
  record [("total", ofNat r.total),
    ("stats", record [("files", ofNat r.stats.files), ("critical", ofNat r.stats.critical),
      ("warning", ofNat r.stats.warning)]),
    ("items", .array (r.items.map fileSizeItem))]

def violation (v : Violation) : Value :=
  record ([("rule_id", text v.ruleId), ("rule_set", text v.ruleSet),
    ("severity", text v.severity.text), ("file", text v.file), ("line", ofNat v.line),
    ("matched_text", text v.matched)] ++ optionalField "suggested_replacement" v.replacement
    ++ optionalField "message" v.message)

def rules (r : Rules.Report) : Value :=
  record [("total", ofNat r.total),
    ("by_severity", record (r.bySeverity.map fun (s, n) => (s.text, ofNat n))),
    ("by_rule", record (r.byRule.map fun (id, n) => (id, ofNat n))), ("sets", texts r.sets),
    ("violations", .array (r.violations.map violation))]

def penaltyLine (l : Health.PenaltyLine Float) : Value :=
  record [("signal", text l.signal.text), ("count", ofNat l.count),
    ("penalty", Value.ofBinary64 (Decimal.Binary64.ofFloat l.penalty))]

def health (s : Health.Score Float) : Value :=
  record [("score", ofNat s.points), ("rating", text s.rating.text),
    ("top_issues", texts s.topIssues), ("breakdown", .array (s.breakdown.map penaltyLine))]

/-- The key under which a date stands in a record. -/
def dateKey : String := "$__toml_private_datetime"

mutual

def tomlValue : Toml.Value → Value
  | .string s => text s
  | .integer n => Value.ofInt n
  | .float x => Value.ofBinary64 x
  | .boolean b => .bool b
  | .datetime t => record [(dateKey, text t)]
  | .array items => .array (tomlItems items)
  | .table entries => record (tomlEntries entries)

def tomlItems : List Toml.Value → List Value
  | [] => []
  | v :: rest => tomlValue v :: tomlItems rest

def tomlEntries : List (String × Toml.Value) → List (String × Value)
  | [] => []
  | (k, v) :: rest => (k, tomlValue v) :: tomlEntries rest

end

def rule (r : Rule) : Value := tomlValue (.table r.toTable)

def ruleSet (s : RuleSet) : Value := tomlValue (.table s.toTable)

def ruleSets (store : RuleStore) : Value := .array (store.ruleSets.map ruleSet)

def tiers (t : Tiers) : Value := .array [ofNat t.upper, ofNat t.lower]

def config (c : Config) : Value :=
  record [("exclude", optional texts c.exclude),
    ("liveness", record [("entry_points", texts c.liveness.entryPoints),
      ("entry_files", texts c.liveness.entryFiles),
      ("default_extension", text c.liveness.defaultExtension),
      ("limit", ofNat c.liveness.limit)]),
    ("complexity", record [("min_score", ofNat c.complexity.minScore),
      ("limit", ofNat c.complexity.limit)]),
    ("similarity", record [("threshold", ofNat c.similarity.threshold),
      ("limit", ofNat c.similarity.limit)]),
    ("file_size", record [("lines", tiers c.fileSize.lines),
      ("functions", tiers c.fileSize.functions), ("classes", tiers c.fileSize.classes),
      ("exports", tiers c.fileSize.exports), ("limit", ofNat c.fileSize.limit)]),
    ("rules", record [("directory", text c.rules.directory),
      ("disabled_sets", texts c.rules.disabledSets), ("limit", ofNat c.rules.limit)]),
    ("mcp", record [("default_limit", ofNat c.server.defaultLimit),
      ("suppress_summary_line", .bool c.server.suppressSummaryLine)])]

end ScriptSurvey.Record
