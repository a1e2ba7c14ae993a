import ScriptSurvey.Graph.Cache
import ScriptSurvey.Health.Check
import ScriptSurvey.Report.Compact
import ScriptSurvey.Tools.Hint
import ScriptSurvey.Tools.Request

/-!
# Tool server

A server answers tool calls about projects. It keeps the symbol graph that it built last; all else
is read again for each call.
-/
namespace ScriptSurvey.Tools

/-- Path texts without anchor are seen from `workDir`; `root` is the project asked about when a call
names none. -/
structure Server where
  workDir : String
  root : String
  config : ServerConfig
  cache : GraphCache
  deriving DecidableEq, Repr, Inhabited

structure Reply where
  isError : Bool
  text : String
  deriving DecidableEq, Repr, Inhabited

/-- What a call leads to: a reply, the server and the files after it. -/
structure Outcome where
  reply : Reply
  server : Server
  files : FileSystem

namespace Server

def create (files : FileSystem) (workDir root : String) : Server :=
  ⟨workDir, root, (Config.load files (Path.ofString root)).server, GraphCache.empty⟩

/-- The root of the project that a call asks about. -/
def projectRoot (server : Server) (files : FileSystem) (project : Option String) :
    Except String Path :=
  let path := project.getD server.root
  match files.locate? server.workDir path with
  | some p => .ok (Walk.findProjectRoot files p)
  | none => .error s!"path '{path}' does not exist"

def noSources (root : Path) : String :=
  s!"No source files found at '{root}'. "
    ++ "Ensure the directory contains .ts, .tsx, .js or .jsx files."

/-- The graph of a project, kept or new, and the server that keeps it. An empty graph is not
kept. -/
def graph (server : Server) (files : FileSystem) (project : Option String) :
    Except String (SymbolGraph × Server) := do
  let root ← server.projectRoot files project
  match server.cache.get? root with
  | some g => return (g, server)
  | none =>
    let g ← (Survey.graph files (Config.load files root) root).mapError Survey.Error.message
    if g.nodes.isEmpty && g.orphans.isEmpty then throw (noSources root)
    return (g, { server with cache := server.cache.insert root g })

/-- The path text that a call reports on. -/
def scopeText (root : Path) (path : Option String) : String :=
  match path with
  | some p => Path.joinText root.toString p
  | none => root.toString

def limit (server : Server) (asked : Option Nat) : Nat := asked.getD server.config.defaultLimit

/-- A text with a first line that tells how many of its items are shown, when some are not. -/
def withSummary (server : Server) (text : String) (shown total : Nat) : String :=
  if shown < total && !server.config.suppressSummaryLine then s!"truncated: {shown}/{total}\n{text}"
  else text

/-- Runs an analysis on the scope of a call. -/
def survey {α : Type} (server : Server) (files : FileSystem) (project path : Option String)
    (run : Config → String → Except Survey.Error α) : Except String α := do
  let root ← server.projectRoot files project
  (run (Config.load files root) (scopeText root path)).mapError Survey.Error.message

def readSeverity (text : Option String) : Except String (Option Severity) :=
  match text with
  | none => .ok none
  | some t =>
    match Severity.parse? t with
    | some s => .ok (some s)
    | none => .error s!"unknown severity '{t}' (use error, warning, or info)"

def readKind (text : Option String) : Except String (Option PatternKind) :=
  match text with
  | none => .ok none
  | some t =>
    match PatternKind.ofText? (String.ofList (t.toList.map Char.toLower)) with
    | some k => .ok (some k)
    | none => .error s!"unknown pattern kind '{t}' (use literal or regex)"

def readChecks (names : Option (List String)) : Except String (List Health.Check) :=
  (names.getD []).mapM fun name =>
    match Health.Check.parse? name with
    | some c => .ok c
    | none => .error s!"unknown check '{name}'"

def deadCode (server : Server) (files : FileSystem) (project path : Option String)
    (asked : Option Nat) : Except String String := do
  let r ← server.survey files project path fun config scope =>
    Survey.liveness files config scope (some (server.limit asked))
  return server.withSummary (Report.liveness r) r.items.length r.total ++ Hint.deadCode r.total

def complexity (server : Server) (files : FileSystem) (project path : Option String)
    (minScore asked : Option Nat) : Except String String := do
  let r ← server.survey files project path fun config scope =>
    Survey.complexity files config scope minScore (some (server.limit asked))
  return server.withSummary (Report.complexity r) r.items.length r.total
    ++ Hint.complexity r.stats.critical r.stats.high

def similar (server : Server) (files : FileSystem) (project path : Option String)
    (threshold asked : Option Nat) : Except String String := do
  let r ← server.survey files project path fun config scope =>
    Survey.similarity files config scope threshold (some (server.limit asked))
  return server.withSummary (Report.similarity r) r.pairs.length r.total ++ Hint.similarity r.total

def largeFiles (server : Server) (files : FileSystem) (project path : Option String)
    (asked : Option Nat) : Except String String := do
  let r ← server.survey files project path fun config scope =>
    Survey.fileSizes files config scope (some (server.limit asked))
  return server.withSummary (Report.fileSizes r) r.items.length r.total ++ Hint.largeFiles r.total

def rules (server : Server) (files : FileSystem) (project path : Option String)
    (sets : Option (List String)) (severity : Option String) (asked : Option Nat) :
    Except String String := do
  let _ ← server.projectRoot files project
  let least ← readSeverity severity
  let r ← server.survey files project path fun config scope =>
    Survey.rules files config scope ⟨sets, least, some (server.limit asked)⟩
  return server.withSummary (Report.rules r) r.violations.length r.total
    ++ Hint.rules r.total r.sets.length

def health (server : Server) (files : FileSystem) (project path : Option String)
    (names : Option (List String)) : Except String String := do
  let _ ← server.projectRoot files project
  let checks ← readChecks names
  let s ← server.survey files project path fun config scope =>
    Health.aggregate files config scope checks
  return Report.health s ++ Hint.health s.breakdown

/-- The rule store of the project at `root`, as it is on disk. -/
def storeAt (files : FileSystem) (root : Path) : RuleStore :=
  RuleStore.load files root (Config.load files root).rules

/-- A call that may write files; those that are written stay when the call fails. -/
abbrev Writing := ExceptT String (StateM FileSystem)

/-- Changes the rules of the project at `root`. -/
def changeRules {α : Type} (root : Path)
    (change : RuleStore → FileSystem → Except RuleStore.Error (α × RuleStore × FileSystem)) :
    Writing α := do
  let files ← get
  let store := storeAt files root
  let result := change store files
  set (store.settle files (result.map (·.2))).2
  match result with
  | .ok (a, _) => return a
  | .error e => throw e.message

def addRule (server : Server) (project : Option String) (set id pattern : String)
    (fields : RuleFields) : Writing String := do
  let root ← server.projectRoot (← get) project
  let kind ← readKind fields.kind
  let severity ← readSeverity fields.severity
  let rule : Rule := { Rule.ofPattern id pattern with
    kind := kind.getD .literal, severity := severity.getD .warning, message := fields.message
    replacement := fields.replacement, files := fields.files
    exclude := fields.exclude.getD [], context := fields.context }
  changeRules root fun store files => (store.addRule files set rule).map ((), ·)
  return s!"added rule '{id}' to set '{set}'" ++ Hint.ruleWrite set

def updateRule (server : Server) (project : Option String) (set id : String)
    (pattern : Option String) (fields : RuleFields) : Writing String := do
  let root ← server.projectRoot (← get) project
  let kind ← readKind fields.kind
  let severity ← readSeverity fields.severity
  let patch : RulePatch := ⟨pattern, kind, severity, fields.message, fields.replacement,
    fields.files, fields.exclude, fields.context⟩
  let rule ← changeRules root fun store files => store.updateRule files set id patch
  return s!"updated rule '{rule.id}' in set '{set}': {rule.severity.text} "
    ++ Report.quoted rule.pattern ++ Hint.ruleWrite set

def deleteRule (server : Server) (project : Option String) (set id : String) : Writing String := do
  let root ← server.projectRoot (← get) project
  let rule ← changeRules root fun store files => store.deleteRule files set id
  return s!"deleted rule '{rule.id}' from set '{set}'"

/-- Drops the kept graph, when it is that of the project or no project is named. -/
def invalidate (server : Server) (files : FileSystem) (project : Option String) :
    Except String (String × Server) := do
  let root ← match project with
    | some p => (server.projectRoot files (some p)).map some
    | none => pure none
  let (dropped, cache) := server.cache.invalidate root
  return (if dropped then "graph cache cleared" else "no cached graph for that project",
    { server with cache := cache })

def replyOf (result : Except String String) : Reply :=
  match result with
  | .ok text => ⟨false, text⟩
  | .error message => ⟨true, message⟩

/-- The outcome of a call that changes nothing. -/
def reading (server : Server) (files : FileSystem) (result : Except String String) : Outcome :=
  ⟨replyOf result, server, files⟩

/-- The outcome of a call that may write files. -/
def writing (server : Server) (files : FileSystem) (call : Writing String) : Outcome :=
  let (result, after) := call.run files
  ⟨replyOf result, server, after⟩

/-- The outcome of a call about the graph; the graph is kept even when the call fails later. -/
def aboutGraph (server : Server) (files : FileSystem) (project : Option String)
    (reply : SymbolGraph → Except String String) : Outcome :=
  match server.graph files project with
  | .ok (g, next) => ⟨replyOf (reply g), next, files⟩
  | .error message => ⟨⟨true, message⟩, server, files⟩

def graphText (maxEdges : Option Nat) (g : SymbolGraph) : String :=
  Report.graph g maxEdges ++ Hint.graph g.orphans.length

def lookupText (symbol : String) (g : SymbolGraph) : Except String String :=
  match g.lookup symbol with
  | .ok c => .ok (Report.lookup c ++ Hint.lookup c.address (!c.callees.isEmpty))
  | .error e => .error e.message

def ruleSets (server : Server) (files : FileSystem) (project : Option String) :
    Except String String := do
  let root ← server.projectRoot files project
  return Report.ruleSets (storeAt files root) ++ Hint.ruleSets

/-- Answers a call. -/
def answer (server : Server) (files : FileSystem) (request : Request) : Outcome :=
  let project := request.project
  match request.tool with
  | .getGraph maxEdges => server.aboutGraph files project fun g => .ok (graphText maxEdges g)
  | .lookupSymbol symbol => server.aboutGraph files project (lookupText symbol)
  | .findDeadCode path limit => server.reading files (server.deadCode files project path limit)
  | .getComplexity path minScore limit =>
    server.reading files (server.complexity files project path minScore limit)
  | .findSimilar path threshold limit =>
    server.reading files (server.similar files project path threshold limit)
  | .getLargeFiles path limit => server.reading files (server.largeFiles files project path limit)
  | .checkRules path sets severity limit =>
    server.reading files (server.rules files project path sets severity limit)
  | .getHealth path checks => server.reading files (server.health files project path checks)
  | .listRuleSets => server.reading files (server.ruleSets files project)
  | .addRule set id pattern fields =>
    server.writing files (server.addRule project set id pattern fields)
  | .updateRule set id pattern fields =>
    server.writing files (server.updateRule project set id pattern fields)
  | .deleteRule set id => server.writing files (server.deleteRule project set id)
  | .invalidateGraph =>
    match server.invalidate files project with
    | .ok (text, next) => ⟨⟨false, text⟩, next, files⟩
    | .error message => ⟨⟨true, message⟩, server, files⟩

end Server

end ScriptSurvey.Tools
