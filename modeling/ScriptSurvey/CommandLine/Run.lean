import ScriptSurvey.CommandLine.Help
import ScriptSurvey.Report.Record

/-!
# Running commands

A command prints the answer to its question, compactly or as JSON. Questions that cannot be answered
are reported as errors.
-/
namespace ScriptSurvey.CommandLine

structure Output where
  code : Nat
  stdout : String
  stderr : String
  deriving DecidableEq, Repr, Inhabited

namespace Refusal

def message : Refusal → String
  | help command full => (Page.ofCommand command full).text full
  | noCommand => Page.program.text false
  | version command => fullName command ++ " " ++ programVersion ++ "\n"
  | unknownCommand => "error: unrecognized subcommand\n"
  | unknownArgument => "error: unexpected argument found\n"
  | missingArgument => "error: a required argument was not provided\n"
  | notAChoice | badValue => "error: invalid value for an argument\n"
  | repeated => "error: an argument cannot be used multiple times\n"
  | unwantedValue => "error: unexpected value for an argument\n"

/-- Help and version are answers; all else is misuse. -/
def output (r : Refusal) : Output :=
  match r with
  | help _ _ | version _ => ⟨0, r.message, ""⟩
  | _ => ⟨2, "", r.message⟩

end Refusal

inductive Error where
  | survey (error : Survey.Error)
  | symbol (error : SymbolGraph.UnknownSymbol)
  deriving DecidableEq, Repr

def Error.message : Error → String
  | survey e => e.message
  | symbol e => e.message

/-- An answer in the format that was asked for. -/
def print {α : Type} (format : Format) (value : α) (compactText : α → String)
    (record : α → Json.Value) : String :=
  match format with
  | .compact => compactText value
  | .json => Json.pretty (record value)

def orFail {α : Type} (result : Except Survey.Error α) : Except Error α :=
  result.mapError .survey

/-- The options of a rule check; no sets at all leave the choice to detection. -/
def ruleOptions (sets : List String) (severity : Option Severity) (limit : Option Nat) :
    Survey.RuleOptions :=
  ⟨if sets.isEmpty then none else some sets, severity, limit⟩

/-- Answers a question about the project at `root`, where `scope` is the path asked about. -/
def answer (files : FileSystem) (config : Config) (root : Path) (scope : String) (query : Query)
    (format : Format) : Except Error String := do
  match query with
  | .graph maxEdges =>
    let g ← orFail (Survey.graph files config root)
    return print format g (Report.graph · maxEdges) Record.graph
  | .lookup symbol =>
    let g ← orFail (Survey.graph files config root)
    let c ← (g.lookup symbol).mapError .symbol
    return print format c Report.lookup Record.lookup
  | .deadCode limit =>
    let r ← orFail (Survey.liveness files config scope limit)
    return print format r Report.liveness Record.liveness
  | .complexity minScore limit =>
    let r ← orFail (Survey.complexity files config scope minScore limit)
    return print format r Report.complexity Record.complexity
  | .similarity threshold limit =>
    let r ← orFail (Survey.similarity files config scope threshold limit)
    return print format r Report.similarity Record.similarity
  | .largeFiles limit =>
    let r ← orFail (Survey.fileSizes files config scope limit)
    return print format r Report.fileSizes Record.fileSizes
  | .rules sets severity limit =>
    let r ← orFail (Survey.rules files config scope (ruleOptions sets severity limit))
    return print format r Report.rules Record.rules
  | .ruleSets =>
    return print format (RuleStore.load files root config.rules) Report.ruleSets Record.ruleSets
  | .health checks =>
    let s ← orFail (Health.aggregate files config scope checks)
    return print format s Report.health Record.health

/-- The project that a path text, seen from `workDir`, lies in, and the path itself. -/
def project (files : FileSystem) (workDir path : String) : Except Error (Path × String) :=
  match files.locate? workDir path with
  | some scope => .ok (Walk.findProjectRoot files scope, scope.toString)
  | none => .error (.survey (.missingPath path))

def ask (files : FileSystem) (workDir : String) (query : Query) (path : String)
    (format : Format) : Output :=
  let result := do
    let (root, scope) ← project files workDir path
    answer files (Config.load files root) root scope query format
  match result with
  | .ok text => ⟨0, text ++ "\n", ""⟩
  | .error e => ⟨1, "", "Error: " ++ e.message ++ "\n"⟩

/-- What a list of words makes the program print; serving is not an answer. -/
def run (files : FileSystem) (workDir : String) (words : List String) : Output :=
  match Command.read words with
  | .error r => r.output
  | .ok (.ask query path format) => ask files workDir query path format
  | .ok (.serve _) => ⟨0, "", ""⟩

end ScriptSurvey.CommandLine
