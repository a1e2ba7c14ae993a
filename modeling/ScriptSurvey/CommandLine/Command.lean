import ScriptSurvey.CommandLine.Words

/-!
# Commands

The commands of the program with their arguments. Each answers one question about the project
around a path.
-/
namespace ScriptSurvey.CommandLine

inductive Query where
  | graph (maxEdges : Option Nat)
  | lookup (symbol : String)
  | deadCode (limit : Option Nat)
  | complexity (minScore limit : Option Nat)
  | similarity (threshold limit : Option Nat)
  | largeFiles (limit : Option Nat)
  | rules (sets : List String) (severity : Option Severity) (limit : Option Nat)
  | ruleSets
  | health (checks : List Health.Check)
  deriving DecidableEq, Repr, Inhabited

inductive Command where
  | ask (query : Query) (path : String) (format : Format)
  | serve (path : String)
  deriving DecidableEq, Repr, Inhabited

/-- The names of the commands. -/
inductive Verb where
  | graph
  | lookup
  | deadCode
  | complexity
  | similarity
  | largeFiles
  | rules
  | ruleSets
  | health
  | serve
  deriving DecidableEq, Repr, Inhabited

namespace Verb

def all : List Verb :=
  [graph, lookup, deadCode, complexity, similarity, largeFiles, rules, ruleSets, health, serve]

def text : Verb → String
  | graph => "graph"
  | lookup => "lookup"
  | deadCode => "dead-code"
  | complexity => "complexity"
  | similarity => "similarity"
  | largeFiles => "large-files"
  | rules => "rules"
  | ruleSets => "rule-sets"
  | health => "health"
  | serve => "mcp"

def ofText? (word : String) : Option Verb := all.find? (·.text == word)

/-- What a command is for, in paragraphs. -/
def about : Verb → List String
  | graph => ["Print the symbol graph: legend, nodes, call edges, orphans, duplicate methods"]
  | lookup => ["Show one symbol with its callers and callees",
      "Accepts a legend code (\"US\"), a full name (\"UserService\"), or a member address (\"US.fU\" or "
        ++ "\"UserService.findUser\")."]
  | deadCode => ["Find unused functions, classes, methods, exports, and locals",
      "Imports are resolved across the whole project; only items under `path` are reported."]
  | complexity => ["Cyclomatic complexity per function, highest first"]
  | similarity => ["Pairs of structurally similar functions"]
  | largeFiles => ["Files too large by lines, functions, classes, or exports"]
  | rules => ["Check files against pattern rule sets (auto-detected unless --sets is given)"]
  | ruleSets => ["List built-in and stored rule sets"]
  | health => ["Weighted health score 0-100 with a per-signal breakdown"]
  | serve => ["Start an MCP server on stdio exposing the analyses as tools"]

def option (name : String) (kind : Kind) (about : String) : Slot := ⟨name, kind, false, about⟩

def listOption (name : String) (kind : Kind) (about : String) : Slot := ⟨name, kind, true, about⟩

def pathSlot (about : String) : Slot := ⟨"path", .path, false, about⟩

def formatSlot (about : String) : Slot := option "format" .format about

def limitSlot (about : String) : Slot := option "limit" .limit about

def symbolSlot : Slot := ⟨"symbol", .text, false, "Code, name, or Owner.member"⟩

/-- A command about a path, with the option for the format and others. -/
def aboutPath (options : List Slot) : Shape := ⟨options ++ [formatSlot ""], [pathSlot ""], 0⟩

def shape : Verb → Shape
  | graph =>
    ⟨[option "max-edges" .limit "List at most this many call edges", formatSlot "Output format"],
      [pathSlot "Directory inside the project (the project root is found by walking up)"], 0⟩
  | lookup => ⟨[formatSlot ""], [symbolSlot, pathSlot ""], 1⟩
  | deadCode =>
    aboutPath [limitSlot "Maximum number of items listed (the total is always reported)"]
  | largeFiles => aboutPath [limitSlot ""]
  | complexity =>
    aboutPath [option "min-score" .score "Hide functions scoring below this", limitSlot ""]
  | similarity =>
    aboutPath [option "threshold" .score "Minimum pair score, 0-100", limitSlot ""]
  | rules => aboutPath
      [listOption "sets" .text "Run exactly these rule sets (comma-separated)",
        option "severity" .severity "Minimum severity reported: error, warning, or info", limitSlot ""]
  | ruleSets => aboutPath []
  | health => aboutPath
      [listOption "checks" .check ("Only run these checks (comma-separated: dead_code, docs, "
        ++ "similarity, complexity, file_size, rules, dependencies). Default: all")]
  | serve =>
    ⟨[], [pathSlot "Default project root for tool calls without `project_path`"], 0⟩

end Verb

namespace Values

def words (values : Values) (name : String) : List String := (values.lookup name).getD []

def first? (values : Values) (name : String) : Option String := (words values name).head?

def limit? (values : Values) (name : String) : Option Nat :=
  (first? values name).bind (natural? maxLimit)

def score? (values : Values) (name : String) : Option Nat :=
  (first? values name).bind CommandLine.score?

end Values

/-- The question that the values of a command ask. -/
def Verb.query? (verb : Verb) (values : Values) : Option Query :=
  let limit := Values.limit? values "limit"
  match verb with
  | .graph => some (.graph (Values.limit? values "max-edges"))
  | .lookup => some (.lookup ((Values.first? values "symbol").getD ""))
  | .deadCode => some (.deadCode limit)
  | .complexity => some (.complexity (Values.score? values "min-score") limit)
  | .similarity => some (.similarity (Values.score? values "threshold") limit)
  | .largeFiles => some (.largeFiles limit)
  | .rules => some (.rules (Values.words values "sets")
      ((Values.first? values "severity").bind Severity.parse?) limit)
  | .ruleSets => some .ruleSets
  | .health => some (.health ((Values.words values "checks").filterMap Health.Check.parse?))
  | .serve => none

def Verb.command (verb : Verb) (values : Values) : Command :=
  let path := (Values.first? values "path").getD "."
  match verb.query? values with
  | some query => .ask query path (((Values.first? values "format").bind Format.ofText?).getD .compact)
  | none => .serve path

def helpWord : String := "help"

/-- Reads the words after the one that asks for help. -/
def readHelp (words : List String) : Refusal :=
  match words with
  | [] => .help none true
  | [word] =>
    if word = helpWord || (Verb.ofText? word).isSome then .help (some word) true else .unknownCommand
  | _ => .unknownCommand

/-- A shape without arguments, for the words in front of a command. -/
def bareShape : Shape := ⟨[], [], 0⟩

/-- A word after a double dash where a command should be. -/
def readMisplaced (words : List String) : Refusal :=
  match words with
  | [] => .noCommand
  | word :: _ =>
    if word = helpWord || (Verb.ofText? word).isSome then .unknownArgument else .unknownCommand

/-- Reads the words after the name of the program. -/
def Command.read (words : List String) : Except Refusal Command :=
  match words with
  | [] => .error .noCommand
  | word :: rest =>
    match Verb.ofText? word with
    | some verb => (readWords verb.shape (some verb.text) rest).map verb.command
    | none =>
      if word = helpWord then .error (readHelp rest)
      else if word = "--" then .error (readMisplaced rest)
      else match State.start.read bareShape none word with
        | .error .unknownArgument =>
          .error (if word.startsWith "-" && word ≠ "-" then .unknownArgument else .unknownCommand)
        | .error r => .error r
        | .ok _ => .error .unknownCommand

end ScriptSurvey.CommandLine
