import ScriptSurvey.Json.Value

/-!
# Tool requests

A tool is called by name with a record of arguments. An argument that may be left out may also be
null; arguments that a tool does not know are passed over.
-/
namespace ScriptSurvey.Tools

open Json (Value)

/-- The fields of a rule as a caller gives them. -/
structure RuleFields where
  kind : Option String
  severity : Option String
  message : Option String
  replacement : Option String
  files : Option String
  exclude : Option (List String)
  context : Option String
  deriving DecidableEq, Repr, Inhabited

inductive Tool where
  | getGraph (maxEdges : Option Nat)
  | lookupSymbol (symbol : String)
  | findDeadCode (path : Option String) (limit : Option Nat)
  | getComplexity (path : Option String) (minScore limit : Option Nat)
  | findSimilar (path : Option String) (threshold limit : Option Nat)
  | getLargeFiles (path : Option String) (limit : Option Nat)
  | checkRules (path : Option String) (sets : Option (List String)) (severity : Option String)
      (limit : Option Nat)
  | getHealth (path : Option String) (checks : Option (List String))
  | listRuleSets
  | addRule (set id pattern : String) (fields : RuleFields)
  | updateRule (set id : String) (pattern : Option String) (fields : RuleFields)
  | deleteRule (set id : String)
  | invalidateGraph
  deriving DecidableEq, Repr, Inhabited

/-- `project` is a path text that takes the place of the root of the server. -/
structure Request where
  project : Option String
  tool : Tool
  deriving DecidableEq, Repr, Inhabited

namespace Request

/-- Largest value of a limit. -/
def maxLimit : Nat := Nat.pow 2 64 - 1

/-- Largest value of a score or threshold. -/
def maxScore : Nat := Nat.pow 2 32 - 1

def text? : Value → Option String
  | .string content => content
  | _ => none

def count? (bound : Nat) : Value → Option Nat
  | .number n => n.natural?.filter (· ≤ bound)
  | _ => none

def texts? : Value → Option (List String)
  | .array items => items.mapM text?
  | _ => none

/-- An argument that may be left out. -/
def optional? {α : Type} (read : Value → Option α) (args : Value) (name : String) :
    Option (Option α) :=
  match args.member? name with
  | none | some .null => some none
  | some v => (read v).map some

def required? {α : Type} (read : Value → Option α) (args : Value) (name : String) : Option α :=
  (args.member? name).bind read

def limit? (args : Value) : Option (Option Nat) := optional? (count? maxLimit) args "limit"

def path? (args : Value) : Option (Option String) := optional? text? args "path"

def fields? (args : Value) : Option RuleFields := do
  return {
    kind := ← optional? text? args "kind"
    severity := ← optional? text? args "severity"
    message := ← optional? text? args "message"
    replacement := ← optional? text? args "replacement"
    files := ← optional? text? args "files"
    exclude := ← optional? texts? args "exclude"
    context := ← optional? text? args "context" }

/-- The tool with a name, given its arguments. -/
def tool? (name : String) (args : Value) : Option Tool :=
  match name with
  | "get_graph" => (optional? (count? maxLimit) args "max_edges").map .getGraph
  | "lookup_symbol" => (required? text? args "symbol").map .lookupSymbol
  | "find_dead_code" => return .findDeadCode (← path? args) (← limit? args)
  | "get_complexity" =>
    return .getComplexity (← path? args) (← optional? (count? maxScore) args "min_score")
      (← limit? args)
  | "find_similar" =>
    return .findSimilar (← path? args) (← optional? (count? maxScore) args "threshold")
      (← limit? args)
  | "get_large_files" => return .getLargeFiles (← path? args) (← limit? args)
  | "check_rules" =>
    return .checkRules (← path? args) (← optional? texts? args "sets")
      (← optional? text? args "severity") (← limit? args)
  | "get_health" => return .getHealth (← path? args) (← optional? texts? args "checks")
  | "list_rule_sets" => some .listRuleSets
  | "add_rule" =>
    return .addRule (← required? text? args "set") (← required? text? args "id")
      (← required? text? args "pattern") (← fields? args)
  | "update_rule" =>
    return .updateRule (← required? text? args "set") (← required? text? args "id")
      (← optional? text? args "pattern") (← fields? args)
  | "delete_rule" =>
    return .deleteRule (← required? text? args "set") (← required? text? args "id")
  | "invalidate_graph" => some .invalidateGraph
  | _ => none

/-- Reads a call; none when there is no such tool or an argument has the wrong type. -/
def ofJson? (name : String) (args : Value) : Option Request := do
  let tool ← tool? name args
  return ⟨← optional? text? args "project_path", tool⟩

end Request

end ScriptSurvey.Tools
