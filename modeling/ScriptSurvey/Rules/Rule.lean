import ScriptSurvey.Toml.Value

/-!
# Rules

A rule reports the places of a pattern in source text. Rules come in named sets, which say for
which projects they are meant. What a record holds beyond the known fields is kept.
-/
namespace ScriptSurvey

inductive Severity where
  | error
  | warning
  | info
  deriving DecidableEq, Repr, Inhabited

namespace Severity

/-- All severities, the most severe first. -/
def all : List Severity := [error, warning, info]

/-- Place among the severities; the most severe comes first. -/
def rank : Severity → Nat
  | error => 0
  | warning => 1
  | info => 2

def text : Severity → String
  | error => "error"
  | warning => "warning"
  | info => "info"

def ofText? (s : String) : Option Severity := all.find? (·.text == s)

/-- Reads a severity that a user typed, in any case and with a short form. -/
def parse? (s : String) : Option Severity :=
  let s := String.ofList (s.toList.map Char.toLower)
  if s = "warn" then some warning else ofText? s

/-- At least as severe as `least`. -/
def reaches (severity least : Severity) : Bool := severity.rank ≤ least.rank

end Severity

inductive PatternKind where
  | literal
  | regex
  deriving DecidableEq, Repr, Inhabited

namespace PatternKind

def text : PatternKind → String
  | literal => "literal"
  | regex => "regex"

def ofText? (s : String) : Option PatternKind := [literal, regex].find? (·.text == s)

end PatternKind

/-- `files` and `exclude` are globs over paths below the project; `context` names a markup tag that
has to be open. `extra` is sorted by key. -/
structure Rule where
  id : String
  pattern : String
  kind : PatternKind
  severity : Severity
  message : Option String
  replacement : Option String
  files : Option String
  exclude : List String
  context : Option String
  extra : Toml.Table
  deriving BEq, Repr, Inhabited

namespace Rule

/-- A literal pattern reported as a warning. -/
def ofPattern (id pattern : String) : Rule :=
  ⟨id, pattern, .literal, .warning, none, none, none, [], none, []⟩

end Rule

/-- A partial update of a rule; an absent field is left as it is. -/
structure RulePatch where
  pattern : Option String
  kind : Option PatternKind
  severity : Option Severity
  message : Option String
  replacement : Option String
  files : Option String
  exclude : Option (List String)
  context : Option String
  deriving DecidableEq, Repr, Inhabited

namespace RulePatch

def apply (patch : RulePatch) (rule : Rule) : Rule :=
  { rule with
    pattern := patch.pattern.getD rule.pattern
    kind := patch.kind.getD rule.kind
    severity := patch.severity.getD rule.severity
    message := patch.message.or rule.message
    replacement := patch.replacement.or rule.replacement
    files := patch.files.or rule.files
    exclude := patch.exclude.getD rule.exclude
    context := patch.context.or rule.context }

end RulePatch

/-- What a project that a set is meant for depends on, imports or contains. -/
structure Detection where
  packages : List String
  imports : List String
  fragments : List String
  deriving DecidableEq, Repr, Inhabited

namespace Detection

def empty : Detection := ⟨[], [], []⟩

def isEmpty (d : Detection) : Bool :=
  d.packages.isEmpty && d.imports.isEmpty && d.fragments.isEmpty

end Detection

structure RuleSet where
  name : String
  description : String
  alwaysApply : Bool
  detection : Detection
  rules : List Rule
  extra : Toml.Table
  deriving BEq, Repr, Inhabited

namespace RuleSet

def named (name : String) : RuleSet := ⟨name, "", false, .empty, [], []⟩

def rule? (set : RuleSet) (id : String) : Option Rule := set.rules.find? (·.id == id)

end RuleSet

end ScriptSurvey
