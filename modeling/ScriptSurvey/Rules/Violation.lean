import ScriptSurvey.FileSystem
import ScriptSurvey.Rules.Compiled
import ScriptSurvey.Rules.Markup
import ScriptSurvey.Text.Lines
import ScriptSurvey.Text.Sorted

/-!
# Violations

Rules run over the lines of files. A line reports each matched text once, for the first rule that
finds it.
-/
namespace ScriptSurvey

structure Violation where
  ruleId : String
  ruleSet : String
  severity : Severity
  file : String
  line : Nat
  matched : String
  replacement : Option String
  message : Option String
  deriving DecidableEq, Repr, Inhabited

namespace Rules

/-- The rule wants no tag to be open, or the one it wants is open at the end of the line. -/
def inContext {text : String} (rule : CompiledRule) (line : Text.Line text) : Bool :=
  match rule.rule.context with
  | none => true
  | some tag => 0 < Markup.tagDepth line.through tag

/-- What a rule reports on a line. -/
def report? {text : String} (file : String) (line : Text.Line text) (rule : CompiledRule) :
    Option Violation :=
  (rule.findLive line.content).bind fun hit =>
    if inContext rule line then
      some {
        ruleId := rule.rule.id, ruleSet := rule.setName, severity := rule.rule.severity
        file := file, line := line.number, matched := hit.matched
        replacement := rule.rule.replacement, message := rule.rule.message }
    else none

/-- The first violation for each matched text. -/
def firstMatches (violations : List Violation) : List Violation :=
  violations.foldl (fun kept v =>
    if kept.any (·.matched == v.matched) then kept else kept ++ [v]) []

def checkLine {text : String} (file : String) (rules : List CompiledRule) (line : Text.Line text) :
    List Violation := firstMatches (rules.filterMap (report? file line))

/-- The violations of one file, by line and then in the order of the rules. -/
def checkText (file text : String) (rules : List CompiledRule) : List Violation :=
  let applicable := rules.filter (·.appliesTo file)
  (Text.placedLines text).flatMap (checkLine file applicable)

/-- Severities first, then files, lines and rules by their texts. -/
def violationLe (a b : Violation) : Bool :=
  ((compare a.severity.rank b.severity.rank).then ((compare a.file b.file).then
    ((compare a.line b.line).then (compare a.ruleId b.ruleId)))).isLE

/-- `total` and the counts cover all violations, of which the first ones are kept. Severities and
rules without violations are left out. -/
structure Report where
  total : Nat
  bySeverity : List (Severity × Nat)
  byRule : List (String × Nat)
  sets : List String
  violations : List Violation
  deriving DecidableEq, Repr, Inhabited

/-- The rules that run: those severe enough that compile. -/
def compiledRules (sets : List RuleSet) (least : Option Severity) : List CompiledRule :=
  sets.flatMap fun set =>
    (set.rules.filter fun r => (least.map r.severity.reaches).getD true).filterMap fun r =>
      (CompiledRule.compile set.name r).toOption

/-- The text of a path below `root`, with plain separators. -/
def displayPath (root path : Path) : String :=
  Text.replaceChar ((root.below? path).getD path).toString '\\' '/'

/-- The violations of a file; one that is no text has none. -/
def checkFile (files : FileSystem) (root : Path) (rules : List CompiledRule) (path : Path) :
    List Violation :=
  match files.readText? path with
  | some text => checkText (displayPath root path) text rules
  | none => []

def countSeverities (violations : List Violation) : List (Severity × Nat) :=
  (Severity.all.map fun s => (s, violations.countP (·.severity == s))).filter fun (_, n) => 0 < n

def countRules (violations : List Violation) : List (String × Nat) :=
  (Text.sortedDistinct (violations.map (·.ruleId))).map fun id =>
    (id, violations.countP (·.ruleId == id))

/-- Runs the rules of sets over files. -/
def run (files : FileSystem) (root : Path) (paths : List Path) (sets : List RuleSet)
    (least : Option Severity) : Report :=
  let rules := compiledRules sets least
  let violations := (paths.flatMap (checkFile files root rules)).mergeSort violationLe
  ⟨violations.length, countSeverities violations, countRules violations, sets.map (·.name),
    violations⟩

end Rules

end ScriptSurvey
