import ScriptSurvey.Health.Redundancy
import ScriptSurvey.Health.Score
import ScriptSurvey.Survey

/-!
# Health checks

The health of a project is scored from the findings of its checks. Each count is the total of the
analysis that stands behind it.
-/
namespace ScriptSurvey.Health

inductive Check where
  | deadCode
  | docs
  | similarity
  | complexity
  | fileSize
  | rules
  | dependencies
  deriving DecidableEq, Repr, Inhabited

namespace Check

def all : List Check := [deadCode, docs, similarity, complexity, fileSize, rules, dependencies]

/-- Reads a name that a user typed, in any case, with dashes or underscores. -/
def parse? (text : String) : Option Check :=
  let letters := (Text.strip Text.isBlank text.toList).map fun c =>
    if c == '-' then '_' else c.toLower
  match String.ofList letters with
  | "dead_code" | "dead" => some deadCode
  | "docs" | "undocumented" => some docs
  | "similarity" | "similar" => some similarity
  | "complexity" => some complexity
  | "file_size" | "large_files" => some fileSize
  | "rules" => some rules
  | "dependencies" | "deps" => some dependencies
  | _ => none

def text : Check → String
  | deadCode => "dead_code"
  | docs => "docs"
  | similarity => "similarity"
  | complexity => "complexity"
  | fileSize => "file_size"
  | rules => "rules"
  | dependencies => "dependencies"

/-- The check looks at the facts of scripts. -/
def needsFacts : Check → Bool
  | rules | dependencies => false
  | _ => true

end Check

/-- The check that a signal belongs to. -/
def Signal.check : Signal → Check
  | deadCode => .deadCode
  | undocumented => .docs
  | similarPairs => .similarity
  | complexityCritical | complexityHigh => .complexity
  | largeFilesCritical | largeFilesWarning => .fileSize
  | ruleErrors | ruleWarnings => .rules
  | redundantDependencies => .dependencies

/-- What the signals count: a project, the part of it asked about, and the report of its rules. -/
structure Evidence where
  files : FileSystem
  config : Config
  project : Project
  scope : Path
  rules : Rules.Report

namespace Evidence

def severityCount (e : Evidence) (severity : Severity) : Nat :=
  (e.rules.bySeverity.lookup severity).getD 0

def count (e : Evidence) : Signal → Nat
  | .deadCode => (Liveness.classify e.files e.project e.scope e.config.liveness 0).total
  | .undocumented => (Documentation.report e.project e.scope 0).total
  | .similarPairs =>
    (Similarity.report e.project e.scope e.config.similarity.threshold 0).total
  | .complexityCritical =>
    (Complexity.report e.project e.scope e.config.complexity.minScore 0).stats.critical
  | .complexityHigh =>
    (Complexity.report e.project e.scope e.config.complexity.minScore 0).stats.high
  | .largeFilesCritical =>
    (FileSize.report e.project e.scope e.config.fileSize 0).stats.critical
  | .largeFilesWarning =>
    (FileSize.report e.project e.scope e.config.fileSize 0).stats.warning
  | .ruleErrors => e.severityCount .error
  | .ruleWarnings => e.severityCount .warning
  | .redundantDependencies =>
    (redundantDependencies
      ((Manifest.load? e.files e.project.root).getD Manifest.empty)).length

end Evidence

/-- The checks to run; none asked for means all. -/
def wanted (checks : List Check) : List Check := if checks.isEmpty then Check.all else checks

/-- The facts that the checks need: those of the whole project, or of no file. -/
def facts (files : FileSystem) (config : Config) (root : Path) (checks : List Check) :
    Except Survey.Error Project :=
  if checks.any Check.needsFacts then Survey.collect files config root else .ok ⟨root, []⟩

def noRules : Rules.Report := ⟨0, [], [], [], []⟩

/-- The report of the rules, when they are to be checked. -/
def ruleEvidence (files : FileSystem) (config : Config) (scope : Path) (checks : List Check) :
    Except Survey.Error Rules.Report :=
  if checks.contains .rules then
    Survey.rules files config scope.toString { Survey.RuleOptions.default with limit := some 0 }
  else .ok noRules

/-- Runs checks on the project around a path text and counts what they find below the path. -/
def counts (files : FileSystem) (config : Config) (path : String) (checks : List Check) :
    Except Survey.Error Counts :=
  match files.canonical? path with
  | none => .error (.missingPath path)
  | some scope => do
    let checks := wanted checks
    let project ← facts files config (Walk.findProjectRoot files scope) checks
    let rules ← ruleEvidence files config scope checks
    let evidence : Evidence := ⟨files, config, project, scope, rules⟩
    return fun signal => if checks.contains signal.check then some (evidence.count signal) else none

/-- The health of what lies below a path text. -/
def aggregate (files : FileSystem) (config : Config) (path : String) (checks : List Check) :
    Except Survey.Error (Score Float) :=
  (counts files config path checks).map score

end ScriptSurvey.Health
