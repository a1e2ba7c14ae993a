import ScriptSurvey.Scale

/-!
# Health scores

A project starts with a hundred points. Every signal takes some off for each of its findings, but
no more than its cap.
-/
namespace ScriptSurvey.Health

inductive Signal where
  | deadCode
  | undocumented
  | similarPairs
  | complexityCritical
  | complexityHigh
  | largeFilesCritical
  | largeFilesWarning
  | ruleErrors
  | ruleWarnings
  | redundantDependencies
  deriving DecidableEq, Repr, Inhabited

namespace Signal

/-- All signals in the order of reports. -/
def all : List Signal :=
  [deadCode, undocumented, similarPairs, complexityCritical, complexityHigh, largeFilesCritical,
    largeFilesWarning, ruleErrors, ruleWarnings, redundantDependencies]

def text : Signal → String
  | deadCode => "dead_code"
  | undocumented => "undocumented"
  | similarPairs => "similar_pairs"
  | complexityCritical => "complexity_critical"
  | complexityHigh => "complexity_high"
  | largeFilesCritical => "large_files_critical"
  | largeFilesWarning => "large_files_warning"
  | ruleErrors => "rule_errors"
  | ruleWarnings => "rule_warnings"
  | redundantDependencies => "redundant_dependencies"

/-- What the findings are called. -/
def label : Signal → String
  | deadCode => "dead code item(s)"
  | undocumented => "undocumented export(s)"
  | similarPairs => "similar function pair(s)"
  | complexityCritical => "function(s) with critical complexity"
  | complexityHigh => "function(s) with high complexity"
  | largeFilesCritical => "critically large file(s)"
  | largeFilesWarning => "large file(s)"
  | ruleErrors => "rule error(s)"
  | ruleWarnings => "rule warning(s)"
  | redundantDependencies => "redundant dependenc(ies)"

/-- Tenths of a point that a finding takes off. -/
def tenths : Signal → Nat
  | deadCode | ruleWarnings => 5
  | undocumented => 2
  | similarPairs | complexityHigh | largeFilesWarning => 10
  | ruleErrors | redundantDependencies => 20
  | complexityCritical | largeFilesCritical => 30

/-- Points that all findings together take off at most. -/
def cap : Signal → Nat
  | deadCode | complexityCritical | ruleErrors => 15
  | largeFilesWarning => 5
  | _ => 10

end Signal

inductive Rating where
  | excellent
  | good
  | warning
  | critical
  deriving DecidableEq, Repr, Inhabited

namespace Rating

def of (score : Nat) : Rating :=
  if 90 ≤ score then excellent else if 70 ≤ score then good
  else if 50 ≤ score then warning else critical

def text : Rating → String
  | excellent => "excellent"
  | good => "good"
  | warning => "warning"
  | critical => "critical"

end Rating

/-- The number of findings of each signal that was looked at. -/
abbrev Counts := Signal → Option Nat

structure PenaltyLine (α : Type) where
  signal : Signal
  count : Nat
  penalty : α
  deriving DecidableEq, Repr, Inhabited

structure Score (α : Type) where
  points : Nat
  rating : Rating
  topIssues : List String
  breakdown : List (PenaltyLine α)
  deriving DecidableEq, Repr, Inhabited

section

variable {α : Type} [Scale α]

def penalty (signal : Signal) (count : Nat) : α :=
  Scale.min (Scale.mul (Scale.ofNat count) (Scale.ratio signal.tenths 10)) (Scale.ofNat signal.cap)

/-- The signals that were looked at, in order. -/
def breakdown (counts : Counts) : List (PenaltyLine α) :=
  Signal.all.filterMap fun s => (counts s).map fun n => ⟨s, n, penalty s n⟩

def totalPenalty (lines : List (PenaltyLine α)) : α :=
  lines.foldl (fun total l => Scale.add total l.penalty) (Scale.ofNat 0)

/-- Number of issues that a report begins with. -/
def topCount : Nat := 5

/-- The first signals with findings. -/
def topIssues (lines : List (PenaltyLine α)) : List String :=
  ((lines.filter fun l => 0 < l.count).take topCount).map fun l => s!"{l.count} {l.signal.label}"

end

/-- The score on a scale. -/
def scoreOn (α : Type) [Scale α] (counts : Counts) : Score α :=
  let lines : List (PenaltyLine α) := breakdown counts
  let points := Scale.points (Scale.sub (Scale.ofNat 100) (totalPenalty lines))
  ⟨points, Rating.of points, topIssues lines, lines⟩

def score (counts : Counts) : Score Float := scoreOn Float counts

end ScriptSurvey.Health
