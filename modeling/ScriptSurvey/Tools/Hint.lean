import ScriptSurvey.Health.Score

/-!
# Hints

A hint at the end of a reply names the tool to call next. It stands on a line of its own; a reply
may have none.
-/
namespace ScriptSurvey.Tools.Hint

def line (text : String) : String := "\nhint: " ++ text

def graph (orphans : Nat) : String :=
  line (if 0 < orphans then "lookup_symbol <code> | alt: find_dead_code" else "lookup_symbol <code>")

def lookup (address : String) (hasCallees : Bool) : String :=
  line (if hasCallees then
    s!"lookup_symbol \"<callee>\" | alt: get_complexity (check {address} body)" else "get_graph")

def deadCode (total : Nat) : String :=
  line (if total = 0 then "get_health" else "lookup_symbol \"<name>\" to confirm before deleting")

def complexity (critical high : Nat) : String :=
  if 0 < critical + high then line "find_similar (complex functions are often duplicated)" else ""

def similarity (total : Nat) : String :=
  line (if 0 < total then "lookup_symbol \"<name>\" on both sides before merging"
    else "find_similar threshold=50")

def largeFiles (total : Nat) : String :=
  if 0 < total then line "get_complexity path=<file dir>" else ""

def rules (total setsRun : Nat) : String :=
  line (if setsRun = 0 then "list_rule_sets | alt: check_rules sets=[\"javascript\"]"
    else if total = 0 then "add_rule to encode a project convention"
    else "check_rules severity=error")

/-- The tool that shows the findings of a signal. -/
def toolOf? : Health.Signal → Option String
  | .deadCode => some "find_dead_code"
  | .similarPairs => some "find_similar"
  | .complexityCritical | .complexityHigh => some "get_complexity"
  | .largeFilesCritical | .largeFilesWarning => some "get_large_files"
  | .ruleErrors | .ruleWarnings => some "check_rules"
  | .undocumented | .redundantDependencies => none

/-- The line with the largest penalty, the last one of equals. -/
def heaviest? (lines : List (Health.PenaltyLine Float)) : Option (Health.PenaltyLine Float) :=
  lines.foldl (fun best l =>
    match best with
    | none => if 0 < l.penalty then some l else none
    | some b => if b.penalty ≤ l.penalty then some l else some b) none

def health (lines : List (Health.PenaltyLine Float)) : String :=
  (((heaviest? lines).bind fun l => toolOf? l.signal).map line).getD ""

def ruleSets : String := line "check_rules sets=[\"<name>\"] | alt: add_rule"

def ruleWrite (set : String) : String := line s!"check_rules sets=[\"{set}\"]"

end ScriptSurvey.Tools.Hint
