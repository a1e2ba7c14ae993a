import ScriptSurvey.Config
import ScriptSurvey.Project

/-!
# File sizes

A file is measured by its lines, functions, classes and exports. Each measure over a threshold
costs points, and the points rate the file.
-/
namespace ScriptSurvey.FileSize

inductive Rating where
  | ok
  | warning
  | critical
  deriving DecidableEq, Repr, Inhabited

namespace Rating

def of (points : Nat) : Rating :=
  if 4 ≤ points then critical else if 2 ≤ points then warning else ok

def text : Rating → String
  | ok => "ok"
  | warning => "warning"
  | critical => "critical"

end Rating

structure Item where
  file : Path
  lines : Nat
  functions : Nat
  classes : Nat
  exports : Nat
  points : Nat
  rating : Rating
  reasons : List String
  deriving DecidableEq, Repr, Inhabited

def pointsOf (tiers : Tiers) (value : Nat) : Nat :=
  if tiers.upper < value then 2 else if tiers.lower < value then 1 else 0

def reason? (label : String) (tiers : Tiers) (value : Nat) : Option String :=
  if tiers.upper < value then some s!"{value} {label} (>{tiers.upper})"
  else if tiers.lower < value then some s!"{value} {label} (>{tiers.lower})"
  else none

def measureCounts (file : Path) (thresholds : FileSizeConfig)
    (lines functions classes exports : Nat) : Item :=
  let measures := [("lines", thresholds.lines, lines),
    ("functions", thresholds.functions, functions), ("classes", thresholds.classes, classes),
    ("exports", thresholds.exports, exports)]
  let points := measures.foldr (fun (_, tiers, value) total => pointsOf tiers value + total) 0
  ⟨file, lines, functions, classes, exports, points, Rating.of points,
    measures.filterMap fun (label, tiers, value) => reason? label tiers value⟩

def measure (file : Path) (thresholds : FileSizeConfig) (sheet : FactSheet) : Item :=
  measureCounts file thresholds sheet.lineCount sheet.functions.length sheet.classes.length
    sheet.exports.length

/-- More points first, then more lines, then files by path. -/
def itemLe (a b : Item) : Bool :=
  ((compare b.points a.points).then
    ((compare b.lines a.lines).then (compare a.file b.file))).isLE

structure Stats where
  files : Nat
  critical : Nat
  warning : Nat
  deriving DecidableEq, Repr, Inhabited

/-- `total` counts the files with a bad rating, of which the first ones are kept. -/
structure Report where
  total : Nat
  stats : Stats
  items : List Item
  deriving DecidableEq, Repr, Inhabited

/-- All files below `scope`, measured. -/
def measured (project : Project) (scope : Path) (thresholds : FileSizeConfig) : List Item :=
  ((project.inScope scope).filter fun s =>
    !FileRole.isGenerated (project.relative s.path).toString).map fun s =>
      measure (project.relative s.path) thresholds s

/-- The files with a bad rating, in order. -/
def items (project : Project) (scope : Path) (thresholds : FileSizeConfig) : List Item :=
  ((measured project scope thresholds).filter (·.rating != .ok)).mergeSort itemLe

def report (project : Project) (scope : Path) (thresholds : FileSizeConfig) (limit : Nat) :
    Report :=
  let all := measured project scope thresholds
  let bad := items project scope thresholds
  ⟨bad.length, ⟨all.length, all.countP (·.rating == .critical), all.countP (·.rating == .warning)⟩,
    bad.take limit⟩

end ScriptSurvey.FileSize
