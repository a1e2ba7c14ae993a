/-!
# Runs of code points

Character classes and case maps are tables of arithmetic progressions of code points.
-/
namespace ScriptSurvey.Text

/-- The code points `first, first + step, ..., last`. -/
structure CharRun where
  first : Nat
  last : Nat
  step : Nat
  deriving DecidableEq, Repr

namespace CharRun

def contains (run : CharRun) (c : Char) : Bool :=
  run.first ≤ c.toNat && c.toNat ≤ run.last && (c.toNat - run.first) % run.step == 0

end CharRun

/-- Some run of the table holds the character. -/
def inRuns (runs : List CharRun) (c : Char) : Bool := runs.any (·.contains c)

/-- A run whose code points are all moved by the same distance. -/
structure CaseRun where
  first : Nat
  last : Nat
  step : Nat
  shift : Int
  deriving DecidableEq, Repr

namespace CaseRun

def contains (run : CaseRun) (c : Char) : Bool :=
  run.first ≤ c.toNat && c.toNat ≤ run.last && (c.toNat - run.first) % run.step == 0

def image (run : CaseRun) (c : Char) : Char :=
  Char.ofNat (Int.toNat (c.toNat + run.shift))

end CaseRun

/-- The character that the table maps `c` to; `c` itself when no run holds it. -/
def mapRuns (runs : List CaseRun) (c : Char) : Char :=
  match runs.find? (·.contains c) with
  | some run => run.image c
  | none => c

end ScriptSurvey.Text
