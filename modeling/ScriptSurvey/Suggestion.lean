import ScriptSurvey.Text.LetterCase

/-!
# Close names

Names are compared by the triples of neighbouring characters they share, as exact fractions.
-/
namespace ScriptSurvey.Suggestion

abbrev Trigram := Char × Char × Char

/-- All triples of neighbours in order. -/
def windows : List Char → List Trigram
  | a :: b :: c :: rest => (a, b, c) :: windows (b :: c :: rest)
  | _ => []

/-- The distinct triples of a name, without regard to case. -/
def trigrams (name : String) : List Trigram :=
  (windows (Text.lowercase name).toList).eraseDups

/-- Shared triples over all triples. -/
structure Similarity where
  shared : Nat
  total : Nat
  deriving DecidableEq, Repr, Inhabited

namespace Similarity

def of (a b : List Trigram) : Similarity :=
  let shared := (a.filter b.contains).length
  ⟨shared, a.length + b.length - shared⟩

/-- At least three tenths; nothing is similar when there are no triples. -/
def isClose (s : Similarity) : Bool := 0 < s.total && 3 * s.total ≤ 10 * s.shared

/-- Compares two fractions by cross multiplication. -/
def atLeast (s t : Similarity) : Bool := t.shared * s.total ≤ s.shared * t.total

end Similarity

/-- Removes entries whose name is that of the entry before. -/
def dropRepeats : List (String × Similarity) → List (String × Similarity)
  | a :: b :: rest =>
    if a.1 == b.1 then dropRepeats (a :: rest) else a :: dropRepeats (b :: rest)
  | short => short
termination_by l => l.length

def limit : Nat := 3

/-- The candidates closest to the query, the closest first; ties keep their order. -/
def closest (candidates : List String) (query : String) : List String :=
  let wanted := trigrams query
  if wanted.isEmpty then []
  else
    let scored := candidates.map fun name => (name, Similarity.of wanted (trigrams name))
    let close := scored.filter (·.2.isClose)
    ((dropRepeats (close.mergeSort fun a b => a.2.atLeast b.2)).take limit).map (·.1)

end ScriptSurvey.Suggestion
