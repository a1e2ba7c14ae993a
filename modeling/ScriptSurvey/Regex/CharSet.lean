import ScriptSurvey.Text.FoldTable
import ScriptSurvey.Text.WordTable

/-!
# Character sets

The sets of characters that a pattern can name, with their Boolean combinations and their closure
under case.
-/
namespace ScriptSurvey.Regex

inductive CharSet where
  | none
  | range (first last : Char)
  | word
  | digit
  | blank
  | union (a b : CharSet)
  | inter (a b : CharSet)
  | minus (a b : CharSet)
  | exactlyOne (a b : CharSet)
  | complement (a : CharSet)
  /-- The characters that equal one of the set up to case; without Unicode, up to the case of
  ASCII letters. -/
  | folded (a : CharSet) (unicode : Bool)
  deriving DecidableEq, Repr, Inhabited

namespace CharSet

def contains (c : Char) : CharSet → Bool
  | none => false
  | range first last => first ≤ c && c ≤ last
  | word => Text.isWordChar c
  | digit => Text.isDecimalDigit c
  | blank => Text.isBlank c
  | union a b => a.contains c || b.contains c
  | inter a b => a.contains c && b.contains c
  | minus a b => a.contains c && !b.contains c
  | exactlyOne a b => a.contains c != b.contains c
  | complement a => !a.contains c
  | folded a unicode =>
    (if unicode then Text.caseVariants c else [c, c.toLower, c.toUpper]).any fun d => a.contains d

def single (c : Char) : CharSet := range c c

def all : CharSet := complement none

def ofRanges (ranges : List (Char × Char)) : CharSet :=
  ranges.foldr (fun r s => union (range r.1 r.2) s) none

def lowerLetters : Char × Char := ('a', 'z')

def upperLetters : Char × Char := ('A', 'Z')

def figures : Char × Char := ('0', '9')

/-- The named classes of ASCII characters. -/
def ofClassName? (name : String) : Option CharSet :=
  match name with
  | "alnum" => some (ofRanges [figures, upperLetters, lowerLetters])
  | "alpha" => some (ofRanges [upperLetters, lowerLetters])
  | "ascii" => some (ofRanges [('\x00', '\x7f')])
  | "blank" => some (ofRanges [('\t', '\t'), (' ', ' ')])
  | "cntrl" => some (ofRanges [('\x00', '\x1f'), ('\x7f', '\x7f')])
  | "digit" => some (ofRanges [figures])
  | "graph" => some (ofRanges [('!', '~')])
  | "lower" => some (ofRanges [lowerLetters])
  | "print" => some (ofRanges [(' ', '~')])
  | "punct" => some (ofRanges [('!', '/'), (':', '@'), ('[', '\x60'), ('\x7b', '~')])
  | "space" => some (ofRanges [('\t', '\r'), (' ', ' ')])
  | "upper" => some (ofRanges [upperLetters])
  | "word" => some (ofRanges [figures, upperLetters, ('_', '_'), lowerLetters])
  | "xdigit" => some (ofRanges [figures, ('A', 'F'), ('a', 'f')])
  | _ => Option.none

end CharSet

end ScriptSurvey.Regex
