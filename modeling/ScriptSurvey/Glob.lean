/-!
# Glob patterns

`?` stands for any character and `*` for any text, separators included; `[...]` for one of the
listed characters. A component `**` stands for any number of whole components, and at the end of a
pattern for everything below.
-/
namespace ScriptSurvey

namespace Glob

/-- One character or a range of them in brackets. -/
inductive CharSpec where
  | single (c : Char)
  | range (first last : Char)
  deriving DecidableEq, Repr, Inhabited

inductive Token where
  | char (c : Char)
  | any
  | oneOf (specs : List CharSpec)
  | noneOf (specs : List CharSpec)
  | sequence
  | components
  deriving DecidableEq, Repr, Inhabited

/-- Why a text is no pattern. -/
inductive Fault where
  | longRun
  | partialComponent
  | badRange
  deriving DecidableEq, Repr, Inhabited

/-- Positions count characters. -/
structure Error where
  position : Nat
  fault : Fault
  deriving DecidableEq, Repr, Inhabited

namespace Fault

def message : Fault → String
  | longRun => "wildcards are either regular `*` or recursive `**`"
  | partialComponent => "recursive wildcards must form a single path component"
  | badRange => "invalid range pattern"

end Fault

namespace Error

def message (e : Error) : String :=
  s!"Pattern syntax error near position {e.position}: " ++ e.fault.message

end Error

namespace CharSpec

def contains (c : Char) : CharSpec → Bool
  | single d => c == d
  | range first last => first ≤ c && c ≤ last

/-- A dash between two characters makes a range. -/
def ofChars : List Char → List CharSpec
  | a :: '-' :: b :: rest => range a b :: ofChars rest
  | a :: rest => single a :: ofChars rest
  | [] => []

end CharSpec

/-- The characters in brackets and the rest after them; the first one may be a closing bracket. -/
def bracketed? : List Char → Option (List Char × List Char)
  | [] => none
  | first :: rest =>
    let inner := rest.takeWhile (· != ']')
    match rest.dropWhile (· != ']') with
    | _ :: after => some (first :: inner, after)
    | [] => none

/-- The token that starts with a bracket, the rest after it and the number of characters read. -/
def bracketToken? (text : List Char) : Option (Token × List Char × Nat) :=
  match text with
  | '!' :: rest => (bracketed? rest).map fun (cs, after) =>
      (.noneOf (CharSpec.ofChars cs), after, cs.length + 3)
  | rest => (bracketed? rest).map fun (cs, after) =>
      (.oneOf (CharSpec.ofChars cs), after, cs.length + 2)

/-- Reads a run of stars that starts at `position`, given the character before it. -/
def starToken (position : Nat) (before : Option Char) (run : Nat) (rest : List Char) :
    Except Error (Token × List Char × Nat) :=
  if run = 1 then .ok (.sequence, rest, 1)
  else if run = 2 then
    if before == none || before == some '/' then
      match rest with
      | [] => .ok (.components, [], 2)
      | '/' :: after => .ok (.components, after, 3)
      | _ => .error ⟨position + 2, .partialComponent⟩
    else .error ⟨position - 1, .partialComponent⟩
  else .error ⟨position + 2, .longRun⟩

/-- The first token of a pattern that is not empty. -/
def nextToken (position : Nat) (before : Option Char) (c : Char) (rest : List Char) :
    Except Error (Token × List Char × Nat) :=
  if c == '?' then .ok (.any, rest, 1)
  else if c == '*' then
    starToken position before (rest.takeWhile (· == '*')).length.succ (rest.dropWhile (· == '*'))
  else if c == '[' then
    match bracketToken? rest with
    | some token => .ok token
    | none => .error ⟨position, .badRange⟩
  else .ok (.char c, rest, 1)

/-- Reads tokens; each uses up characters, so as many steps as characters are enough. -/
def tokensFrom (text : List Char) : Nat → Nat → List Char → Except Error (List Token)
  | 0, _, _ => .ok []
  | _, _, [] => .ok []
  | fuel + 1, position, c :: rest => do
    let before := if position = 0 then none else text[position - 1]?
    let (token, after, length) ← nextToken position before c rest
    let tokens ← tokensFrom text fuel (position + length) after
    return token :: tokens

/-- What is left after each separator. -/
def afterSeparators : List Char → List (List Char)
  | [] => []
  | c :: rest => if c == '/' then rest :: afterSeparators rest else afterSeparators rest

/-- What is left after any number of characters. -/
def suffixes : List Char → List (List Char)
  | [] => [[]]
  | c :: rest => (c :: rest) :: suffixes rest

def accepts (c : Char) : Token → Bool
  | .char d => c == d
  | .any => true
  | .oneOf specs => specs.any (·.contains c)
  | .noneOf specs => !specs.any (·.contains c)
  | .sequence | .components => false

def matchTokens : List Token → List Char → Bool
  | [], text => text.isEmpty
  | .sequence :: tokens, text => (suffixes text).any fun rest => matchTokens tokens rest
  | .components :: tokens, text =>
    (text :: afterSeparators text ++ [[]]).any fun rest => matchTokens tokens rest
  | token :: tokens, text =>
    match text with
    | c :: rest => accepts c token && matchTokens tokens rest
    | [] => false

end Glob

structure Glob where
  tokens : List Glob.Token
  deriving DecidableEq, Repr, Inhabited

namespace Glob

def parse (pattern : String) : Except Error Glob :=
  let text := pattern.toList
  (tokensFrom text text.length 0 text).map (⟨·⟩)

def isMatch (glob : Glob) (text : String) : Bool := matchTokens glob.tokens text.toList

end Glob

end ScriptSurvey
