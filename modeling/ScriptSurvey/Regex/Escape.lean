import ScriptSurvey.Json.Reader
import ScriptSurvey.Regex.Pattern

/-!
# Escapes in patterns

What a backslash and the characters after it stand for. Every reader leaves the rest of the text
and fails on a text that is no pattern. Left out are the classes of Unicode properties, `\p` and
`\P`: a pattern with one of them does not compile.
-/
namespace ScriptSurvey.Regex

structure Flags where
  ignoreCase : Bool
  multiLine : Bool
  dotAll : Bool
  swapGreed : Bool
  unicode : Bool
  returnEndsLine : Bool
  verbose : Bool
  deriving DecidableEq, Repr, Inhabited

namespace Flags

def initial : Flags := ⟨false, false, false, false, true, false, false⟩

/-- Sets the flag of a letter. -/
def set? (flags : Flags) (letter : Char) (value : Bool) : Option Flags :=
  match letter with
  | 'i' => some { flags with ignoreCase := value }
  | 'm' => some { flags with multiLine := value }
  | 's' => some { flags with dotAll := value }
  | 'U' => some { flags with swapGreed := value }
  | 'u' => some { flags with unicode := value }
  | 'R' => some { flags with returnEndsLine := value }
  | 'x' => some { flags with verbose := value }
  | _ => none

end Flags

/-- Drops white space and comments; `inComment` until the end of the line. -/
def dropFiller (inComment : Bool) : List Char → List Char
  | [] => []
  | c :: rest =>
    if inComment then dropFiller (c != '\n') rest
    else if c == '#' then dropFiller true rest
    else if Text.isBlank c then dropFiller false rest
    else c :: rest

/-- The rest of a pattern with filler dropped, where the flags allow filler. -/
def skipFiller (flags : Flags) (text : List Char) : List Char :=
  if flags.verbose then dropFiller false text else text

/-- What a single item of a pattern stands for. -/
inductive Piece where
  | literal (c : Char)
  | set (s : CharSet)
  | assertion (a : Assertion)
  deriving DecidableEq, Repr, Inhabited

/-- Reads `count` hexadecimal digits with filler between them. -/
def fixedHex? (flags : Flags) (value : Nat) : Nat → List Char → Option (Nat × List Char)
  | 0, text => some (value, text)
  | count + 1, text =>
    match text with
    | [] => none
    | c :: rest => (Json.hexDigit? c).bind fun d =>
        fixedHex? flags (16 * value + d) count (skipFiller flags rest)

/-- Reads hexadecimal digits up to a closing brace. -/
def bracedHex? (flags : Flags) (value : Option Nat) : Nat → List Char → Option (Nat × List Char)
  | 0, _ => none
  | fuel + 1, text =>
    match skipFiller flags text with
    | [] => none
    | '\x7d' :: rest => value.map fun v => (v, skipFiller flags rest)
    | c :: rest => (Json.hexDigit? c).bind fun d =>
        bracedHex? flags (some (16 * value.getD 0 + d)) fuel rest

def scalar? (n : Nat) : Option Char :=
  if n < 0xD800 || (0xDFFF < n && n < 0x110000) then some (Char.ofNat n) else none

/-- A character by its code in `count` digits, or in any number of digits between braces. -/
def codedChar? (flags : Flags) (count : Nat) (text : List Char) : Option (Char × List Char) :=
  let read := match skipFiller flags text with
    | '\x7b' :: rest => bracedHex? flags none (rest.length + 1) rest
    | rest => fixedHex? flags 0 count rest
  read.bind fun (n, rest) => (scalar? n).map fun c => (c, rest)

/-- The classes that have a letter; a capital one stands for the complement. Only the complements
of full classes are sets of characters. -/
def letterClass? (flags : Flags) (letter : Char) : Option CharSet :=
  let base := match letter.toLower with
    | 'd' => if flags.unicode then some CharSet.digit else CharSet.ofClassName? "digit"
    | 's' => if flags.unicode then some CharSet.blank else CharSet.ofClassName? "space"
    | 'w' => if flags.unicode then some CharSet.word else CharSet.ofClassName? "word"
    | _ => none
  if letter.isUpper then (base.filter fun _ => flags.unicode).map .complement else base

def isBoundaryNameChar (c : Char) : Bool := c.isAlpha || c == '-'

/-- The name between braces after a word boundary, read to its end. -/
def boundaryName (flags : Flags) (read : List Char) : Nat → List Char → List Char × List Char
  | 0, text => (read, text)
  | fuel + 1, text =>
    match text with
    | c :: rest =>
      if isBoundaryNameChar c then boundaryName flags (read ++ [c]) fuel (skipFiller flags rest)
      else (read, text)
    | [] => (read, text)

def namedBoundary? (name : String) : Option WordPlace :=
  match name with
  | "start" => some .start
  | "end" => some .stop
  | "start-half" => some .beforeHalf
  | "end-half" => some .afterHalf
  | _ => none

/-- A word boundary, with a name in braces or without. Braces around anything else are left for a
repetition. -/
def boundary? (flags : Flags) (text : List Char) : Option (WordPlace × List Char) :=
  match text with
  | '\x7b' :: rest =>
    match skipFiller flags rest with
    | [] => none
    | c :: more =>
      if isBoundaryNameChar c then
        match boundaryName flags [] (more.length + 1) (c :: more) with
        | (name, '\x7d' :: after) => (namedBoundary? (String.ofList name)).map (·, after)
        | _ => none
      else some (.boundary, text)
  | _ => some (.boundary, text)

def controlChar? (letter : Char) : Option Char :=
  match letter with
  | 'a' => some '\x07'
  | 'f' => some '\x0c'
  | 't' => some '\t'
  | 'n' => some '\n'
  | 'r' => some '\r'
  | 'v' => some '\x0b'
  | _ => none

/-- A mark that a backslash makes an ordinary character. -/
def isEscapable (c : Char) : Bool :=
  c.toNat < 128 && !c.isAlphanum && c != '<' && c != '>'

/-- A character by two digits is a byte without Unicode, and only the ASCII ones are text. -/
def byteChar? (flags : Flags) (text : List Char) : Option (Char × List Char) :=
  let isByte := (skipFiller flags text).head? != some '\x7b' && !flags.unicode
  (codedChar? flags 2 text).filter fun (c, _) => !isByte || c.toNat < 128

/-- Reads what follows a backslash. -/
def escape? (flags : Flags) : List Char → Option (Piece × List Char)
  | [] => none
  | c :: rest =>
    match c with
    | 'x' => (byteChar? flags rest).map fun (d, after) => (.literal d, after)
    | 'u' => (codedChar? flags 4 rest).map fun (d, after) => (.literal d, after)
    | 'U' => (codedChar? flags 8 rest).map fun (d, after) => (.literal d, after)
    | 'A' => some (.assertion .textStart, rest)
    | 'z' => some (.assertion .textEnd, rest)
    | 'b' =>
      (boundary? flags rest).map fun (p, after) => (.assertion (.word p flags.unicode), after)
    | 'B' => some (.assertion (.word .inside flags.unicode), rest)
    | '<' => some (.assertion (.word .start flags.unicode), rest)
    | '>' => some (.assertion (.word .stop flags.unicode), rest)
    | _ =>
      if isEscapable c then some (.literal c, rest)
      else match controlChar? c with
        | some d => some (.literal d, rest)
        | none => (letterClass? flags c).map fun s => (.set s, rest)

end ScriptSurvey.Regex
