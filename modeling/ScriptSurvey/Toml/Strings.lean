import ScriptSurvey.Json.Reader

/-!
# TOML strings

Basic strings know escapes and literal strings do not; both come on one line or over several.
Reading functions start after the opening quotes and give back the text and the rest.
-/
namespace ScriptSurvey.Toml

/-- Control characters other than the tab stand in no string or comment. -/
def isForbidden (c : Char) : Bool := (c.toNat < 32 && c != '\t') || c.toNat == 127

def hexNumber? (digits : List Char) : Option Nat :=
  digits.foldlM (fun n c => (Json.hexDigit? c).map (n * 16 + ·)) 0

def scalar? (n : Nat) : Option Char :=
  if n < 0xD800 || (0xE000 ≤ n && n < 0x110000) then some (Char.ofNat n) else none

def codedChar? (count : Nat) (text : List Char) : Option (Char × List Char) :=
  let ds := text.take count
  if ds.length = count then ((hexNumber? ds).bind scalar?).map (·, text.drop count) else none

/-- The character of an escape and the rest after it. -/
def escape? : List Char → Option (Char × List Char)
  | 'b' :: rest => some ('\x08', rest)
  | 't' :: rest => some ('\t', rest)
  | 'n' :: rest => some ('\n', rest)
  | 'f' :: rest => some ('\x0c', rest)
  | 'r' :: rest => some ('\r', rest)
  | '"' :: rest => some ('"', rest)
  | '\\' :: rest => some ('\\', rest)
  | 'u' :: rest => codedChar? 4 rest
  | 'U' :: rest => codedChar? 8 rest
  | _ => none

def isInlineBlank (c : Char) : Bool := c == ' ' || c == '\t'

/-- The rest after a line ending, if one is next. -/
def newline? : List Char → Option (List Char)
  | '\n' :: rest => some rest
  | '\r' :: '\n' :: rest => some rest
  | _ => none

def skipInline (text : List Char) : List Char := text.dropWhile isInlineBlank

/-- Skips blanks and line endings. -/
def skipLines : Nat → List Char → List Char
  | 0, text => text
  | fuel + 1, text =>
    match text with
    | '\r' :: '\n' :: rest => skipLines fuel rest
    | c :: rest => if c == '\n' || isInlineBlank c then skipLines fuel rest else text
    | [] => []

/-- The rest after a line ending that a backslash takes away, with the blanks around it. -/
def foldedLine? (text : List Char) : Option (List Char) :=
  (newline? (skipInline text)).map fun rest => skipLines rest.length rest

abbrev Read := Option (String × List Char)

/-- `read` holds the characters so far, the last one first. -/
def basicRest : Nat → List Char → List Char → Read
  | 0, _, _ => none
  | fuel + 1, read, text =>
    match text with
    | '"' :: rest => some (String.ofList read.reverse, rest)
    | '\\' :: rest => (escape? rest).bind fun (c, after) => basicRest fuel (c :: read) after
    | c :: rest => if isForbidden c then none else basicRest fuel (c :: read) rest
    | [] => none

def literalRest : Nat → List Char → List Char → Read
  | 0, _, _ => none
  | fuel + 1, read, text =>
    match text with
    | '\'' :: rest => some (String.ofList read.reverse, rest)
    | c :: rest => if isForbidden c then none else literalRest fuel (c :: read) rest
    | [] => none

/-- Number of quotes at the front. -/
def quoteRun (quote : Char) (text : List Char) : Nat := (text.takeWhile (· == quote)).length

/-- Closes a string over several lines at a run of quotes: up to two more than the three that close
it belong to the text. -/
def closeRun (quote : Char) (read text : List Char) : Read :=
  let extra := quoteRun quote text - 3
  if extra ≤ 2 then
    some (String.ofList (read.reverse ++ List.replicate extra quote), text.drop (3 + extra))
  else none

def multiBasicRest : Nat → List Char → List Char → Read
  | 0, _, _ => none
  | fuel + 1, read, text =>
    match text with
    | '"' :: rest =>
      if 3 ≤ quoteRun '"' text then closeRun '"' read text
      else multiBasicRest fuel ('"' :: read) rest
    | '\\' :: rest =>
      match escape? rest with
      | some (c, after) => multiBasicRest fuel (c :: read) after
      | none => (foldedLine? rest).bind fun after => multiBasicRest fuel read after
    | c :: rest =>
      match newline? text with
      | some after => multiBasicRest fuel ('\n' :: read) after
      | none => if isForbidden c then none else multiBasicRest fuel (c :: read) rest
    | [] => none

def multiLiteralRest : Nat → List Char → List Char → Read
  | 0, _, _ => none
  | fuel + 1, read, text =>
    match text with
    | '\'' :: rest =>
      if 3 ≤ quoteRun '\'' text then closeRun '\'' read text
      else multiLiteralRest fuel ('\'' :: read) rest
    | c :: rest =>
      match newline? text with
      | some after => multiLiteralRest fuel ('\n' :: read) after
      | none => if isForbidden c then none else multiLiteralRest fuel (c :: read) rest
    | [] => none

/-- A line ending right after the opening quotes is no part of the text. -/
def afterOpening (text : List Char) : List Char := (newline? text).getD text

/-- A string of any form. -/
def readString (text : List Char) : Read :=
  match text with
  | '"' :: '"' :: '"' :: rest => multiBasicRest (rest.length + 1) [] (afterOpening rest)
  | '\'' :: '\'' :: '\'' :: rest => multiLiteralRest (rest.length + 1) [] (afterOpening rest)
  | '"' :: rest => basicRest (rest.length + 1) [] rest
  | '\'' :: rest => literalRest (rest.length + 1) [] rest
  | _ => none

/-- A string on one line. -/
def readPlainString (text : List Char) : Read :=
  match text with
  | '"' :: rest => basicRest (rest.length + 1) [] rest
  | '\'' :: rest => literalRest (rest.length + 1) [] rest
  | _ => none

end ScriptSurvey.Toml
