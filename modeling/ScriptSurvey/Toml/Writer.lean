import ScriptSurvey.Toml.Value

/-!
# Writing TOML

Plain values come first, then tables under their headers and arrays of tables, each with a blank
line before its header. A table that holds nothing but tables has no header of its own.
-/
namespace ScriptSurvey.Toml

/-- What a text needs from the form in which it is written. -/
structure Needs where
  controls : Bool
  backslash : Bool
  newline : Bool
  doubleRun : Nat
  singleRun : Nat
  deriving DecidableEq, Repr

/-- The longest run of a character, where `current` of them end right before the text. -/
def longestRun (c : Char) (current best : Nat) : List Char → Nat
  | [] => max current best
  | d :: rest =>
    if d == c then longestRun c (current + 1) best rest else longestRun c 0 (max current best) rest

/-- A control character that only an escape can write; tab and line feed are none. -/
def isControl (c : Char) : Bool :=
  (c.toNat < 32 && c != '\t' && c != '\n') || c.toNat == 127

def needsOf (text : List Char) : Needs :=
  ⟨text.any isControl, text.contains '\\', text.contains '\n', longestRun '"' 0 0 text,
    longestRun '\'' 0 0 text⟩

/-- The escape of a character in a basic string. -/
def escapeOf? (multiline : Bool) (c : Char) : Option String :=
  match c with
  | '\x08' => some "\\b"
  | '\t' => some "\\t"
  | '\n' => if multiline then none else some "\\n"
  | '\x0c' => some "\\f"
  | '\r' => some "\\r"
  | '\\' => some "\\\\"
  | _ =>
    if isControl c then
      let ds := String.ofList ((Nat.toDigits 16 c.toNat).map Char.toUpper)
      some ("\\u" ++ Decimal.zeros (4 - ds.length) ++ ds)
    else none

/-- The body of a basic string. On one line every quote is escaped, over several lines every third
of a run; `run` counts the quotes right before. -/
def escapedBody (multiline : Bool) (run : Nat) : List Char → List String
  | [] => []
  | c :: rest =>
    if c == '"' then
      if (if multiline then 2 else 0) < run + 1 then "\\\"" :: escapedBody multiline 0 rest
      else "\"" :: escapedBody multiline (run + 1) rest
    else match escapeOf? multiline c with
      | some e => e :: escapedBody multiline 0 rest
      | none => String.singleton c :: escapedBody multiline 0 rest

def basic (text : List Char) : String := "\"" ++ String.join (escapedBody false 0 text) ++ "\""

def tripleDouble : String := "\"\"\""

def tripleSingle : String := String.ofList ['\'', '\'', '\'']

def single : String := String.singleton '\''

/-- The first line of a text with several lines starts below the quotes. -/
def lead (needs : Needs) : String := if needs.newline then "\n" else ""

/-- A text in the plainest form that can hold it. -/
def writeString (text : String) : String :=
  let cs := text.toList
  let needs := needsOf cs
  let oneLine := !needs.controls && !needs.newline
  if oneLine && !needs.backslash && needs.doubleRun = 0 then basic cs
  else if oneLine && needs.singleRun = 0 then single ++ text ++ single
  else if !needs.controls && !needs.backslash && needs.doubleRun ≤ 2 then
    tripleDouble ++ lead needs ++ String.join (escapedBody true 0 cs) ++ tripleDouble
  else if !needs.controls && needs.singleRun ≤ 2 then
    tripleSingle ++ lead needs ++ text ++ tripleSingle
  else if needs.newline then
    tripleDouble ++ lead needs ++ String.join (escapedBody true 0 cs) ++ tripleDouble
  else basic cs

def isBareKeyChar (c : Char) : Bool := c.isAlphanum || c == '_' || c == '-'

/-- A key without quotes when it can be. -/
def writeKey (key : String) : String :=
  let cs := key.toList
  let needs := needsOf cs
  if !cs.isEmpty && cs.all isBareKeyChar then key
  else
    let oneLine := !needs.controls && !needs.newline
    if oneLine && !needs.backslash && needs.doubleRun = 0 then basic cs
    else if oneLine && needs.singleRun = 0 then single ++ key ++ single
    else basic cs

/-- A float always shows a fraction. -/
def writeFloat (x : Decimal.Binary64) : String :=
  let sign := if x.isNegative then "-" else ""
  sign ++
    if x.isNaN then "nan"
    else if x.isInfinite then "inf"
    else if x.isZero then "0.0"
    else
      let d := Decimal.shortest x
      if d.length ≤ d.point then d.positional ++ ".0" else d.positional

mutual

/-- A value on the right of a key or inside an array. -/
def writeValue : Value → String
  | .string s => writeString s
  | .integer n => toString n
  | .float x => writeFloat x
  | .boolean b => if b then "true" else "false"
  | .datetime t => t
  | .array items => writeArray (writeItems items)
  | .table entries =>
    match writeEntries entries with
    | [] => "\x7b\x7d"
    | texts => "\x7b " ++ ", ".intercalate texts ++ " \x7d"

/-- Several items stand on lines of their own. -/
def writeArray : List String → String
  | [] => "[]"
  | [item] => "[" ++ item ++ "]"
  | items => "[" ++ String.join (items.map fun i => "\n    " ++ i ++ ",") ++ "\n]"

def writeItems : List Value → List String
  | [] => []
  | v :: rest => writeValue v :: writeItems rest

def writeEntries : List (String × Value) → List String
  | [] => []
  | (k, v) :: rest => (writeKey k ++ " = " ++ writeValue v) :: writeEntries rest

end

/-- The tables in an array that holds nothing but tables, and at least one. -/
def tableItems? (items : List Value) : Option (List Table) :=
  if items.isEmpty then none
  else items.mapM fun v => match v with
    | .table entries => some entries
    | _ => none

/-- The value is written under a header of its own. -/
def isSection : Value → Bool
  | .table _ => true
  | .array items => (tableItems? items).isSome
  | _ => false

/-- How the header of a section is written, if at all. -/
inductive Header where
  | none
  | table
  | element
  deriving DecidableEq, Repr

/-- A section in the order of writing, with its own plain entries. -/
structure Section where
  header : Header
  path : List String
  entries : Table

mutual

/-- The sections that a value under a key makes. -/
def valueSections (path : List String) : Value → List Section
  | .table entries => tableSections .table path entries
  | .array items => if isSection (.array items) then itemSections path items else []
  | _ => []

def itemSections (path : List String) : List Value → List Section
  | [] => []
  | .table entries :: rest => tableSections .element path entries ++ itemSections path rest
  | _ :: rest => itemSections path rest

/-- A table that holds only tables, and at least one, needs no header. -/
def tableSections (header : Header) (path : List String) (entries : Table) : List Section :=
  let plain := entries.filter fun e => !isSection e.2
  let shown := if header == .table && plain.isEmpty && !entries.isEmpty then .none else header
  ⟨shown, path, plain⟩ :: entrySections path entries

def entrySections (path : List String) : Table → List Section
  | [] => []
  | (k, v) :: rest => valueSections (path ++ [k]) v ++ entrySections path rest

end

def writeSection (s : Section) : String :=
  let name := ".".intercalate (s.path.map writeKey)
  let header := match s.header with
    | .none => ""
    | .table => "\n[" ++ name ++ "]\n"
    | .element => "\n[[" ++ name ++ "]]\n"
  header ++ String.join ((writeEntries s.entries).map (· ++ "\n"))

/-- The text of a document. -/
def write (document : Table) : String :=
  let text := String.join ((tableSections .none [] document).map writeSection)
  if text.startsWith "\n" then String.ofList (text.toList.drop 1) else text

end ScriptSurvey.Toml
