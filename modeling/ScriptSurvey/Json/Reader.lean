import ScriptSurvey.Json.Value

/-!
# Reading JSON

The reader follows the JSON grammar to the letter. Each reading function takes the characters that
are left and gives back those it leaves.
-/
namespace ScriptSurvey.Json

def isSpace (c : Char) : Bool := c == ' ' || c == '\n' || c == '\t' || c == '\r'

def skipSpace (text : List Char) : List Char := text.dropWhile isSpace

def hexDigit? (c : Char) : Option Nat :=
  if '0' ≤ c && c ≤ '9' then some (c.toNat - '0'.toNat)
  else if 'a' ≤ c && c ≤ 'f' then some (c.toNat - 'a'.toNat + 10)
  else if 'A' ≤ c && c ≤ 'F' then some (c.toNat - 'A'.toNat + 10)
  else none

/-- The number that four hexadecimal digits write. -/
def hexUnit? : List Char → Option (Nat × List Char)
  | a :: b :: c :: d :: rest =>
    match hexDigit? a, hexDigit? b, hexDigit? c, hexDigit? d with
    | some a, some b, some c, some d => some (a * 4096 + b * 256 + c * 16 + d, rest)
    | _, _, _, _ => none
  | _ => none

def isHighSurrogate (unit : Nat) : Bool := 0xD800 ≤ unit && unit < 0xDC00

def isLowSurrogate (unit : Nat) : Bool := 0xDC00 ≤ unit && unit < 0xE000

/-- The character of an escape with digits; a pair of surrogates is one character and a lone
surrogate none. -/
def escapedUnit? (text : List Char) : Option (Option Char × List Char) :=
  (hexUnit? text).map fun (unit, rest) =>
    if isHighSurrogate unit then
      match rest with
      | '\\' :: 'u' :: more =>
        match hexUnit? more with
        | some (low, after) =>
          if isLowSurrogate low then
            (some (Char.ofNat (0x10000 + (unit - 0xD800) * 1024 + (low - 0xDC00))), after)
          else (none, rest)
        | none => (none, rest)
      | _ => (none, rest)
    else if isLowSurrogate unit then (none, rest)
    else (some (Char.ofNat unit), rest)

def escapeChar? (c : Char) : Option Char :=
  match c with
  | '"' => some '"'
  | '\\' => some '\\'
  | '/' => some '/'
  | 'b' => some '\x08'
  | 'f' => some '\x0c'
  | 'n' => some '\n'
  | 'r' => some '\r'
  | 't' => some '\t'
  | _ => none

/-- The rest of a string after its opening quote. `read` holds the characters so far, the last one
first, and nothing once a lone surrogate was read. -/
def readString : Nat → Option (List Char) → List Char → Option (Option String × List Char)
  | 0, _, _ => none
  | fuel + 1, read, text =>
    match text with
    | '"' :: rest => some (read.map fun cs => String.ofList cs.reverse, rest)
    | '\\' :: 'u' :: rest =>
      match escapedUnit? rest with
      | some (c, after) => readString fuel (read.bind fun cs => c.map (· :: cs)) after
      | none => none
    | '\\' :: c :: rest =>
      match escapeChar? c with
      | some e => readString fuel (read.map (e :: ·)) rest
      | none => none
    | c :: rest =>
      if c.toNat < 32 || c == '\\' then none else readString fuel (read.map (c :: ·)) rest
    | [] => none

def digitsOf (text : List Char) : List Char × List Char :=
  (text.takeWhile Char.isDigit, text.dropWhile Char.isDigit)

def natOf (digits : List Char) : Nat :=
  digits.foldl (fun n c => n * 10 + (c.toNat - '0'.toNat)) 0

/-- A fraction, if one follows. -/
def readFraction : List Char → Option (List Char × List Char)
  | '.' :: rest =>
    let (digits, after) := digitsOf rest
    if digits.isEmpty then none else some (digits, after)
  | text => some ([], text)

/-- An exponent, if one follows, and whether there was one. -/
def readExponent (text : List Char) : Option (Int × Bool × List Char) :=
  match text with
  | c :: rest =>
    if c == 'e' || c == 'E' then
      let (negative, body) := match rest with
        | '-' :: more => (true, more)
        | '+' :: more => (false, more)
        | _ => (false, rest)
      let (digits, after) := digitsOf body
      if digits.isEmpty then none
      else
        let n : Int := natOf digits
        some (if negative then -n else n, true, after)
    else some (0, false, text)
  | [] => some (0, false, [])

def readNumber (text : List Char) : Option (Number × List Char) :=
  let (negative, body) := match text with
    | '-' :: rest => (true, rest)
    | _ => (false, text)
  let (whole, afterWhole) := digitsOf body
  match whole with
  | [] => none
  | '0' :: _ :: _ => none
  | _ =>
    (readFraction afterWhole).bind fun (fraction, afterFraction) =>
      (readExponent afterFraction).map fun (exponent, hasExponent, rest) =>
        (⟨negative, natOf (whole ++ fraction), exponent - fraction.length,
          fraction.isEmpty && !hasExponent⟩, rest)

def dropLiteral? (literal : String) (text : List Char) : Option (List Char) :=
  let cs := literal.toList
  if cs.isPrefixOf text then some (text.drop cs.length) else none

mutual

def readValue : Nat → List Char → Option (Value × List Char)
  | 0, _ => none
  | fuel + 1, text =>
    match skipSpace text with
    | '{' :: rest =>
      match skipSpace rest with
      | '}' :: after => some (.object [], after)
      | _ => (readMembers fuel rest).map fun (ms, after) => (.object ms, after)
    | '[' :: rest =>
      match skipSpace rest with
      | ']' :: after => some (.array [], after)
      | _ => (readItems fuel rest).map fun (vs, after) => (.array vs, after)
    | '"' :: rest => (readString (rest.length + 1) (some []) rest).map fun (s, after) =>
        (.string s, after)
    | 't' :: rest => (dropLiteral? "rue" rest).map fun after => (.bool true, after)
    | 'f' :: rest => (dropLiteral? "alse" rest).map fun after => (.bool false, after)
    | 'n' :: rest => (dropLiteral? "ull" rest).map fun after => (.null, after)
    | rest => (readNumber rest).map fun (n, after) => (.number n, after)

def readItems : Nat → List Char → Option (List Value × List Char)
  | 0, _ => none
  | fuel + 1, text =>
    (readValue fuel text).bind fun (v, rest) =>
      match skipSpace rest with
      | ',' :: more => (readItems fuel more).map fun (vs, after) => (v :: vs, after)
      | ']' :: after => some ([v], after)
      | _ => none

def readMembers : Nat → List Char → Option (List (Option String × Value) × List Char)
  | 0, _ => none
  | fuel + 1, text =>
    match skipSpace text with
    | '"' :: rest =>
      (readString (rest.length + 1) (some []) rest).bind fun (key, afterKey) =>
        match skipSpace afterKey with
        | ':' :: more =>
          (readValue fuel more).bind fun (v, afterValue) =>
            match skipSpace afterValue with
            | ',' :: next => (readMembers fuel next).map fun (ms, after) => ((key, v) :: ms, after)
            | '}' :: after => some ([(key, v)], after)
            | _ => none
        | _ => none
    | _ => none

end

/-- The value that the text writes; every level of nesting uses up characters. -/
def parse? (text : String) : Option Value :=
  let chars := text.toList
  (readValue (2 * chars.length + 2) chars).bind fun (v, rest) =>
    if (skipSpace rest).isEmpty then some v else none

end ScriptSurvey.Json
