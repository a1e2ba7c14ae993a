import ScriptSurvey.Decimal.Binary64
import ScriptSurvey.Json.Value

/-!
# Writing JSON

Values are written on one line, or on several lines, two blanks deeper at each level; empty
containers stay on one line.
-/
namespace ScriptSurvey.Json

/-- An escape for a character that cannot stand in a string as it is. -/
def escapeText? (c : Char) : Option String :=
  match c with
  | '"' => some "\\\""
  | '\\' => some "\\\\"
  | '\x08' => some "\\b"
  | '\x0c' => some "\\f"
  | '\n' => some "\\n"
  | '\r' => some "\\r"
  | '\t' => some "\\t"
  | _ =>
    if c.toNat < 32 then
      let ds := String.ofList (Nat.toDigits 16 c.toNat)
      some ("\\u" ++ Decimal.zeros (4 - ds.length) ++ ds)
    else none

def writeString (text : String) : String :=
  "\"" ++ String.join (text.toList.map fun c => (escapeText? c).getD (String.singleton c)) ++ "\""

/-- Whole numbers are written plainly and floats with at least one decimal; very small and very
large floats get an exponent. -/
def writeNumber (n : Number) : String :=
  let sign := if n.negative then "-" else ""
  sign ++
    if n.integral then toString n.digits
    else if n.digits = 0 then "0.0"
    else
      let d : Decimal.Digits := ⟨n.digits, (toString n.digits).length + n.exponent⟩
      if d.point < -4 || 16 < d.point then d.scientific
      else if d.length ≤ d.point then d.positional ++ ".0"
      else d.positional

namespace Value

def ofNat (n : Nat) : Value := number ⟨false, n, 0, true⟩

def ofInt (n : Int) : Value := number ⟨n < 0, n.natAbs, 0, true⟩

/-- A float with the fewest digits; one that is not finite becomes null. -/
def ofBinary64 (x : Decimal.Binary64) : Value :=
  if x.isNaN || x.isInfinite then null
  else if x.isZero then number ⟨x.isNegative, 0, 0, false⟩
  else
    let d := Decimal.shortest x
    number ⟨x.isNegative, d.digits, d.unit, false⟩

def text (s : String) : Value := string (some s)

def texts (items : List String) : Value := array (items.map text)

/-- An object with the given fields in order. -/
def record (fields : List (String × Value)) : Value :=
  object (fields.map fun (k, v) => (some k, v))

def optional {α : Type} (encode : α → Value) (value : Option α) : Value :=
  (value.map encode).getD null

end Value

def indent (depth : Nat) : String := String.ofList (List.replicate (2 * depth) ' ')

/-- Items on lines of their own between brackets. -/
def block (depth : Nat) (opening closing : String) (items : List String) : String :=
  match items with
  | [] => opening ++ closing
  | _ =>
    let lines := items.map fun i => "\n" ++ indent (depth + 1) ++ i
    opening ++ ",".intercalate lines ++ "\n" ++ indent depth ++ closing

mutual

def writeAt (depth : Nat) : Value → String
  | .null => "null"
  | .bool b => if b then "true" else "false"
  | .number n => writeNumber n
  | .string content => writeString (content.getD "")
  | .array items => block depth "[" "]" (writeItems (depth + 1) items)
  | .object members => block depth "\x7b" "\x7d" (writeMembers (depth + 1) members)

def writeItems (depth : Nat) : List Value → List String
  | [] => []
  | v :: rest => writeAt depth v :: writeItems depth rest

def writeMembers (depth : Nat) : List (Option String × Value) → List String
  | [] => []
  | (k, v) :: rest => (writeString (k.getD "") ++ ": " ++ writeAt depth v) :: writeMembers depth rest

end

def pretty (value : Value) : String := writeAt 0 value

mutual

/-- The value on one line without blanks. -/
def compact : Value → String
  | .null => "null"
  | .bool b => if b then "true" else "false"
  | .number n => writeNumber n
  | .string content => writeString (content.getD "")
  | .array items => "[" ++ ",".intercalate (compactItems items) ++ "]"
  | .object members => "\x7b" ++ ",".intercalate (compactMembers members) ++ "\x7d"

def compactItems : List Value → List String
  | [] => []
  | v :: rest => compact v :: compactItems rest

def compactMembers : List (Option String × Value) → List String
  | [] => []
  | (k, v) :: rest => (writeString (k.getD "") ++ ":" ++ compact v) :: compactMembers rest

end

end ScriptSurvey.Json
