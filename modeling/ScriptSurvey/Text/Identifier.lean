import ScriptSurvey.Text.AlphanumericTable

/-!
# Identifiers in text

An occurrence of a name counts when no identifier character touches it on either side.
-/
namespace ScriptSurvey.Text

def isIdentifierChar (c : Char) : Bool := isAlphanumeric c || c == '_' || c == '$'

def touches (c : Option Char) : Bool := (c.map isIdentifierChar).getD false

/-- Scans for occurrences that do not overlap. `before` is the character in front of the text, and
`skip` counts the characters that belong to the occurrence found last. -/
def countFrom (name : List Char) : Option Char → Nat → List Char → Nat
  | _, _, [] => 0
  | _, skip + 1, c :: rest => countFrom name (some c) skip rest
  | before, 0, c :: rest =>
    if name.isPrefixOf (c :: rest) then
      let after := ((c :: rest).drop name.length).head?
      let here := if touches before || touches after then 0 else 1
      here + countFrom name (some c) (name.length - 1) rest
    else countFrom name (some c) 0 rest

/-- Occurrences of a name as a whole identifier. -/
def countIdentifier (text name : String) : Nat :=
  if name.isEmpty then 0 else countFrom name.toList none 0 text.toList

end ScriptSurvey.Text
