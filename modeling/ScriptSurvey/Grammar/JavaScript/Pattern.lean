import ScriptSurvey.Grammar.JavaScript.Phrase

/-!
# Patterns

What takes a value apart and names the pieces, and the places that a piece can be stored in.
-/
namespace ScriptSurvey.Grammar.JavaScript

open Grammar.Form (maybe field node wrap many)

def member : Form :=
  field "property" (leaf "private_property_identifier" Scan.privateName
    <|> leaf "property_identifier" Scan.propertyName)

def chainMark : Form := field "optional_chain" (leaf "optional_chain" (Scan.exactly "?."))

def memberAccess : Form :=
  wrap "member_expression" "object" ((mark "." <|> chainMark) ++ member)
    <|> wrap "subscript_expression" "object"
      (maybe chainMark ++ mark "[" ++ field "index" sequence ++ mark "]")

/-- A variable or a member of one. -/
def reference : Form := (identifier <|> word "this") ++ many memberAccess

/-- A pattern with a value for when there is none. -/
def withDefault : Form :=
  pattern ++ maybe (wrap "assignment_pattern" "left" (mark "=" ++ field "right" expression))

def restPattern : Form := node "rest_pattern" (mark "..." ++ pattern)

def patternProperty : Form :=
  anyOf [
    node "pair_pattern" (field "key" propertyName ++ mark ":" ++ field "value" withDefault),
    restPattern,
    leaf "shorthand_property_identifier_pattern" Scan.identifier
      ++ maybe (wrap "object_assignment_pattern" "left"
        (mark "=" ++ field "right" expression))]

def destructuring : Form :=
  node "object_pattern" (braced (listed patternProperty))
    <|> node "array_pattern" (bracketed (listed (restPattern <|> withDefault)))

def parameterList : Form :=
  node "formal_parameters" (parenthesized (commaList (restPattern <|> withDefault)))

end ScriptSurvey.Grammar.JavaScript
