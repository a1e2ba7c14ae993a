import ScriptSurvey.Grammar.JavaScript.Phrase

/-!
# Elements

Markup inside of a script: tags with attributes, and between them text and expressions.
-/
namespace ScriptSurvey.Grammar.JavaScript

open Grammar.Form (maybe field node wrap many)

/-- A name with dashes in it. -/
def dashedName : Scan := fun text =>
  if Scan.propertyName text == 0 then 0
  else (text.takeWhile fun c => Scan.isWordChar c || c == '-').length

def verbatim (text : String) : Form := .lexeme text false true (Scan.literally text)

def elementName : Form :=
  field "name" (leaf "identifier" dashedName
    ++ many (wrap "member_expression" "object"
      (mark "." ++ field "property" (leaf "property_identifier" Scan.propertyName))))

/-- An expression in braces, or nothing in braces. -/
def inserted : Form :=
  node "jsx_expression" (braced (maybe (node "spread_element" (mark "..." ++ expression)
    <|> sequence)))

def attributeText (quote : Char) : Form :=
  let q := quote.toString
  node "string" (verbatim q
    ++ maybe (tightLeaf "string_fragment" fun text => (text.takeWhile (· != quote)).length)
    ++ tight q)

def elementAttribute : Form :=
  inserted <|> node "jsx_attribute" (leaf "property_identifier" dashedName
    ++ maybe (mark "=" ++ anyOf [attributeText '"', attributeText '\'', inserted,
      .named .element]))

/-- The name of an element and its attributes. -/
def elementHead : Form := elementName ++ many (field "attribute" elementAttribute)

def elementText : Scan := fun text =>
  (text.takeWhile fun c => c != '<' && c != '\x7b' && c != '>' && c != '\x7d').length

/-- An element that closes itself, or one with a content between its tags. -/
def element : Form :=
  node "jsx_self_closing_element" (verbatim "<" ++ elementHead ++ verbatim "/>")
    <|> node "jsx_element" (field "open_tag" (node "jsx_opening_element"
        (verbatim "<" ++ maybe elementHead ++ mark ">"))
      ++ many (tightLeaf "jsx_text" elementText <|> .named .element <|> inserted)
      ++ field "close_tag" (node "jsx_closing_element"
        (verbatim "</" ++ maybe elementName ++ mark ">")))

end ScriptSurvey.Grammar.JavaScript
