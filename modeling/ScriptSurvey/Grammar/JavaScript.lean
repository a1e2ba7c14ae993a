import ScriptSurvey.Grammar.JavaScript.Statement

/-!
# The grammar of JavaScript

The forms give the labels and fields that the extraction passes look for. `readJavaScript?` is the
tree of a text that the grammar fits from one end to the other.
-/
namespace ScriptSurvey.Grammar

namespace JavaScript

open Grammar.Form (maybe node wrap many)

/-- The form that a name stands for. -/
def grammar : Phrase → Form
  | .statement => anyStatement
  | .block => node "statement_block" (braced (many statement))
  | .expression => single
  | .sequence => expression ++ maybe (wrap "sequence_expression" ""
      (mark "," ++ expression ++ many (mark "," ++ expression)))
  | .operand level => operand level
  | .unary => unary
  | .callee => callee
  | .primary => primary
  | .pattern => destructuring <|> reference
  | .parameters => parameterList
  | .propertyName => anyOf [
      leaf "property_identifier" Scan.propertyName,
      leaf "private_property_identifier" Scan.privateName, string, leaf "number" Scan.number,
      node "computed_property_name" (bracketed expression)]
  | .classBody => classBody
  | .element => element

def program : Form :=
  maybe (leaf "hash_bang_line" Scan.interpreterLine) ++ many statement

/-- Between two characters no more forms than this are entered. -/
def depth : Nat := 2000

end JavaScript

/-- The tree of a JavaScript text; none when the text does not fit the grammar. -/
def readJavaScript? (bytes : ByteArray) : Option Syntax.Node :=
  (String.fromUTF8? bytes).bind fun text =>
    let start : Cursor := ⟨[], text.toList, 0⟩
    let fuel := JavaScript.depth * (text.length + 1)
    (Form.fit JavaScript.grammar fuel JavaScript.program start).bind fun c =>
      let c := c.skipped
      if c.rest.isEmpty then
        some ((Part.around "program" c.done.reverse).toNode (.ofBytes bytes))
      else none

end ScriptSurvey.Grammar
