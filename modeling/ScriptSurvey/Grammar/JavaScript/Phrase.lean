import ScriptSurvey.Grammar.Lexeme

/-!
# Phrases

The named forms of the grammar, and forms that many of them are made of.
-/
namespace ScriptSurvey.Grammar

/-- The forms that other forms refer to. -/
inductive Phrase where
  | statement
  | block
  | expression
  | sequence
  | operand (level : Nat)
  | unary
  | callee
  | primary
  | pattern
  | parameters
  | propertyName
  | classBody
  | element
  deriving DecidableEq, Repr, Inhabited

namespace JavaScript

abbrev Form := Grammar.Form Phrase

open Grammar.Form (maybe separated many absent lineEnd nothing)

/-- A word or mark. -/
def mark (text : String) : Form := .lexeme text false true (Scan.exactly text)

/-- Characters that directly follow what is in front of them. -/
def tight (text : String) : Form := .lexeme text false false (Scan.literally text)

def leaf (label : String) (scan : Scan) : Form := .lexeme label true true scan

/-- A word that is a value by itself. -/
def word (text : String) : Form := leaf text (Scan.exactly text)

def tightLeaf (label : String) (scan : Scan) : Form := .lexeme label true false scan

def anyOf (forms : List Form) : Form :=
  match forms with
  | [] => absent nothing
  | [form] => form
  | form :: rest => form <|> anyOf rest

/-- Items with commas between them; places between commas may be empty. -/
def listed (item : Form) : Form := maybe item ++ many (mark "," ++ maybe item)

/-- Items with commas between them and perhaps one behind them. -/
def commaList (item : Form) : Form := maybe (separated (mark ",") item ++ maybe (mark ","))

def parenthesized (inside : Form) : Form := mark "(" ++ inside ++ mark ")"

def braced (inside : Form) : Form := mark "\x7b" ++ inside ++ mark "\x7d"

def bracketed (inside : Form) : Form := mark "[" ++ inside ++ mark "]"

def statement : Form := .named .statement

def block : Form := .named .block

def expression : Form := .named .expression

def sequence : Form := .named .sequence

def pattern : Form := .named .pattern

def propertyName : Form := .named .propertyName

def statementEnd : Form := mark ";" <|> lineEnd

def identifier : Form := leaf "identifier" Scan.identifier

/-- The keyword in front of a member, unless the member itself has that name. -/
def modifier (word : String) : Form :=
  mark word ++ absent (anyOf (["(", "=", ";", ",", "\x7d", ":"].map mark))

end JavaScript

end ScriptSurvey.Grammar
