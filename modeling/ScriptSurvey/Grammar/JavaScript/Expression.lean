import ScriptSurvey.Grammar.JavaScript.Element
import ScriptSurvey.Grammar.JavaScript.Function
import ScriptSurvey.Grammar.JavaScript.Literal
import ScriptSurvey.Grammar.JavaScript.Pattern

/-!
# Expressions

From single values over members and calls to operators and assignments.
-/
namespace ScriptSurvey.Grammar.JavaScript

open Grammar.Form (maybe field node wrap many after sameLine nothing)

def object : Form :=
  node "object" (braced (listed (anyOf [
    method nothing,
    node "pair" (field "key" propertyName ++ mark ":" ++ field "value" expression),
    node "spread_element" (mark "..." ++ expression),
    leaf "shorthand_property_identifier" Scan.identifier])))

def array : Form :=
  node "array" (bracketed (listed
    (node "spread_element" (mark "..." ++ expression) <|> expression)))

def arguments : Form :=
  node "arguments" (parenthesized (listed
    (node "spread_element" (mark "..." ++ expression) <|> expression)))

def metaProperty : Form :=
  node "meta_property" ((mark "new" ++ mark "." ++ mark "target")
    <|> (mark "import" ++ mark "." ++ mark "meta"))

def primary : Form :=
  anyOf [
    functionExpression, identifier, word "this", word "super", word "null", word "true", word "false",
    word "undefined", leaf "number" Scan.number, string, template, regex, object, array,
    classExpression, element, node "parenthesized_expression" (parenthesized sequence)]

/-- A value with members of it, calls on it and so on. -/
def callee : Form :=
  anyOf [
    metaProperty,
    node "new_expression" (mark "new" ++ field "constructor" constructed
      ++ maybe (field "arguments" arguments)),
    node "import" (mark "import"),
    .named .primary]
  ++ many (anyOf [
    memberAccess,
    wrap "call_expression" "function"
      (maybe chainMark ++ field "arguments" arguments),
    wrap "call_expression" "function" (field "arguments" template)])
where
  constructed : Form := (.named .primary) ++ many memberAccess

def postfixed : Form :=
  (.named .callee : Form) ++ maybe (sameLine ++ wrap "update_expression" "argument"
    (field "operator" (mark "++" <|> mark "--")))

def unary : Form :=
  anyOf [
    node "unary_expression" (field "operator"
      (anyOf (["!", "~", "-", "+", "typeof", "void", "delete"].map mark))
      ++ field "argument" (.named .unary)),
    node "update_expression" (field "operator" (mark "++" <|> mark "--")
      ++ field "argument" (.named .unary)),
    node "await_expression" (mark "await" ++ .named .unary),
    postfixed]

/-- Operators by how tightly they bind, the loosest first. -/
def operatorLevels : List (List String) :=
  [["??"], ["||"], ["&&"], ["|"], ["^"], ["&"], ["==", "===", "!=", "!=="],
    ["<", "<=", ">", ">=", "instanceof", "in"], ["<<", ">>", ">>>"], ["+", "-"], ["*", "/", "%"],
    ["**"]]

/-- Operators of one level group to the left, those of the tightest level to the right. -/
def operand (level : Nat) : Form :=
  match operatorLevels[level]? with
  | none => .named .unary
  | some operators =>
    let tighter : Form := .named (.operand (level + 1))
    let right : Form := if level + 1 < operatorLevels.length then tighter
      else .named (.operand level)
    tighter ++ many (wrap "binary_expression" "left"
      (field "operator" (anyOf (operators.map mark)) ++ field "right" right))

def assignmentMarks : List String :=
  ["+=", "-=", "*=", "/=", "%=", "**=", "<<=", ">>=", ">>>=", "&=", "|=", "^=", "&&=", "||=", "??="]

/-- What a value can be assigned to. -/
def targets : List String :=
  ["identifier", "member_expression", "subscript_expression", "parenthesized_expression",
    "undefined"]

/-- One expression; only `sequence` has commas. -/
def single : Form :=
  anyOf [
    arrowFunction,
    node "yield_expression" (mark "yield"
      ++ ((mark "*" ++ expression) <|> maybe (sameLine ++ expression))),
    node "assignment_expression"
      (field "left" destructuring ++ mark "=" ++ field "right" expression),
    .named (.operand 0) ++ maybe (anyOf [
      wrap "assignment_expression" "left"
        (after targets ++ mark "=" ++ field "right" expression),
      wrap "augmented_assignment_expression" "left"
        (after targets ++ field "operator" (anyOf (assignmentMarks.map mark)) ++ field "right" expression),
      wrap "ternary_expression" "condition" (mark "?" ++ field "consequence" expression
        ++ mark ":" ++ field "alternative" expression)])]

end ScriptSurvey.Grammar.JavaScript
