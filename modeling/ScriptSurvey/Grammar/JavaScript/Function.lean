import ScriptSurvey.Grammar.JavaScript.Phrase

/-!
# Functions and classes

Declarations have a name; expressions may have one.
-/
namespace ScriptSurvey.Grammar.JavaScript

open Grammar.Form (maybe field node many sameLine nothing)

def parameters : Form := field "parameters" (.named .parameters)

def body : Form := field "body" block

def functionWord (label : String) (star : Form) (name : Form) : Form :=
  node label (maybe (mark "async" ++ sameLine) ++ mark "function" ++ star ++ name
    ++ parameters ++ body)

def functionDeclaration : Form :=
  functionWord "generator_function_declaration" (mark "*") (field "name" identifier)
    <|> functionWord "function_declaration" nothing (field "name" identifier)

def functionExpression : Form :=
  functionWord "generator_function" (mark "*") (maybe (field "name" identifier))
    <|> functionWord "function_expression" nothing (maybe (field "name" identifier))

def arrowFunction : Form :=
  node "arrow_function" (
    ((mark "async" ++ sameLine ++ field "parameter" identifier ++ mark "=>")
      <|> (mark "async" ++ sameLine ++ parameters ++ mark "=>")
      <|> (field "parameter" identifier ++ mark "=>")
      <|> (parameters ++ mark "=>"))
    ++ field "body" (block <|> expression))

def decorators : Form :=
  many (field "decorator" (node "decorator" (mark "@" ++ .named .callee)))

def heritage : Form := node "class_heritage" (mark "extends" ++ .named .callee)

def classTail : Form := maybe heritage ++ field "body" (.named .classBody)

def classDeclaration : Form :=
  node "class_declaration" (decorators ++ mark "class" ++ field "name" identifier ++ classTail)

def classExpression : Form :=
  node "class" (decorators ++ mark "class" ++ maybe (field "name" identifier) ++ classTail)

def method (modifiers : Form) : Form :=
  node "method_definition" (modifiers
    ++ (modifier "get" <|> modifier "set"
      <|> (maybe (modifier "async" ++ sameLine) ++ maybe (mark "*")))
    ++ field "name" propertyName ++ parameters ++ body)

def initializer : Form := mark "=" ++ field "value" expression

def classMember : Form :=
  let isStatic := maybe (modifier "static")
  anyOf [
    field "member" (method (decorators ++ isStatic)) ++ maybe (mark ";"),
    field "member" (node "class_static_block" (mark "static" ++ body)),
    field "member" (node "field_definition" (decorators ++ isStatic
      ++ field "property" propertyName ++ maybe initializer)) ++ statementEnd,
    mark ";"]

def classBody : Form := node "class_body" (braced (many classMember))

end ScriptSurvey.Grammar.JavaScript
