import ScriptSurvey.Grammar.JavaScript.Expression

/-!
# Statements

Declarations, control flow and the statements of modules.
-/
namespace ScriptSurvey.Grammar.JavaScript

open Grammar.Form (maybe separated field node many absent sameLine)

def condition : Form :=
  field "condition" (node "parenthesized_expression" (parenthesized sequence))

def declarator : Form :=
  node "variable_declarator" (field "name" (destructuring <|> identifier) ++ maybe initializer)

def declarators (kinds : List String) : Form :=
  field "kind" (anyOf (kinds.map mark)) ++ separated (mark ",") declarator

def variableDeclaration : Form :=
  node "variable_declaration" (mark "var" ++ separated (mark ",") declarator ++ statementEnd)
    <|> node "lexical_declaration" (declarators ["let", "const"] ++ statementEnd)

def declaration : Form := anyOf [functionDeclaration, classDeclaration, variableDeclaration]

def moduleName : Form := string <|> identifier <|> mark "default"

/-- A name and, after `as`, the name it goes by. -/
def specifier (label : String) : Form :=
  node label (field "name" moduleName ++ maybe (mark "as" ++ field "alias" moduleName))

def fromSource : Form := mark "from" ++ field "source" string

def importClause : Form :=
  let all := node "namespace_import" (mark "*" ++ mark "as" ++ identifier)
  let picked := node "named_imports" (braced (commaList (specifier "import_specifier")))
  node "import_clause" (all <|> picked
    <|> (identifier ++ maybe (mark "," ++ (all <|> picked))))

def importStatement : Form :=
  node "import_statement" (mark "import"
    ++ (field "source" string <|> (importClause ++ fromSource))
    ++ maybe (node "import_attribute" (mark "with" ++ object)) ++ statementEnd)

def exportStatement : Form :=
  let clause := node "export_clause" (braced (commaList (specifier "export_specifier")))
  node "export_statement" (decorators ++ mark "export" ++ anyOf [
    node "namespace_export" (mark "*" ++ mark "as" ++ moduleName) ++ fromSource ++ statementEnd,
    mark "*" ++ fromSource ++ statementEnd,
    clause ++ maybe fromSource ++ statementEnd,
    field "declaration" declaration,
    mark "default" ++ (field "declaration" (functionDeclaration <|> classDeclaration)
      <|> (field "value" expression ++ statementEnd))])

def elseClause : Form := node "else_clause" (mark "else" ++ statement)

def ifStatement : Form :=
  node "if_statement" (mark "if" ++ condition ++ field "consequence" statement
    ++ maybe (field "alternative" elseClause))

def emptyStatement : Form := node "empty_statement" (mark ";")

def forStatement : Form :=
  node "for_statement" (mark "for" ++ mark "("
    ++ (field "initializer" (variableDeclaration <|> emptyStatement)
      <|> (field "initializer" sequence ++ mark ";"))
    ++ field "condition" (emptyStatement <|> (sequence ++ mark ";"))
    ++ maybe (field "increment" sequence) ++ mark ")" ++ forBody)
where
  forBody : Form := field "body" statement

def forInStatement : Form :=
  node "for_in_statement" (mark "for" ++ maybe (mark "await") ++ mark "("
    ++ maybe (field "kind" (anyOf (["var", "let", "const"].map mark)))
    ++ field "left" pattern
    ++ field "operator" (mark "in" <|> mark "of") ++ field "right" sequence ++ mark ")"
    ++ field "body" statement)

def whileStatement : Form :=
  node "while_statement" (mark "while" ++ condition ++ field "body" statement)

def doStatement : Form :=
  node "do_statement" (mark "do" ++ field "body" statement ++ mark "while" ++ condition
    ++ maybe (mark ";"))

def switchStatement : Form :=
  let statements := many (field "body" statement)
  node "switch_statement" (mark "switch"
    ++ field "value" (node "parenthesized_expression" (parenthesized sequence))
    ++ field "body" (node "switch_body" (braced (many (
      node "switch_case" (mark "case" ++ field "value" sequence ++ mark ":" ++ statements)
        <|> node "switch_default" (mark "default" ++ mark ":" ++ statements))))))

def tryStatement : Form :=
  let handler := node "catch_clause" (mark "catch"
    ++ maybe (parenthesized (field "parameter" (destructuring <|> identifier))) ++ body)
  let finalizer := node "finally_clause" (mark "finally" ++ body)
  node "try_statement" (mark "try" ++ body
    ++ ((field "handler" handler ++ maybe (field "finalizer" finalizer))
      <|> field "finalizer" finalizer))

def label : Form := leaf "statement_identifier" Scan.identifier

def jump (kind word : String) (target : Form) : Form :=
  node kind (mark word ++ maybe (sameLine ++ target) ++ statementEnd)

/-- A brace that opens a block and no object. -/
def blockBrace : Form :=
  mark "\x7b" ++ absent (anyOf [mark "...", mark "[", propertyName ++ mark ":"])

def anyStatement : Form :=
  anyOf [
    block, ifStatement, forInStatement, forStatement, whileStatement, doStatement,
    switchStatement, tryStatement, emptyStatement,
    jump "return_statement" "return" sequence,
    node "throw_statement" (mark "throw" ++ sameLine ++ sequence ++ statementEnd),
    jump "break_statement" "break" (field "label" label),
    jump "continue_statement" "continue" (field "label" label),
    node "debugger_statement" (mark "debugger" ++ statementEnd),
    exportStatement, importStatement, declaration,
    node "labeled_statement" (field "label" label ++ mark ":" ++ field "body" statement),
    node "expression_statement"
      (absent (mark "function" <|> mark "class" <|> blockBrace) ++ sequence ++ statementEnd)]

end ScriptSurvey.Grammar.JavaScript
