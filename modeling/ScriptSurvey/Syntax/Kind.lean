/-!
# Kinds of syntax nodes

The grammar names node kinds by text. The extraction passes tell apart the kinds listed here;
several names of one construct share a kind, and every other name is `other`.
-/
namespace ScriptSurvey.Syntax

inductive Kind where
  | program
  | functionDeclaration
  | functionExpression
  | arrowFunction
  | methodDefinition
  | classDeclaration
  | classBody
  | fieldDefinition
  | callExpression
  | newExpression
  | memberExpression
  | variableDeclarator
  | assignmentExpression
  | importStatement
  | exportStatement
  | statementBlock
  | comment
  | ifStatement
  | elseClause
  | forStatement
  | forInStatement
  | whileStatement
  | doStatement
  | switchStatement
  | switchCase
  | switchDefault
  | tryStatement
  | catchClause
  | ternary
  | binary
  | returnStatement
  | throwStatement
  | awaitExpression
  | other
  deriving DecidableEq, Repr, Inhabited

namespace Kind

def ofLabel (label : String) : Kind :=
  match label with
  | "program" => program
  | "function_declaration" | "generator_function_declaration" => functionDeclaration
  | "function_expression" | "function" | "generator_function" => functionExpression
  | "arrow_function" => arrowFunction
  | "method_definition" => methodDefinition
  | "class_declaration" | "abstract_class_declaration" | "class" => classDeclaration
  | "class_body" => classBody
  | "field_definition" | "public_field_definition" => fieldDefinition
  | "call_expression" => callExpression
  | "new_expression" => newExpression
  | "member_expression" => memberExpression
  | "variable_declarator" => variableDeclarator
  | "assignment_expression" => assignmentExpression
  | "import_statement" => importStatement
  | "export_statement" => exportStatement
  | "statement_block" => statementBlock
  | "comment" => comment
  | "if_statement" => ifStatement
  | "else_clause" => elseClause
  | "for_statement" => forStatement
  | "for_in_statement" => forInStatement
  | "while_statement" => whileStatement
  | "do_statement" => doStatement
  | "switch_statement" => switchStatement
  | "switch_case" => switchCase
  | "switch_default" => switchDefault
  | "try_statement" => tryStatement
  | "catch_clause" => catchClause
  | "ternary_expression" => ternary
  | "binary_expression" => binary
  | "return_statement" => returnStatement
  | "throw_statement" => throwStatement
  | "await_expression" => awaitExpression
  | _ => other

/-- Nodes of the kind open a function body. -/
def isFunction : Kind → Bool
  | functionDeclaration | functionExpression | arrowFunction | methodDefinition => true
  | _ => false

end Kind

end ScriptSurvey.Syntax
