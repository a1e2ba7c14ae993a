import ScriptSurvey.Syntax.Node

/-!
# Control flow

The sequence of control-flow tokens of a function body is its structure. Decision tokens are
those that add a path through the body.
-/
namespace ScriptSurvey.Syntax

inductive FlowToken where
  | branch
  | otherwise
  | forLoop
  | forInLoop
  | whileLoop
  | doLoop
  | switch
  | case
  | defaultCase
  | attempt
  | handler
  | ternary
  | and
  | or
  | nullish
  | leave
  | raise
  | await
  deriving DecidableEq, Repr, Inhabited

namespace FlowToken

def isDecision : FlowToken → Bool
  | branch | forLoop | forInLoop | whileLoop | doLoop | case | handler | ternary | and | or
  | nullish => true
  | otherwise | switch | defaultCase | attempt | leave | raise | await => false

end FlowToken

/-- The short-circuit operators are the only ones that count. -/
def operatorToken? (operator : String) : Option FlowToken :=
  match operator with
  | "&&" => some .and
  | "||" => some .or
  | "??" => some .nullish
  | _ => none

/-- The token that the node itself adds to the structure around it. -/
def Node.flowToken? (node : Node) : Option FlowToken :=
  match node.kind with
  | .ifStatement => some .branch
  | .elseClause => some .otherwise
  | .forStatement => some .forLoop
  | .forInStatement => some .forInLoop
  | .whileStatement => some .whileLoop
  | .doStatement => some .doLoop
  | .switchStatement => some .switch
  | .switchCase => some .case
  | .switchDefault => some .defaultCase
  | .tryStatement => some .attempt
  | .catchClause => some .handler
  | .ternary => some .ternary
  | .returnStatement => some .leave
  | .throwStatement => some .raise
  | .awaitExpression => some .await
  | .binary => (node.field? "operator").bind fun o => operatorToken? o.label
  | _ => none

end ScriptSurvey.Syntax
