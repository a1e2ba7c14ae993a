import ScriptSurvey.Syntax.Node
import ScriptSurvey.Text.WordTable

/-!
# Names in patterns

Names that parameters and destructuring patterns bind.
-/
namespace ScriptSurvey.Extraction

open Syntax (Node)

/-- The identifiers that a destructuring pattern binds, in order. Default values bind nothing. -/
def boundNames (node : Node) : List String :=
  match node.label with
  | "identifier" | "shorthand_property_identifier_pattern" => [node.text]
  | "pair_pattern" =>
    match _h : node.field? "value" with
    | some v => boundNames v
    | none => []
  | "assignment_pattern" | "object_assignment_pattern" =>
    match _h : node.field? "left" with
    | some v => boundNames v
    | none => []
  | _ => (node.children.attach.filter (·.1.named)).flatMap fun ⟨c, _⟩ => boundNames c
termination_by sizeOf node
decreasing_by
  · exact Node.sizeOf_field? _h
  · exact Node.sizeOf_field? _h
  · exact Node.sizeOf_lt_of_mem (by assumption)

/-- The name of a parameter. A pattern is named by its text without white space. -/
def parameterName? (node : Node) : Option String :=
  match node.label with
  | "comment" | "this" => none
  | "identifier" => some node.text
  | "required_parameter" | "optional_parameter" =>
    match _h : node.field? "pattern" with
    | some v => parameterName? v
    | none => none
  | "assignment_pattern" =>
    match _h : node.field? "left" with
    | some v => parameterName? v
    | none => none
  | "rest_pattern" =>
    match _h : node.children.find? (·.named) with
    | some v => parameterName? v
    | none => none
  | _ => some (String.ofList (node.text.toList.filter fun c => !Text.isBlank c))
termination_by node
decreasing_by
  · exact Node.sizeOf_field? _h
  · exact Node.sizeOf_field? _h
  · exact Node.sizeOf_lt_of_mem (List.mem_of_find?_eq_some _h)

/-- The names of a function's parameters; a lone arrow parameter stands for its own text. -/
def parameterNames (node : Node) : List String :=
  match node.field? "parameter" with
  | some single => [single.text]
  | none =>
    match node.field? "parameters" with
    | some params => params.namedChildren.filterMap parameterName?
    | none => []

end ScriptSurvey.Extraction
