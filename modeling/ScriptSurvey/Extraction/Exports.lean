import ScriptSurvey.Extraction.Imports

/-!
# Exports

The names a file offers to importers, through export statements and through assignments to
`exports` and `module.exports`. They are listed by line.
-/
namespace ScriptSurvey.Extraction

open Syntax (Node Place)

/-- The identifiers that an exported pattern offers, in order. -/
def offeredNames (node : Node) : List String :=
  match node.label with
  | "identifier" | "shorthand_property_identifier_pattern" => [node.text]
  | "pair_pattern" =>
    match _h : node.field? "value" with
    | some v => offeredNames v
    | none => []
  | _ => (node.children.attach.filter (·.1.named)).flatMap fun ⟨c, _⟩ => offeredNames c
termination_by sizeOf node
decreasing_by
  · exact Node.sizeOf_field? _h
  · exact Node.sizeOf_lt_of_mem (by assumption)

/-- The names of a clause in braces. A clause with a source passes names on. -/
def clauseExports (line : Nat) (passedOn : Bool) (clause : Node) : List ExportBinding :=
  (clause.namedChildren.filter (·.label == "export_specifier")).filterMap fun spec =>
    (spec.field? "name").map fun name =>
      let offered := ((spec.field? "alias").map (·.text)).getD name.text
      let kind : ExportKind :=
        if passedOn then .reExport else if offered == defaultName then .default else .named
      ⟨offered, name.text, line, kind⟩

/-- The name that a default export has in its own file. -/
def defaultLocal (statement : Node) : String :=
  (((statement.field? "declaration").or (statement.field? "value")).bind fun d =>
    if d.label == "identifier" then some d.text else (d.field? "name").map (·.text)).getD
      defaultName

def declarationExports (line : Nat) (declaration : Node) : List ExportBinding :=
  let names :=
    if declaration.label == "lexical_declaration" || declaration.label == "variable_declaration"
    then (declaration.namedChildren.filter (·.label == "variable_declarator")).flatMap fun d =>
      ((d.field? "name").map offeredNames).getD []
    else ((declaration.field? "name").map (·.text)).toList
  names.map fun n => ⟨n, n, line, .named⟩

/-- The names that one export statement offers. A statement that passes on everything offers no
name of its own. -/
def statementExports (statement : Node) : List ExportBinding :=
  let line := statement.line
  let passedOn := (exportSource? statement).isSome
  match statement.childLabelled? "export_clause" with
  | some clause => clauseExports line passedOn clause
  | none =>
    match statement.childLabelled? "namespace_export" with
    | some ns => (ns.namedChildren.head?.map fun i => ⟨i.text, i.text, line, .reExport⟩).toList
    | none =>
      if passedOn then []
      else if statement.hasToken "default" then
        [⟨defaultName, defaultLocal statement, line, .default⟩]
      else ((statement.field? "declaration").map (declarationExports line)).getD []

/-- The names of an object assigned to `module.exports`. -/
def objectExports (line : Nat) (object : Node) : List ExportBinding :=
  object.namedChildren.filterMap fun item =>
    match item.label with
    | "shorthand_property_identifier" => some ⟨item.text, item.text, line, .commonJs⟩
    | "pair" | "method_definition" =>
      ((item.field? "key").or (item.field? "name")).map fun key =>
        let bound := ((item.field? "value").filter (·.label == "identifier")).map (·.text)
        ⟨key.text, bound.getD key.text, line, .commonJs⟩
    | _ => none

/-- The names that an assignment to a member offers. -/
def assignmentExports (target value : Node) : List ExportBinding :=
  let line := target.line
  let localOr (fallback : String) : String :=
    if value.label == "identifier" then value.text else fallback
  if target.text == "module.exports" then
    if value.label == "object" then objectExports line value
    else [⟨defaultName, localOr defaultName, line, .commonJs⟩]
  else
    match target.field? "object" with
    | none => []
    | some object =>
      if object.text == "exports" || object.text == "module.exports" then
        ((target.field? "property").map fun property =>
          ⟨property.text, localOr property.text, line, .commonJs⟩).toList
      else []

/-- The member that the assignment around a value assigns to. -/
def assignedMember? (value : Place) : Option Node :=
  if value.node.named && value.node.field == "right" then
    (value.parent?.filter fun a => a.node.named && a.node.label == "assignment_expression").bind
      fun a => a.node.children.find? fun t =>
        t.field == "left" && t.named && t.label == "member_expression"
  else none

/-- All names that a tree exports, by line; on a line, export statements come first. -/
def exports (tree : Node) : List ExportBinding :=
  let places := tree.places
  let statements := (places.filter fun p => isExportStatement p.node).flatMap fun p =>
    statementExports p.node
  let assignments := places.flatMap fun p =>
    match assignedMember? p with
    | some target => assignmentExports target p.node
    | none => []
  byLine (·.line) (statements ++ assignments)

end ScriptSurvey.Extraction
