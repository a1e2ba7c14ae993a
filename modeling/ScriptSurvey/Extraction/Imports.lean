import ScriptSurvey.Facts
import ScriptSurvey.Syntax.Place

/-!
# Imports

One binding per imported name: of import statements, of `require` and `import` calls, and of
exports from another module. Bindings are listed by line.
-/
namespace ScriptSurvey.Extraction

open Syntax (Node Place)

/-- The module text is a fragment of a string; this gives the place of that string. -/
def stringAround? (fragment : Place) : Option Place :=
  if fragment.node.named && fragment.node.label == "string_fragment" then
    fragment.parent?.filter fun s => s.node.named && s.node.label == "string"
  else none

/-- An import statement from the module that the fragment names. -/
def importStatementOf? (fragment : Place) : Option Place :=
  (stringAround? fragment).bind fun s =>
    if s.node.field == "source" then
      s.parent?.filter fun i => i.node.named && i.node.label == "import_statement"
    else none

/-- A call whose arguments hold the string of the fragment. -/
def callOf? (fragment : Place) : Option Place :=
  (stringAround? fragment).bind fun s =>
    (s.parent?.filter fun a =>
      a.node.named && a.node.label == "arguments" && a.node.field == "arguments").bind fun a =>
        a.parent?.filter fun c => c.node.named && c.node.label == "call_expression"

def hasFunction (call : Node) (test : Node → Bool) : Bool :=
  call.children.any fun f => f.field == "function" && f.named && test f

/-- The bindings of one import statement. -/
def esmBindings (statement : Node) (source : String) : List ImportBinding :=
  let bind (imported bound : String) : ImportBinding :=
    ⟨imported, bound, source, .esm, statement.line⟩
  match statement.childLabelled? "import_clause" with
  | none => []
  | some clause => clause.children.flatMap fun child =>
    match child.label with
    | "identifier" => [bind defaultName child.text]
    | "namespace_import" =>
      ((child.childLabelled? "identifier").map fun i => bind wildcard i.text).toList
    | "named_imports" =>
      (child.children.filter (·.label == "import_specifier")).filterMap fun spec =>
        (spec.field? "name").map fun name =>
          bind name.text (((spec.field? "alias").map (·.text)).getD name.text)
    | _ => []

/-- The bindings of a pattern that takes a required module apart. -/
def patternBindings (source : String) (line : Nat) (pattern : Node) : List ImportBinding :=
  let bind (imported bound : String) : ImportBinding := ⟨imported, bound, source, .require, line⟩
  pattern.namedChildren.filterMap fun item =>
    match item.label with
    | "shorthand_property_identifier_pattern" => some (bind item.text item.text)
    | "pair_pattern" =>
      (item.field? "key").map fun key =>
        bind key.text (((item.field? "value").map (·.text)).getD key.text)
    | "object_assignment_pattern" =>
      (item.field? "left").map fun left => bind left.text left.text
    | _ => none

/-- The name that a declarator gives to the value of `p`. -/
def declaredName? (p : Place) : Option Node :=
  (p.parent?.filter (·.node.label == "variable_declarator")).bind (·.node.field? "name")

/-- The bindings of one required module, told from the expression around the call: a member of it,
a name for all of it, a pattern, or nothing that can be told. -/
def requireBindings (call : Place) (source : String) : List ImportBinding :=
  let bind (imported bound : String) : ImportBinding :=
    ⟨imported, bound, source, .require, call.line⟩
  let member := (call.parent?.filter (·.node.label == "member_expression")).bind fun m =>
    (m.node.field? "property").map fun property => (m, property.text)
  match member with
  | some (m, imported) =>
    let bound := ((declaredName? m).filter (·.label == "identifier")).map (·.text)
    [bind imported (bound.getD imported)]
  | none =>
    match declaredName? call with
    | some name =>
      if name.label == "identifier" then [bind wildcard name.text]
      else if name.label == "object_pattern" then patternBindings source call.line name
      else [bind wildcard wildcard]
    | none => [bind wildcard wildcard]

/-- The module that an export statement takes its names from. -/
def exportSource? (statement : Node) : Option String :=
  (statement.field? "source").bind fun s => s.namedChildren.head?.map (·.text)

/-- An export from another module imports what it passes on. -/
def reExportBindings (statement : Node) : List ImportBinding :=
  match exportSource? statement with
  | none => []
  | some source =>
    let bind (imported bound : String) : ImportBinding :=
      ⟨imported, bound, source, .reExport, statement.line⟩
    match statement.childLabelled? "export_clause" with
    | some clause =>
      (clause.namedChildren.filter (·.label == "export_specifier")).filterMap fun spec =>
        (spec.field? "name").map fun name =>
          bind name.text (((spec.field? "alias").map (·.text)).getD name.text)
    | none => [bind wildcard wildcard]

def isExportStatement (node : Node) : Bool := node.named && node.label == "export_statement"

def byLine {α : Type} (line : α → Nat) (items : List α) : List α :=
  items.mergeSort fun a b => line a ≤ line b

/-- All import bindings of a tree, by line; on a line, import statements come first, then
`require`, then `import` calls, then exports from other modules. -/
def imports (tree : Node) : List ImportBinding :=
  let places := tree.places
  let esm := places.flatMap fun p =>
    match importStatementOf? p with
    | some i => esmBindings i.node p.text
    | none => []
  let required := places.flatMap fun p =>
    match (callOf? p).filter fun c =>
      hasFunction c.node fun f => f.label == "identifier" && f.text == "require" with
    | some c => requireBindings c p.text
    | none => []
  let dynamic := places.flatMap fun p =>
    match (callOf? p).filter fun c => hasFunction c.node fun f => f.label == "import" with
    | some _ => [⟨wildcard, wildcard, p.text, .dynamic, p.line⟩]
    | none => []
  let passedOn := (places.filter fun p => isExportStatement p.node).flatMap fun p =>
    reExportBindings p.node
  byLine (·.line) (esm ++ required ++ dynamic ++ passedOn)

end ScriptSurvey.Extraction
