import ScriptSurvey.Project

/-!
# Documentation

Exported functions and classes are expected to have a doc comment; methods are covered by their
class.
-/
namespace ScriptSurvey.Documentation

structure Item where
  name : String
  kind : DeclarationKind
  file : Path
  line : Nat
  deriving DecidableEq, Repr, Inhabited

/-- `exported` counts the declarations looked at and `total` those without a comment. -/
structure Report where
  exported : Nat
  total : Nat
  items : List Item
  deriving DecidableEq, Repr, Inhabited

/-- The exported functions and classes of the sheets below `scope`, with their files. -/
def candidates (project : Project) (scope : Path) : List (Path × Declaration) :=
  (project.inScope scope).flatMap fun s =>
    let file := project.relative s.path
    if FileRole.isTest file.toString || FileRole.isGenerated file.toString then []
    else (s.declarations.filter fun d => d.kind != .method && d.exported).map (file, ·)

def undocumented (project : Project) (scope : Path) : List Item :=
  ((candidates project scope).filter fun c => !c.2.documented).map fun (file, d) =>
    ⟨d.name, d.kind, file, d.line⟩

def report (project : Project) (scope : Path) (limit : Nat) : Report :=
  let items := undocumented project scope
  ⟨(candidates project scope).length, items.length, items.take limit⟩

end ScriptSurvey.Documentation
