import ScriptSurvey.Extraction.Exports
import ScriptSurvey.Extraction.Harvest
import ScriptSurvey.Syntax.Preorder
import ScriptSurvey.Text.Lines

/-!
# Fact sheets of files

The facts of a file are gathered from its syntax tree. A file without a usable tree has a sheet
without facts, so that the analyses of a project go on without it.
-/
namespace ScriptSurvey.Extraction

open Syntax (Node Place)

/-- Why a file has no facts. -/
inductive SheetError where
  | notScript (path : String)
  | badSyntax (path : String) (line : Nat)
  deriving DecidableEq, Repr

namespace SheetError

def message : SheetError → String
  | notScript path => "not a script file: " ++ path
  | badSyntax path line => s!"syntax error in {path} near line {line}"

end SheetError

/-- Marks declarations whose names are exported apart from them, and then the methods of exported
classes. -/
def reconcileExports (sheet : FactSheet) : FactSheet :=
  let locals := (sheet.exports.filter (·.kind != .reExport)).map (·.bound)
  let marked := sheet.declarations.map fun d =>
    if d.owner.isNone && locals.contains d.name then { d with exported := true } else d
  let classes := (marked.filter fun d => d.kind == .classDef && d.exported).map (·.name)
  let declarations := marked.map fun d =>
    match d.owner with
    | some o =>
      if d.kind == .method && classes.contains o then { d with exported := true } else d
    | none => d
  { sheet with declarations := declarations }

/-- The facts that a tree holds, before exports are settled. -/
def gather (path : Path) (language : Language) (lineCount : Nat) (tree : Node) : FactSheet :=
  let h := harvest Scope.outer (Place.ofRoot tree)
  { path := path, language := language, lineCount := lineCount, parseFailed := false
    declarations := h.declarations, classes := h.classes, calls := distinctCalls h.calls
    imports := imports tree, exports := exports tree
    bindings := h.bindings, functions := h.functions }

/-- The sheet of a script with the given bytes and tree. -/
def parse (path : String) (language : Language) (bytes : ByteArray) (tree : Option Node) :
    Except SheetError FactSheet :=
  match tree with
  | some tree =>
    if !language.isScript then .error (.notScript path)
    else if tree.hasError then .error (.badSyntax path (tree.firstErrorLine?.getD 0))
    else .ok (reconcileExports
      (gather (Path.ofString path) language (Text.countLines bytes.toList) tree))
  | none => .error (.notScript path)

end ScriptSurvey.Extraction
