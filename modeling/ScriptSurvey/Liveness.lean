import ScriptSurvey.Config
import ScriptSurvey.Glob
import ScriptSurvey.Manifest
import ScriptSurvey.Project
import ScriptSurvey.Resolution
import ScriptSurvey.Text.Identifier

/-!
# Liveness

A declaration is dead when it is not exported and no call in the project has its name; an export
when no file imports it; a local binding when its name occurs in the file only once.
-/
namespace ScriptSurvey.Liveness

inductive DeadKind where
  | function
  | classDef
  | method
  | exportName
  | localName
  deriving DecidableEq, Repr, Inhabited

namespace DeadKind

/-- All kinds in the order of reports. -/
def all : List DeadKind := [function, classDef, method, exportName, localName]

def ofDeclaration : DeclarationKind → DeadKind
  | .function => function
  | .classDef => classDef
  | .method => method

end DeadKind

structure DeadItem where
  kind : DeadKind
  name : String
  owner : Option String
  file : Path
  line : Nat
  deriving DecidableEq, Repr, Inhabited

/-- `total` and `byKind` count all items, of which the first ones are kept; kinds without items are
left out. -/
structure Report where
  total : Nat
  byKind : List (DeadKind × Nat)
  items : List DeadItem
  scope : Path
  deriving DecidableEq, Repr, Inhabited

/-- All called names and all classes that others extend. -/
def referencedNames (project : Project) : List String :=
  project.sheets.flatMap fun s => s.calls.map (·.callee) ++ s.classes.filterMap (·.parent)

/-- A name imported from a file; the wildcard stands for all its names. -/
structure ImportedName where
  name : String
  file : Path
  deriving DecidableEq, Repr, Inhabited

/-- What the relative imports of the project resolve to. -/
def importedNames (project : Project) (defaultExtension : String) : List ImportedName :=
  project.sheets.flatMap fun s => (s.imports.filter (·.isRelative)).filterMap fun i =>
    (Resolution.resolve s.path i.source project.contains defaultExtension).path?.map
      fun target => ⟨i.imported, target⟩

def isImported (imported : List ImportedName) (name : String) (file : Path) : Bool :=
  imported.any fun i => i.file == file && (i.name == wildcard || i.name == name)

/-- The files that the manifest names as entry modules. -/
def manifestEntries (project : Project) (manifest : Manifest) (config : LivenessConfig) :
    List Path :=
  (manifest.main.toList ++ manifest.module.toList).filterMap fun spec =>
    let relative := if spec.startsWith "." then spec else "./" ++ spec
    (Resolution.resolve (project.root.child Manifest.fileName) relative project.contains
      config.defaultExtension).path?.map Path.normalize

def entryGlobs (config : LivenessConfig) : List Glob :=
  config.entryFiles.filterMap fun p => (Glob.parse p).toOption

/-- Files whose exports are used from outside of the project. -/
def isEntryFile (project : Project) (manifest : Option Manifest) (config : LivenessConfig)
    (path : Path) : Bool :=
  (((manifest.map (manifestEntries project · config)).getD []).contains path)
    || (entryGlobs config).any fun g => g.isMatch (project.relative path).toString

/-- Names that are never reported. -/
def isExempt (config : LivenessConfig) (name : String) : Bool :=
  name == "constructor" || config.entryPoints.contains name

def deadDeclarations (referenced : List String) (config : LivenessConfig) (file : Path)
    (sheet : FactSheet) : List DeadItem :=
  (sheet.declarations.filter fun d =>
    !d.exported && !referenced.contains d.name && !isExempt config d.name).map fun d =>
      ⟨.ofDeclaration d.kind, d.name, d.owner, file, d.line⟩

/-- The first binding of each exported name. -/
def firstExports (exports : List ExportBinding) : List ExportBinding :=
  exports.foldl (fun kept e => if kept.any (·.name == e.name) then kept else kept ++ [e]) []

def deadExports (imported : List ImportedName) (config : LivenessConfig) (file : Path)
    (sheet : FactSheet) : List DeadItem :=
  let qualifiers := sheet.calls.filterMap (·.qualifier)
  ((firstExports sheet.exports).filter fun e =>
    !isImported imported e.name sheet.path && !qualifiers.contains e.name
      && !qualifiers.contains e.bound && !isExempt config e.name && !isExempt config e.bound).map
    fun e => ⟨.exportName, e.name, none, file, e.line⟩

/-- The first binding of each name. -/
def firstBindings (bindings : List Binding) : List Binding :=
  bindings.foldl (fun kept b => if kept.any (·.name == b.name) then kept else kept ++ [b]) []

/-- Bindings that the text mentions only once. A leading underscore marks a binding as unused on
purpose. -/
def unusedLocals (files : FileSystem) (file : Path) (sheet : FactSheet) : List DeadItem :=
  match files.readText? sheet.path with
  | none => []
  | some text =>
    ((firstBindings sheet.bindings).filter fun b =>
      !b.name.startsWith "_" && Text.countIdentifier text b.name == 1).map
        fun b => ⟨.localName, b.name, none, file, b.line⟩

/-- Files by path, then lines, then names. -/
def itemLe (a b : DeadItem) : Bool :=
  ((compare a.file b.file).then
    ((compare a.line b.line).then (compare a.name b.name))).isLE

/-- All dead items of the sheets below `scope`, in order. -/
def deadItems (files : FileSystem) (project : Project) (scope : Path) (config : LivenessConfig) :
    List DeadItem :=
  let referenced := referencedNames project
  let imported := importedNames project config.defaultExtension
  let manifest := Manifest.load? files project.root
  let items := (project.inScope scope).flatMap fun sheet =>
    let file := project.relative sheet.path
    if sheet.parseFailed || FileRole.isTest file.toString || FileRole.isGenerated file.toString
    then []
    else
      deadDeclarations referenced config file sheet
        ++ (if isEntryFile project manifest config sheet.path then []
          else deadExports imported config file sheet)
        ++ unusedLocals files file sheet
  items.mergeSort itemLe

def countKinds (items : List DeadItem) : List (DeadKind × Nat) :=
  (DeadKind.all.map fun k => (k, items.countP (·.kind == k))).filter fun (_, n) => 0 < n

def classify (files : FileSystem) (project : Project) (scope : Path) (config : LivenessConfig)
    (limit : Nat) : Report :=
  let items := deadItems files project scope config
  ⟨items.length, countKinds items, items.take limit, project.relative scope⟩

end ScriptSurvey.Liveness
