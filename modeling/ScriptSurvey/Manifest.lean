import ScriptSurvey.FileSystem
import ScriptSurvey.Json.Reader
import ScriptSurvey.Text.Sorted

/-!
# Package manifests

The parts of a package manifest that the analyses use: its entry modules and its dependencies.
-/
namespace ScriptSurvey

/-- The dependency tables hold names, sorted and without repetition. -/
structure Manifest where
  main : Option String
  module : Option String
  dependencies : List String
  devDependencies : List String
  peerDependencies : List String
  deriving DecidableEq, Repr, Inhabited

namespace Manifest

def fileName : String := "package.json"

def empty : Manifest := ⟨none, none, [], [], []⟩

/-- A module path is a string or null. -/
def readModule? (value : Json.Value) : Option (Option String) :=
  match value with
  | .null => some none
  | .string (some s) => some (some s)
  | _ => none

/-- Levels of nesting that a dependency value may have. -/
def valueDepth : Nat := 125

/-- The names of a dependency table. Its values are not used but have to be sound. -/
def readTable? (value : Json.Value) : Option (List String) :=
  match value with
  | .object members =>
    if Json.Value.membersSound valueDepth members then
      some (Text.sortedDistinct (members.filterMap (·.1)))
    else none
  | _ => none

/-- The known keys in order. -/
inductive Field where
  | main
  | module
  | dependencies
  | devDependencies
  | peerDependencies
  deriving DecidableEq, Repr, Inhabited

namespace Field

def all : List Field := [main, module, dependencies, devDependencies, peerDependencies]

def key : Field → String
  | main => "main"
  | module => "module"
  | dependencies => "dependencies"
  | devDependencies => "devDependencies"
  | peerDependencies => "peerDependencies"

def ofKey? (key : String) : Option Field := all.find? (·.key == key)

end Field

def set? (manifest : Manifest) (field : Field) (value : Json.Value) : Option Manifest :=
  match field with
  | .main => (readModule? value).map fun m => { manifest with main := m }
  | .module => (readModule? value).map fun m => { manifest with module := m }
  | .dependencies => (readTable? value).map fun t => { manifest with dependencies := t }
  | .devDependencies => (readTable? value).map fun t => { manifest with devDependencies := t }
  | .peerDependencies => (readTable? value).map fun t => { manifest with peerDependencies := t }

/-- Reads the members of an object. Unknown keys are passed over; a known key comes once. -/
def readMembers? (manifest : Manifest) (seen : List Field) :
    List (Option String × Json.Value) → Option Manifest
  | [] => some manifest
  | (none, _) :: _ => none
  | (some key, value) :: rest =>
    match Field.ofKey? key with
    | none => readMembers? manifest seen rest
    | some field =>
      if seen.contains field then none
      else (manifest.set? field value).bind fun m => readMembers? m (field :: seen) rest

/-- Reads the fields in order; missing ones are empty. -/
def readItems? (manifest : Manifest) : List Field → List Json.Value → Option Manifest
  | _, [] => some manifest
  | [], _ :: _ => none
  | field :: fields, value :: rest =>
    (manifest.set? field value).bind fun m => readItems? m fields rest

def ofJson? (value : Json.Value) : Option Manifest :=
  match value with
  | .object members => readMembers? empty [] members
  | .array items => readItems? empty Field.all items
  | _ => none

def parse? (text : String) : Option Manifest := (Json.parse? text).bind ofJson?

/-- The manifest of the project at `root`, when there is one that can be read. -/
def load? (files : FileSystem) (root : Path) : Option Manifest :=
  (files.readText? (root.child fileName)).bind parse?

/-- All dependencies, table by table. -/
def allDependencies (m : Manifest) : List String :=
  m.dependencies ++ m.devDependencies ++ m.peerDependencies

def dependsOn (m : Manifest) (name : String) : Bool := m.allDependencies.contains name

end Manifest

end ScriptSurvey
