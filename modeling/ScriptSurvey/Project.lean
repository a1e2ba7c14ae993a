import ScriptSurvey.Facts

/-!
# Projects

The fact sheets of all script files below one directory, in the order of their paths.
-/
namespace ScriptSurvey

structure Project where
  root : Path
  sheets : List FactSheet
  deriving DecidableEq, Repr, Inhabited

namespace Project

def sheet? (project : Project) (path : Path) : Option FactSheet :=
  project.sheets.reverse.find? (·.path == path)

def contains (project : Project) (path : Path) : Bool := project.sheets.any (·.path == path)

/-- The sheets of files below a directory, or of the file itself. -/
def inScope (project : Project) (scope : Path) : List FactSheet :=
  project.sheets.filter (·.path.startsWith scope)

/-- The path as seen from the root of the project. -/
def relative (project : Project) (path : Path) : Path := (project.root.below? path).getD path

/-- The text of the relative path with plain separators. -/
def displayPath (project : Project) (path : Path) : String :=
  Text.replaceChar (project.relative path).toString '\\' '/'

end Project

end ScriptSurvey
