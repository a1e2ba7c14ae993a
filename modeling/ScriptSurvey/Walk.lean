import ScriptSurvey.Config
import ScriptSurvey.Glob
import ScriptSurvey.Ignore.Rules
import ScriptSurvey.Language

/-!
# Walking a project

A walk lists the source files below a directory in the order of their paths. Ignored and hidden
files, packages of others and what the configuration excludes are passed over.
-/
namespace ScriptSurvey.Walk

inductive Filter where
  | scripts
  | scriptsAndMarkup
  deriving DecidableEq, Repr, Inhabited

def Filter.accepts (filter : Filter) (path : Path) : Bool :=
  match Language.ofPath? path with
  | some l => l.isScript || filter == .scriptsAndMarkup
  | none => false

mutual

/-- The files of an entry that is not skipped, as the names that lead to them. -/
def entryFiles (levels : List Ignore.Level) (names : List String) : Entry → List (List String)
  | .file _ => [names]
  | .dir entries rawRecords =>
    listFiles (Ignore.Level.of names.length (.dir entries rawRecords) :: levels) names entries

def listFiles (levels : List Ignore.Level) (names : List String) :
    List (String × Entry) → List (List String)
  | [] => []
  | (name, entry) :: rest =>
    let inner := names ++ [name]
    (if Ignore.isSkipped levels inner name entry.isDir then []
      else entryFiles levels inner entry) ++ listFiles levels names rest

end

/-- The levels of the directories above a path, the nearest first. -/
def levelsAbove (files : FileSystem) (path : Path) : List Ignore.Level :=
  (path.ancestors.drop 1).map fun p =>
    Ignore.Level.of p.names.length ((files.entry? p).getD (.dir []))

def packagesDir : String := "node_modules"

/-- The texts that an exclusion is compared with: the whole path and each of its components. -/
def exclusionTexts (path : Path) : List String :=
  path.toString :: (if path.anchored then ["/"] else []) ++ path.names

def isExcluded (config : Config) (path : Path) : Bool :=
  ((config.exclude.getD []).filterMap fun p => (Glob.parse p).toOption).any fun g =>
    (exclusionTexts path).any g.isMatch

def isWanted (config : Config) (filter : Filter) (path : Path) : Bool :=
  !path.names.contains packagesDir && !isExcluded config path && filter.accepts path

def pathLe (a b : Path) : Bool := (compare a b).isLE

inductive Error where
  | missing (path : String)
  deriving DecidableEq, Repr

def Error.message : Error → String
  | missing path => "path does not exist: " ++ path

/-- The source files below the directory, or the file, that an anchored path text leads to. -/
def walk (files : FileSystem) (config : Config) (filter : Filter) (root : String) :
    Except Error (List Path) :=
  match files.canonical? root with
  | none => .error (.missing root)
  | some start =>
    let found := match files.entry? start with
      | some entry => entryFiles (levelsAbove files start) start.names entry
      | none => []
    let base := Path.ofString root
    let named := found.map fun names =>
      (⟨true, base.names ++ names.drop start.names.length⟩ : Path)
    .ok ((named.filter (isWanted config filter)).mergeSort pathLe)

def hasMarker (files : FileSystem) (marker : String) (dir : Path) : Bool :=
  (files.entry? (dir.child marker)).isSome

/-- The directory of a project: the nearest one above a path, or the path itself, that holds a
manifest, else the nearest that is a repository, else the path. -/
def findProjectRoot (files : FileSystem) (path : Path) : Path :=
  let start := if files.isFile path then path.parent?.getD path else path
  ((start.ancestors.find? (hasMarker files "package.json")).or
    (start.ancestors.find? (hasMarker files ".git"))).getD start

end ScriptSurvey.Walk
