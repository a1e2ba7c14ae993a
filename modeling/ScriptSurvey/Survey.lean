import ScriptSurvey.Extraction.Sheet
import ScriptSurvey.Grammar.JavaScript
import ScriptSurvey.Graph.Build
import ScriptSurvey.Liveness
import ScriptSurvey.Metrics.Complexity
import ScriptSurvey.Metrics.Documentation
import ScriptSurvey.Metrics.FileSize
import ScriptSurvey.Metrics.Similarity
import ScriptSurvey.Rules.Detect
import ScriptSurvey.Rules.Store
import ScriptSurvey.Rules.Violation
import ScriptSurvey.Walk

/-!
# Surveys

A survey reads all scripts of a project from a file system and runs an analysis on them. The path
of a query selects the project around it and limits the report to what lies below it.
-/
namespace ScriptSurvey.Survey

inductive Error where
  | missingPath (path : String)
  | walk (error : Walk.Error)
  | store (error : RuleStore.Error)
  deriving DecidableEq, Repr

def Error.message : Error → String
  | missingPath path => "path not found: " ++ path
  | walk e => e.message
  | store e => e.message

/-- The syntax tree of a script: the one that comes with it, or else what its text is in
JavaScript. TypeScript has no grammar of its own here, which is a limit: without a stored tree it is
read by the JavaScript grammar. -/
def treeOf (language : Language) (file : File) : Option Syntax.Node :=
  match file.tree with
  | some tree => some tree
  | none => if language.isScript then Grammar.readJavaScript? file.bytes else none

/-- The sheet of a file; one that cannot be read or parsed has no facts. -/
def sheetOf (files : FileSystem) (path : Path) : FactSheet :=
  let language := (Language.ofPath? path).getD .javaScript
  match files.file? path with
  | none => FactSheet.failed path language 0
  | some file =>
    match Extraction.parse path.toString language file.bytes (treeOf language file) with
    | .ok sheet => sheet
    | .error _ => FactSheet.failed path language (Text.countLines file.bytes.toList)

/-- The facts of all scripts below a directory. -/
def collect (files : FileSystem) (config : Config) (root : Path) : Except Error Project :=
  match Walk.walk files config .scripts root.toString with
  | .ok paths => .ok ⟨root, paths.map (sheetOf files)⟩
  | .error e => .error (.walk e)

/-- A project and the part of it that a query asks about. -/
structure Scoped where
  project : Project
  scope : Path

/-- The project around a path text. -/
def forScope (files : FileSystem) (config : Config) (path : String) : Except Error Scoped :=
  match files.canonical? path with
  | none => .error (.missingPath path)
  | some scope =>
    (collect files config (Walk.findProjectRoot files scope)).map fun project => ⟨project, scope⟩

def liveness (files : FileSystem) (config : Config) (path : String) (limit : Option Nat) :
    Except Error Liveness.Report :=
  (forScope files config path).map fun s =>
    Liveness.classify files s.project s.scope config.liveness (limit.getD config.liveness.limit)

def complexity (files : FileSystem) (config : Config) (path : String)
    (minScore limit : Option Nat) : Except Error Complexity.Report :=
  (forScope files config path).map fun s =>
    Complexity.report s.project s.scope (minScore.getD config.complexity.minScore)
      (limit.getD config.complexity.limit)

def similarity (files : FileSystem) (config : Config) (path : String)
    (threshold limit : Option Nat) : Except Error Similarity.Report :=
  (forScope files config path).map fun s =>
    Similarity.report s.project s.scope (threshold.getD config.similarity.threshold)
      (limit.getD config.similarity.limit)

def documentation (files : FileSystem) (config : Config) (path : String) (limit : Option Nat) :
    Except Error Documentation.Report :=
  (forScope files config path).map fun s =>
    Documentation.report s.project s.scope (limit.getD config.server.defaultLimit)

def fileSizes (files : FileSystem) (config : Config) (path : String) (limit : Option Nat) :
    Except Error FileSize.Report :=
  (forScope files config path).map fun s =>
    FileSize.report s.project s.scope config.fileSize (limit.getD config.fileSize.limit)

/-- The symbol graph of the scripts below a directory. -/
def graph (files : FileSystem) (config : Config) (root : Path) : Except Error SymbolGraph :=
  (collect files config root).map SymbolGraph.build

/-- The sets to run, when detection is not to choose them, and the least severity. -/
structure RuleOptions where
  sets : Option (List String)
  least : Option Severity
  limit : Option Nat
  deriving DecidableEq, Repr, Inhabited

namespace RuleOptions

def default : RuleOptions := ⟨none, none, none⟩

end RuleOptions

/-- The stored sets with the given names. -/
def namedSets (store : RuleStore) (names : List String) : Except Error (List RuleSet) :=
  names.mapM fun name =>
    match store.get? name with
    | some set => .ok set
    | none => .error (.store (.unknownSet name))

/-- The scripts and markup files below `scope` in the project at `root`. -/
def ruleFiles (files : FileSystem) (config : Config) (root scope : Path) :
    Except Error (List Path) :=
  match Walk.walk files config .scriptsAndMarkup root.toString with
  | .ok paths => .ok (paths.filter (·.startsWith scope))
  | .error e => .error (.walk e)

/-- The sets that run on the files: the ones asked for, or the ones that detection finds. -/
def chosenSets (files : FileSystem) (config : Config) (root : Path) (store : RuleStore)
    (paths : List Path) (names : Option (List String)) : Except Error (List RuleSet) :=
  match names with
  | some names => namedSets store names
  | none => .ok (Rules.detect files root store.ruleSets paths config.rules.disabledSets)

/-- Runs rule sets over the files below a path text. -/
def rules (files : FileSystem) (config : Config) (path : String) (options : RuleOptions) :
    Except Error Rules.Report :=
  match files.canonical? path with
  | none => .error (.missingPath path)
  | some scope => do
    let root := Walk.findProjectRoot files scope
    let store := RuleStore.load files root config.rules
    let paths ← ruleFiles files config root scope
    let sets ← chosenSets files config root store paths options.sets
    let report := Rules.run files root paths sets options.least
    return { report with
      violations := report.violations.take (options.limit.getD config.rules.limit) }

end ScriptSurvey.Survey
