import ScriptSurvey.FileSystem
import ScriptSurvey.Toml.Reader

/-!
# Configuration

A project may hold a configuration file. One that cannot be read, or that has a value of the wrong
type anywhere, counts as absent. Unknown keys are passed over.
-/
namespace ScriptSurvey

structure LivenessConfig where
  entryPoints : List String
  entryFiles : List String
  defaultExtension : String
  limit : Nat
  deriving DecidableEq, Repr, Inhabited

structure ComplexityConfig where
  minScore : Nat
  limit : Nat
  deriving DecidableEq, Repr, Inhabited

structure SimilarityConfig where
  threshold : Nat
  limit : Nat
  deriving DecidableEq, Repr, Inhabited

/-- To exceed `upper` costs two points, to exceed only `lower` costs one. -/
structure Tiers where
  upper : Nat
  lower : Nat
  deriving DecidableEq, Repr, Inhabited

structure FileSizeConfig where
  lines : Tiers
  functions : Tiers
  classes : Tiers
  exports : Tiers
  limit : Nat
  deriving DecidableEq, Repr, Inhabited

structure RulesConfig where
  directory : String
  disabledSets : List String
  limit : Nat
  deriving DecidableEq, Repr, Inhabited

structure ServerConfig where
  defaultLimit : Nat
  suppressSummaryLine : Bool
  deriving DecidableEq, Repr, Inhabited

structure Config where
  exclude : Option (List String)
  liveness : LivenessConfig
  complexity : ComplexityConfig
  similarity : SimilarityConfig
  fileSize : FileSizeConfig
  rules : RulesConfig
  server : ServerConfig
  deriving DecidableEq, Repr, Inhabited

namespace Config

open Toml (Value Table)
open Toml.Value (field?)

def fileName : String := "code-atlas.toml"

def default : Config where
  exclude := none
  liveness := ⟨[], [], "js", 50⟩
  complexity := ⟨1, 30⟩
  similarity := ⟨60, 20⟩
  fileSize := ⟨⟨500, 300⟩, ⟨30, 20⟩, ⟨5, 2⟩, ⟨20, 10⟩, 20⟩
  rules := ⟨".code-atlas/rules", [], 50⟩
  server := ⟨30, false⟩

def count? : Value → Option Nat := Value.natural? Toml.maxInteger

def smallCount? : Value → Option Nat := Value.natural? (Nat.pow 2 32 - 1)

/-- An array with at least two counts; further items are passed over. -/
def tiers? : Value → Option Tiers
  | .array (a :: b :: _) =>
    match count? a, count? b with
    | some upper, some lower => some ⟨upper, lower⟩
    | _, _ => none
  | _ => none

def liveness? (value : Value) : Option LivenessConfig := do
  let d := default.liveness
  match ← value.fields? ["entry_points", "entry_files", "default_extension", "limit"] with
  | [points, files, extension, limit] =>
    return ⟨← field? Value.strings? d.entryPoints points, ← field? Value.strings? d.entryFiles files,
      ← field? Value.string? d.defaultExtension extension, ← field? count? d.limit limit⟩
  | _ => none

def complexity? (value : Value) : Option ComplexityConfig := do
  let d := default.complexity
  match ← value.fields? ["min_score", "limit"] with
  | [minScore, limit] =>
    return ⟨← field? smallCount? d.minScore minScore, ← field? count? d.limit limit⟩
  | _ => none

def similarity? (value : Value) : Option SimilarityConfig := do
  let d := default.similarity
  match ← value.fields? ["threshold", "limit"] with
  | [threshold, limit] =>
    return ⟨← field? smallCount? d.threshold threshold, ← field? count? d.limit limit⟩
  | _ => none

def fileSize? (value : Value) : Option FileSizeConfig := do
  let d := default.fileSize
  match ← value.fields? ["lines", "functions", "classes", "exports", "limit"] with
  | [lines, functions, classes, exports, limit] =>
    return ⟨← field? tiers? d.lines lines, ← field? tiers? d.functions functions,
      ← field? tiers? d.classes classes, ← field? tiers? d.exports exports,
      ← field? count? d.limit limit⟩
  | _ => none

def rules? (value : Value) : Option RulesConfig := do
  let d := default.rules
  match ← value.fields? ["directory", "disabled_sets", "limit"] with
  | [directory, disabled, limit] =>
    return ⟨← field? Value.string? d.directory directory,
      ← field? Value.strings? d.disabledSets disabled, ← field? count? d.limit limit⟩
  | _ => none

def server? (value : Value) : Option ServerConfig := do
  let d := default.server
  match ← value.fields? ["default_limit", "suppress_summary_line"] with
  | [limit, suppress] =>
    return ⟨← field? count? d.defaultLimit limit,
      ← field? Value.boolean? d.suppressSummaryLine suppress⟩
  | _ => none

def ofTable? (table : Table) : Option Config := do
  let d := default
  let part (name : String) : Option Value := table.lookup name
  return ⟨← field? (fun v => v.strings?.map some) d.exclude (part "exclude"),
    ← field? liveness? d.liveness (part "liveness"),
    ← field? complexity? d.complexity (part "complexity"),
    ← field? similarity? d.similarity (part "similarity"),
    ← field? fileSize? d.fileSize (part "file_size"),
    ← field? rules? d.rules (part "rules"),
    ← field? server? d.server (part "mcp")⟩

/-- The configuration of the project at `root`. -/
def load (files : FileSystem) (root : Path) : Config :=
  (((files.readText? (root.child fileName)).bind Toml.parse?).bind ofTable?).getD default

end Config

end ScriptSurvey
