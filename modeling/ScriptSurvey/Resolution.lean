import ScriptSurvey.Language

/-!
# Module resolution

A relative specifier is resolved against the known files of a project. Tried in turn are the path as
written, the scripts that a built file may come from, the path with each script extension, and the
index files of a directory of that name.
-/
namespace ScriptSurvey

inductive Resolution where
  | resolved (path : Path)
  | assumed (path : Path)
  | notRelative (specifier : String)
  | noDirectory
  deriving DecidableEq, Repr, Inhabited

namespace Resolution

/-- The extensions that are tried, in order. -/
def extensions : List String := ["ts", "tsx", "js", "jsx", "mjs", "cjs"]

/-- The extensions of scripts that a file with this extension may be built from. -/
def sourceExtensions (extension : String) : List String :=
  match extension with
  | "js" => ["ts", "tsx"]
  | "jsx" => ["tsx"]
  | "mjs" => ["mts"]
  | "cjs" => ["cts"]
  | _ => []

def siblings (base : Path) : List Path :=
  if base.isScript then (sourceExtensions (base.extension?.getD "")).map base.withExtension
  else []

/-- The known file that a path stands for. -/
def probe? (isKnown : Path → Bool) (base : Path) : Option Path :=
  if isKnown base then some base
  else match (siblings base).find? isKnown with
    | some p => some p
    | none =>
      match (extensions.map base.addExtension).find? isKnown with
      | some p => some p
      | none => (extensions.map fun e => base.child ("index." ++ e)).find? isKnown

/-- The file that is meant when the path stands for no known file. -/
def fallback (base : Path) (defaultExtension : String) : Path :=
  if base.isScript then base else base.addExtension defaultExtension

def path? : Resolution → Option Path
  | resolved p | assumed p => some p
  | _ => none

def reason? : Resolution → Option String
  | notRelative specifier => some ("not a relative specifier: " ++ specifier)
  | noDirectory => some "importing file has no parent directory"
  | _ => none

/-- Resolves a specifier that occurs in the file `importer`. -/
def resolve (importer : Path) (specifier : String) (isKnown : Path → Bool)
    (defaultExtension : String) : Resolution :=
  if !specifier.startsWith "." then notRelative specifier
  else match importer.parent? with
    | none => noDirectory
    | some directory =>
      let base := (directory.join (Path.ofString specifier)).normalize
      match probe? isKnown base with
      | some p => resolved p
      | none => assumed (fallback base defaultExtension)

end Resolution

end ScriptSurvey
