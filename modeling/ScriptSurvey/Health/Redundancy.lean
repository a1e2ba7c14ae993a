import ScriptSurvey.Manifest

/-!
# Redundant dependencies

A dependency is redundant when the manifest lists it for development too, or when another
dependency of its family does the same job.
-/
namespace ScriptSurvey.Health

/-- Packages that solve one problem; a project needs at most one of them. -/
structure Family where
  problem : String
  members : List String
  deriving DecidableEq, Repr, Inhabited

def families : List Family :=
  [⟨"date", ["moment", "dayjs", "date-fns", "luxon"]⟩,
    ⟨"http", ["axios", "node-fetch", "got", "superagent", "request"]⟩,
    ⟨"utility", ["lodash", "underscore", "ramda"]⟩,
    ⟨"test runner", ["jest", "mocha", "vitest", "jasmine", "ava"]⟩]

structure RedundantDependency where
  name : String
  reason : String
  deriving DecidableEq, Repr, Inhabited

def listedTwice (manifest : Manifest) : List RedundantDependency :=
  (manifest.dependencies.filter manifest.devDependencies.contains).map fun name =>
    ⟨name, "listed in both dependencies and devDependencies"⟩

/-- The members of a family that are there, but for the first one. -/
def overlapping (manifest : Manifest) (family : Family) : List RedundantDependency :=
  match family.members.filter manifest.dependsOn with
  | [] => []
  | kept :: rest => rest.map fun name =>
      ⟨name, s!"overlaps with {kept} ({family.problem} library)"⟩

def redundantDependencies (manifest : Manifest) : List RedundantDependency :=
  listedTwice manifest ++ families.flatMap (overlapping manifest)

end ScriptSurvey.Health
