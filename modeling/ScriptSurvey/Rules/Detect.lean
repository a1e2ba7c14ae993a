import ScriptSurvey.Manifest
import ScriptSurvey.Rules.Rule
import ScriptSurvey.Text.Search

/-!
# Detecting rule sets

A set runs on a project when it always applies, when the manifest names one of its packages, or
when one of the first files of the project shows one of its marks.
-/
namespace ScriptSurvey.Rules

/-- Number of files that are searched for marks. -/
def sampleCount : Nat := 40

/-- The text names the module, or a part of it, in quotes. -/
def importsModule (text module : String) : Bool :=
  ["\"", "'"].any fun quote =>
    Text.contains text (quote ++ module ++ quote) || Text.contains text (quote ++ module ++ "/")

/-- One of the texts shows a mark of the set. -/
def isMarked (samples : List String) (set : RuleSet) : Bool :=
  samples.any fun text =>
    set.detection.imports.any (importsModule text)
      || set.detection.fragments.any (Text.contains text)

/-- The set applies whatever the files hold. -/
def isSettled (manifest : Manifest) (set : RuleSet) : Bool :=
  set.alwaysApply || set.detection.packages.any manifest.dependsOn

def samples (files : FileSystem) (paths : List Path) : List String :=
  (paths.take sampleCount).filterMap files.readText?

/-- The sets that run on the project at `root`: first those that need no look at the files. -/
def detect (files : FileSystem) (root : Path) (sets : List RuleSet) (paths : List Path)
    (disabled : List String) : List RuleSet :=
  let manifest := (Manifest.load? files root).getD Manifest.empty
  let enabled := sets.filter fun s => !disabled.contains s.name
  let texts := samples files paths
  enabled.filter (isSettled manifest)
    ++ enabled.filter fun s => !isSettled manifest s && isMarked texts s

end ScriptSurvey.Rules
