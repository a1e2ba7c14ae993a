import ScriptSurvey.Glob
import ScriptSurvey.Regex.Reader
import ScriptSurvey.Regex.Search
import ScriptSurvey.Rules.Braces
import ScriptSurvey.Rules.LiveCode
import ScriptSurvey.Rules.Rule
import ScriptSurvey.Text.Search

/-!
# Compiled rules

A rule is compiled before it runs: its pattern is read and its globs are expanded. A pattern is
searched line by line, and only its places in live code count.
-/
namespace ScriptSurvey

namespace Rule

/-- Why a rule does not compile. -/
inductive Fault where
  | emptyPattern
  | badRegex
  | badGlob (glob : String) (error : Glob.Error)
  deriving DecidableEq, Repr, Inhabited

namespace Fault

def message : Fault → String
  | emptyPattern => "empty pattern"
  | badRegex => "regex parse error"
  | badGlob glob error => s!"invalid glob '{glob}': " ++ error.message

end Fault

end Rule

inductive Needle where
  | literal (text : List Char)
  | regex (program : Regex.Program)
  deriving Repr, Inhabited

structure CompiledRule where
  setName : String
  rule : Rule
  needle : Needle
  files : List Glob
  exclude : List Glob
  deriving Repr, Inhabited

namespace CompiledRule

def compileNeedle (rule : Rule) : Except Rule.Fault Needle :=
  if rule.pattern.isEmpty then .error .emptyPattern
  else match rule.kind with
    | .literal => .ok (.literal rule.pattern.toList)
    | .regex =>
      match Regex.Pattern.parse? rule.pattern with
      | some p => .ok (.regex (Regex.Program.ofPattern p))
      | none => .error .badRegex

/-- The patterns that a glob with alternatives stands for. -/
def compileGlob (glob : String) : Except Rule.Fault (List Glob) :=
  (Braces.expand glob).mapM fun g =>
    match Glob.parse g with
    | .ok p => .ok p
    | .error e => .error (.badGlob g e)

def compileGlobs (globs : List String) : Except Rule.Fault (List Glob) :=
  (globs.mapM compileGlob).map List.flatten

def compile (setName : String) (rule : Rule) : Except Rule.Fault CompiledRule := do
  let needle ← compileNeedle rule
  let files ← compileGlobs rule.files.toList
  let exclude ← compileGlobs rule.exclude
  return ⟨setName, rule, needle, files, exclude⟩

/-- The rule is meant for the file at a path below the project. -/
def appliesTo (rule : CompiledRule) (path : String) : Bool :=
  (rule.files.isEmpty || rule.files.any (·.isMatch path)) && !rule.exclude.any (·.isMatch path)

/-- An occurrence of a pattern on a line. -/
structure Hit where
  offset : Nat
  matched : String
  deriving DecidableEq, Repr, Inhabited

/-- The occurrences of the pattern from left to right, without overlap. -/
def hits (needle : Needle) (line : List Char) : List Hit :=
  match needle with
  | .literal text => (Text.occurrences text line).map fun offset => ⟨offset, String.ofList text⟩
  | .regex program => (program.allMatches line).map fun m =>
      ⟨m.start, String.ofList (Text.bytesBetween m.start m.stop 0 line)⟩

/-- The first occurrence of the pattern in live code. -/
def findLive (rule : CompiledRule) (line : List Char) : Option Hit :=
  (hits rule.needle line).find? fun hit =>
    LiveCode.isLive (String.ofList line).toUTF8.toList hit.offset

end CompiledRule

end ScriptSurvey
