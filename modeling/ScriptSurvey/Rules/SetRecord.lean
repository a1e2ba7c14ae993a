import ScriptSurvey.Rules.Rule
import ScriptSurvey.Toml.Reader
import ScriptSurvey.Toml.Writer

/-!
# Records of rule sets

A rule set is stored as a TOML document. A known field with a value of the wrong type spoils the
record; unknown fields of the set and of its rules are read and written back.
-/
namespace ScriptSurvey

open Toml (Value Table)

open Toml.Value (field? choice? unknownEntries)

namespace Rule

def knownKeys : List String :=
  ["id", "pattern", "kind", "severity", "message", "replacement", "files", "exclude", "context"]

def ofValue? (value : Value) : Option Rule :=
  match value with
  | .table entries => do
    let text (key : String) : Option (Option String) :=
      field? (fun v => v.string?.map some) none (entries.lookup key)
    return {
      id := ← (entries.lookup "id").bind Value.string?
      pattern := ← (entries.lookup "pattern").bind Value.string?
      kind := ← field? (fun v => (choice? v).bind PatternKind.ofText?) .literal
        (entries.lookup "kind")
      severity := ← field? (fun v => (choice? v).bind Severity.ofText?) .warning
        (entries.lookup "severity")
      message := ← text "message"
      replacement := ← text "replacement"
      files := ← text "files"
      exclude := ← field? Value.strings? [] (entries.lookup "exclude")
      context := ← text "context"
      extra := unknownEntries knownKeys entries }
  | _ => none

/-- A list that is left out when empty. -/
def listEntry (key : String) (items : List String) : Table :=
  if items.isEmpty then [] else [(key, .array (items.map .string))]

def textEntry (key : String) (text : Option String) : Table :=
  (text.map fun t => (key, Value.string t)).toList

def toTable (rule : Rule) : Table :=
  [("id", .string rule.id), ("pattern", .string rule.pattern), ("kind", .string rule.kind.text),
    ("severity", .string rule.severity.text)]
    ++ textEntry "message" rule.message ++ textEntry "replacement" rule.replacement
    ++ textEntry "files" rule.files ++ listEntry "exclude" rule.exclude
    ++ textEntry "context" rule.context ++ rule.extra

end Rule

namespace Detection

def ofValue? (value : Value) : Option Detection := do
  let list (v : Option Value) : Option (List String) :=
    match v with
    | some v => v.strings?
    | none => some []
  match ← value.fields? ["packages", "imports", "fragments"] with
  | [packages, imports, fragments] =>
    return ⟨← list packages, ← list imports, ← list fragments⟩
  | _ => none

def toTable (d : Detection) : Table :=
  Rule.listEntry "packages" d.packages ++ Rule.listEntry "imports" d.imports
    ++ Rule.listEntry "fragments" d.fragments

end Detection

namespace RuleSet

def knownKeys : List String := ["name", "description", "always_apply", "detect", "rules"]

def ofTable? (entries : Table) : Option RuleSet := do
  return {
    name := ← field? Value.string? "" (entries.lookup "name")
    description := ← field? Value.string? "" (entries.lookup "description")
    alwaysApply := ← field? Value.boolean? false (entries.lookup "always_apply")
    detection := ← field? Detection.ofValue? .empty (entries.lookup "detect")
    rules := ← field? (Value.list? Rule.ofValue?) [] (entries.lookup "rules")
    extra := unknownEntries knownKeys entries }

def toTable (set : RuleSet) : Table :=
  [("name", .string set.name)]
    ++ (if set.description.isEmpty then [] else [("description", .string set.description)])
    ++ [("always_apply", .boolean set.alwaysApply)]
    ++ (if set.detection.isEmpty then [] else [("detect", .table set.detection.toTable)])
    ++ [("rules", .array (set.rules.map fun r => .table r.toTable))] ++ set.extra

/-- Reads a document. -/
def read? (text : String) : Option RuleSet := (Toml.parse? text).bind ofTable?

def write (set : RuleSet) : String := Toml.write set.toTable

/-- Reads the record that is stored under a name. It takes that name when it has none of its own,
and is refused when it has another one or a rule identifier twice. -/
def parse? (stem text : String) : Option RuleSet :=
  match read? text with
  | none => none
  | some set =>
    let named := if set.name.isEmpty then { set with name := stem } else set
    let ids := named.rules.map (·.id)
    if named.name = stem && ids.eraseDups.length = ids.length then some named else none

end RuleSet

end ScriptSurvey
