import ScriptSurvey.Text.LetterCase

/-!
# Legends

A legend gives every name a short code of its own. Codes depend on the order of the names alone.
-/
namespace ScriptSurvey

/-- The code of a name before numbers are added. A name in humps is coded by its capitals, at most
three; one with a later capital by its first character and that capital; any other by its first
two characters. -/
def baseCode (name : String) : String :=
  match name.toList with
  | [] => ""
  | first :: rest =>
    let capitals := (first :: rest).filter Text.isUppercase
    if Text.isUppercase first && 2 ≤ capitals.length then String.ofList (capitals.take 3)
    else match rest.find? Text.isUppercase with
      | some hump => String.ofList (Text.lowerChar first ++ [hump])
      | none => String.ofList ((first :: rest).take 2)

structure LegendEntry where
  name : String
  code : String
  deriving DecidableEq, Repr, Inhabited

/-- Entries in the order of insertion. The two tables hold the positions of names and codes among
them. -/
structure Legend where
  entries : List LegendEntry
  byName : List (String × Nat)
  byCode : List (String × Nat)
  deriving DecidableEq, Repr, Inhabited

namespace Legend

def empty : Legend := ⟨[], [], []⟩

def codeOf? (legend : Legend) (name : String) : Option String :=
  (legend.byName.lookup name).bind fun i => legend.entries[i]?.map (·.code)

def nameOf? (legend : Legend) (code : String) : Option String :=
  (legend.byCode.lookup code).bind fun i => legend.entries[i]?.map (·.name)

def hasCode (legend : Legend) (code : String) : Bool := (legend.byCode.lookup code).isSome

/-- The code itself when some name has it, else the code of the name. -/
def resolve? (legend : Legend) (query : String) : Option String :=
  match legend.byCode.lookup query with
  | some i => legend.entries[i]?.map (·.code)
  | none => legend.codeOf? query

/-- The base code, followed by a number from the second candidate on. -/
def candidate (base : String) (n : Nat) : String :=
  if n = 0 then base else base ++ toString n

/-- The first free candidate among `fuel`; with more candidates than entries one is free. -/
def firstFree (legend : Legend) (base : String) : Nat → Nat → String
  | n, 0 => candidate base n
  | n, fuel + 1 =>
    if legend.hasCode (candidate base n) then firstFree legend base (n + 1) fuel
    else candidate base n

def freshCode (legend : Legend) (name : String) : String :=
  legend.firstFree (baseCode name) 0 legend.entries.length

/-- A name that the legend holds keeps its code. -/
def insert (legend : Legend) (name : String) : Legend :=
  match legend.byName.lookup name with
  | some _ => legend
  | none =>
    let code := legend.freshCode name
    let position := legend.entries.length
    ⟨legend.entries ++ [⟨name, code⟩], (name, position) :: legend.byName,
      (code, position) :: legend.byCode⟩

def ofNames (names : List String) : Legend := names.foldl insert empty

def names (legend : Legend) : List String := legend.entries.map (·.name)

def size (legend : Legend) : Nat := legend.entries.length

end Legend

end ScriptSurvey
