import ScriptSurvey.Decimal.Binary64

/-!
# TOML values

A date or time is kept as its text in normal form. Tables keep the order of their entries.
-/
namespace ScriptSurvey.Toml

inductive Value where
  | string (text : String)
  | integer (value : Int)
  | float (value : Decimal.Binary64)
  | boolean (value : Bool)
  | datetime (text : String)
  | array (items : List Value)
  | table (entries : List (String × Value))
  deriving Repr, Inhabited

abbrev Table := List (String × Value)

namespace Value

mutual

def beq : Value → Value → Bool
  | string a, string b => a == b
  | integer a, integer b => a == b
  | float a, float b => a == b
  | boolean a, boolean b => a == b
  | datetime a, datetime b => a == b
  | array a, array b => beqItems a b
  | table a, table b => beqEntries a b
  | _, _ => false

def beqItems : List Value → List Value → Bool
  | [], [] => true
  | a :: as, b :: bs => beq a b && beqItems as bs
  | _, _ => false

def beqEntries : List (String × Value) → List (String × Value) → Bool
  | [], [] => true
  | (k, a) :: as, (l, b) :: bs => k == l && beq a b && beqEntries as bs
  | _, _ => false

end

instance : BEq Value := ⟨beq⟩

def string? : Value → Option String
  | string s => some s
  | _ => none

def boolean? : Value → Option Bool
  | boolean b => some b
  | _ => none

/-- A whole number from zero up, at most `bound`. -/
def natural? (bound : Nat) : Value → Option Nat
  | integer n => if 0 ≤ n && n ≤ bound then some n.toNat else none
  | _ => none

/-- All items of an array, each read by `read`. -/
def list? {α : Type} (read : Value → Option α) : Value → Option (List α)
  | array items => items.mapM read
  | _ => none

def strings? : Value → Option (List String) := list? string?

/-- The values of the named fields: the entries of a table, or the items of an array in order. A
date counts as a table without any of them. -/
def fields? (value : Value) (names : List String) : Option (List (Option Value)) :=
  match value with
  | table entries => some (names.map fun name => entries.lookup name)
  | array items => some (names.mapIdx fun i _ => items[i]?)
  | datetime _ => some (names.map fun _ => none)
  | _ => none

mutual

/-- The value with the entries of all its tables sorted by key. -/
def sortKeys : Value → Value
  | array items => array (sortItems items)
  | table entries => table ((sortEntries entries).mergeSort fun a b => decide (a.1 ≤ b.1))
  | value => value

def sortItems : List Value → List Value
  | [] => []
  | v :: rest => sortKeys v :: sortItems rest

def sortEntries : List (String × Value) → List (String × Value)
  | [] => []
  | (k, v) :: rest => (k, sortKeys v) :: sortEntries rest

end

/-- A field that is there has to be read; one that is absent has its default. -/
def field? {α : Type} (read : Value → Option α) (fallback : α) (value : Option Value) : Option α :=
  match value with
  | some v => read v
  | none => some fallback

/-- The name of a choice: a string, or the key of a table whose one value is empty. -/
def choice? : Value → Option String
  | string s => some s
  | table [(key, table [])] | table [(key, array [])] => some key
  | _ => none

/-- The entries under unknown keys, sorted at every level. -/
def unknownEntries (known : List String) (entries : Table) : Table :=
  match sortKeys (table (entries.filter fun e => !known.contains e.1)) with
  | table sorted => sorted
  | _ => []

end Value

end ScriptSurvey.Toml
