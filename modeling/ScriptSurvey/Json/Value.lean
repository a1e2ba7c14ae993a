/-!
# JSON values

Objects keep their members in order, repeated keys included. A text that holds an unpaired
surrogate has no content.
-/
namespace ScriptSurvey.Json

/-- The number `± digits · 10 ^ exponent`; `integral` when written without fraction and exponent. -/
structure Number where
  negative : Bool
  digits : Nat
  exponent : Int
  integral : Bool
  deriving DecidableEq, Repr, Inhabited

inductive Value where
  | null
  | bool (value : Bool)
  | number (value : Number)
  | string (content : Option String)
  | array (items : List Value)
  | object (members : List (Option String × Value))
  deriving Repr, Inhabited

namespace Number

/-- Smallest number that rounds to infinity in binary floating point of double precision. -/
def overflowBound : Nat := Nat.pow 2 1024 - Nat.pow 2 970

/-- Whether the number rounds to a finite double. Exponents far outside are decided by the number
of digits. -/
def isFinite (n : Number) : Bool :=
  if n.digits = 0 then true
  else
    let size := (toString n.digits).length + n.exponent
    if 400 < size then false
    else if size < 300 then true
    else if 0 ≤ n.exponent then n.digits * Nat.pow 10 n.exponent.toNat < overflowBound
    else n.digits < overflowBound * Nat.pow 10 (-n.exponent).toNat

/-- The number as a natural, when it is written as one. -/
def natural? (n : Number) : Option Nat :=
  if n.integral && !n.negative && n.exponent = 0 then some n.digits else none

end Number

namespace Value

mutual

/-- Strings are whole, numbers finite, and nesting stays within `depth` levels. -/
def isSound (depth : Nat) : Value → Bool
  | null | bool _ => true
  | number n => n.isFinite
  | string content => content.isSome
  | array items =>
    match depth with
    | 0 => false
    | d + 1 => areSound d items
  | object members =>
    match depth with
    | 0 => false
    | d + 1 => membersSound d members

def areSound (depth : Nat) : List Value → Bool
  | [] => true
  | v :: rest => isSound depth v && areSound depth rest

def membersSound (depth : Nat) : List (Option String × Value) → Bool
  | [] => true
  | (key, v) :: rest => key.isSome && isSound depth v && membersSound depth rest

end

/-- The value of a key in an object. -/
def member? (value : Value) (key : String) : Option Value :=
  match value with
  | object members => members.lookup (some key)
  | _ => none

end Value

end ScriptSurvey.Json
