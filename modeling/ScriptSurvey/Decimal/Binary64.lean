/-!
# Floating-point numbers and decimals

A floating-point number of double precision is `significand · 2 ^ exponent`. A decimal is read as
the nearest such number, with ties to the even significand, and a number is written with the fewest
digits that are read back as it.
-/
namespace ScriptSurvey.Decimal

/-- The bits of a number of double precision. -/
structure Binary64 where
  bits : UInt64
  deriving DecidableEq, Repr, Inhabited

namespace Binary64

def ofFloat (x : Float) : Binary64 := ⟨x.toBits⟩

def isNegative (x : Binary64) : Bool := x.bits >>> 63 == 1

def biasedExponent (x : Binary64) : Nat := ((x.bits >>> 52) &&& 0x7ff).toNat

def fraction (x : Binary64) : Nat := (x.bits &&& 0xfffffffffffff).toNat

def isNaN (x : Binary64) : Bool := x.biasedExponent == 0x7ff && x.fraction != 0

def isInfinite (x : Binary64) : Bool := x.biasedExponent == 0x7ff && x.fraction == 0

/-- The significand of a finite number. -/
def significand (x : Binary64) : Nat :=
  if x.biasedExponent = 0 then x.fraction else x.fraction + Nat.pow 2 52

/-- The exponent of two of a finite number. -/
def exponent (x : Binary64) : Int :=
  if x.biasedExponent = 0 then -1074 else (x.biasedExponent : Int) - 1075

def isZero (x : Binary64) : Bool := x.biasedExponent == 0 && x.fraction == 0

/-- The absolute value of a finite number as a quotient. -/
def quotient (x : Binary64) : Nat × Nat :=
  if 0 ≤ x.exponent then (x.significand * Nat.pow 2 x.exponent.toNat, 1)
  else (x.significand, Nat.pow 2 (-x.exponent).toNat)

end Binary64

/-- The quotient rounded to a whole number; a tie goes to the even one. -/
def roundDiv (num den : Nat) : Nat :=
  let q := num / den
  let twice := 2 * (num % den)
  if twice < den then q else if den < twice then q + 1 else if q % 2 = 0 then q else q + 1

def scale (num den base : Nat) (exponent : Int) : Nat × Nat :=
  if 0 ≤ exponent then (num * base.pow exponent.toNat, den)
  else (num, den * base.pow (-exponent).toNat)

/-- Number of binary digits. -/
def bitLength (n : Nat) : Nat := if n = 0 then 0 else n.log2 + 1

/-- The exponent of two that gives the quotient a significand of 53 digits, but none below that of
the smallest number. -/
def fitExponent (num den : Nat) : Int :=
  let guess : Int := (bitLength num : Int) - bitLength den - 53
  let (n, d) := scale num den 2 (-guess)
  let fitted := if n < d * Nat.pow 2 53 then guess else guess + 1
  max fitted (-1074)

/-- The bits of a number with the given significand and exponent of two. -/
def packBits (negative : Bool) (significand : Nat) (exponent : Int) : UInt64 :=
  let sign : UInt64 := if negative then 0x8000000000000000 else 0
  if significand = 0 then sign
  else
    let (m, e) := if significand = Nat.pow 2 53 then (Nat.pow 2 52, exponent + 1)
      else (significand, exponent)
    if 971 < e then sign ||| 0x7ff0000000000000
    else if m < Nat.pow 2 52 then sign ||| m.toUInt64
    else sign ||| ((e + 1075).toNat.toUInt64 <<< 52) ||| (m - Nat.pow 2 52).toUInt64

/-- The number nearest to a quotient. -/
def nearest (negative : Bool) (num den : Nat) : Binary64 :=
  if num = 0 then ⟨packBits negative 0 0⟩
  else
    let e := fitExponent num den
    let (n, d) := scale num den 2 (-e)
    ⟨packBits negative (roundDiv n d) e⟩

/-- The number nearest to `digits · 10 ^ exponent`. Exponents far outside are cut down. -/
def ofDecimal (negative : Bool) (digits : Nat) (exponent : Int) : Binary64 :=
  let size := (toString digits).length + exponent
  if digits = 0 || size < -400 then ⟨packBits negative 0 0⟩
  else if 400 < size then ⟨packBits negative 1 2000⟩
  else
    let (n, d) := scale digits 1 10 exponent
    nearest negative n d

/-- A decimal `0.d₁d₂… · 10 ^ point`. -/
structure Digits where
  digits : Nat
  point : Int
  deriving DecidableEq, Repr, Inhabited

namespace Digits

def length (d : Digits) : Nat := (toString d.digits).length

/-- The exponent of ten of the last digit. -/
def unit (d : Digits) : Int := d.point - d.length

end Digits

/-- The position of the point in front of the first digit of a positive quotient. -/
def pointOf (num den : Nat) : Int :=
  ((toString (num * Nat.pow 10 350 / den)).length : Int) - 350

/-- The decimal with `count` digits that is read back as `x` and is nearest to it, if there is
one. -/
def withDigits? (x : Binary64) (num den : Nat) (point : Int) (count : Nat) : Option Nat :=
  let unit : Int := point - count
  let (n, d) := scale num den 10 (-unit)
  let low := n / d
  let readsBack (c : Nat) : Bool := 0 < c && ofDecimal x.isNegative c unit == x
  let nearer := if 2 * (n % d) ≤ d then [low, low + 1] else [low + 1, low]
  nearer.find? readsBack

/-- The fewest digits that are read back as a finite number that is not zero. -/
def shortest (x : Binary64) : Digits :=
  let (num, den) := x.quotient
  let point := pointOf num den
  let found := (List.range 17).findSome? fun i =>
    (withDigits? x num den point (i + 1)).map fun c => (c, i + 1)
  match found with
  | some (c, count) =>
    if (toString c).length = count then ⟨c, point⟩ else ⟨c / 10, point + 1⟩
  | none => ⟨0, 0⟩

def zeros (n : Nat) : String := String.ofList (List.replicate n '0')

/-- Positional text with a point only where digits follow it. -/
def Digits.positional (d : Digits) : String :=
  let text := toString d.digits
  if d.point ≤ 0 then "0." ++ zeros (-d.point).toNat ++ text
  else if d.length ≤ d.point then text ++ zeros (d.point - d.length).toNat
  else
    let whole := d.point.toNat
    String.ofList (text.toList.take whole) ++ "." ++ String.ofList (text.toList.drop whole)

/-- Text with one digit in front of the point and an exponent. -/
def Digits.scientific (d : Digits) : String :=
  let text := (toString d.digits).toList
  let mantissa := match text with
    | [] => ""
    | [c] => String.singleton c
    | c :: rest => String.singleton c ++ "." ++ String.ofList rest
  mantissa ++ "e" ++ toString (d.point - 1)

/-- The text of a quotient with a fixed number of decimal places; a tie goes to the even digit. -/
def fixedPlaces (negative : Bool) (num den places : Nat) : String :=
  let n := roundDiv (num * Nat.pow 10 places) den
  let whole := toString (n / Nat.pow 10 places)
  let rest := toString (n % Nat.pow 10 places)
  let text := if places = 0 then whole else whole ++ "." ++ zeros (places - rest.length) ++ rest
  if negative then "-" ++ text else text

end ScriptSurvey.Decimal
