/-!
# Scales

Scores are sums of weighted quotients, rounded to whole points. They are computed on a scale:
floating-point numbers when the program runs, exact fractions when it is reasoned about.
-/
namespace ScriptSurvey

class Scale (α : Type) where
  ofNat : Nat → α
  add : α → α → α
  sub : α → α → α
  mul : α → α → α
  div : α → α → α
  min : α → α → α
  /-- The nearest whole number from 0 to 100; a half goes up. -/
  points : α → Nat

namespace Scale

instance : Scale Float where
  ofNat := Float.ofNat
  add := (· + ·)
  sub := (· - ·)
  mul := (· * ·)
  div := (· / ·)
  min a b := if b < a then b else a
  points x :=
    let r := x.round
    if r ≤ 0 then 0 else if 100 ≤ r then 100 else r.toUInt64.toNat

instance : Scale Rat where
  ofNat n := n
  add := (· + ·)
  sub := (· - ·)
  mul := (· * ·)
  div := (· / ·)
  min a b := if b < a then b else a
  points x := Nat.min 100 (x + 1 / 2).floor.toNat

/-- A quotient of counts. -/
def ratio {α : Type} [Scale α] (a b : Nat) : α := div (ofNat a) (ofNat b)

end Scale

end ScriptSurvey
