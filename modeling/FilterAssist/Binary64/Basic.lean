set_option autoImplicit false

/-!
Double-precision numbers. Every finite one is a whole multiple of the smallest step, `2 ^ -1074`,
and is kept as that multiple, so that comparing is comparing of integers and rounding is rounding of
an exact quotient.
-/
namespace FilterAssist

inductive Binary64 where
  | nan
  | infinite (negative : Bool)
  | finite (negative : Bool) (units : Nat)
deriving DecidableEq, Repr

namespace Binary64

def unitsPerOne : Nat := Nat.pow 2 1074

def unitsLimit : Nat := Nat.pow 2 2098

def roundQuotient (numerator denominator : Nat) : Nat :=
  let floor := numerator / denominator
  let twice := 2 * (numerator % denominator)
  if denominator < twice ∨ (twice = denominator ∧ floor % 2 = 1) then floor + 1 else floor

def roundUnits (numerator denominator : Nat) : Nat :=
  let step := Nat.pow 2 ((numerator / denominator).log2 - 52)
  roundQuotient numerator (denominator * step) * step

def ofQuotient (negative : Bool) (numerator denominator : Nat) : Binary64 :=
  let units := roundUnits numerator denominator
  if units < unitsLimit then .finite negative units else .infinite negative

def ofInt (n : Int) : Binary64 :=
  ofQuotient (decide (n < 0)) (n.natAbs * unitsPerOne) 1

def signedUnits (negative : Bool) (units : Nat) : Int :=
  if negative then -units else units

def le : Binary64 → Binary64 → Bool
  | .nan, _ => false
  | _, .nan => false
  | .infinite true, _ => true
  | _, .infinite false => true
  | .infinite false, _ => false
  | _, .infinite true => false
  | .finite s a, .finite t b => decide (signedUnits s a ≤ signedUnits t b)

def lt (a b : Binary64) : Bool :=
  a.le b && !b.le a

def same (a b : Binary64) : Bool :=
  a.le b && b.le a

def max (a b : Binary64) : Binary64 :=
  if a.lt b then b else a

def min (a b : Binary64) : Binary64 :=
  if b.lt a then b else a

def isFinite : Binary64 → Bool
  | .finite _ _ => true
  | _ => false

-- The nearest natural number up to a bound, a half going up; below zero and for what is not a
-- number it is zero.
def toNatUpTo (bound : Nat) : Binary64 → Nat
  | .nan => 0
  | .infinite true => 0
  | .infinite false => bound
  | .finite true _ => 0
  | .finite false units => Nat.min bound ((2 * units + unitsPerOne) / (2 * unitsPerOne))

end Binary64

end FilterAssist
