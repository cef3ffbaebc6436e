set_option autoImplicit false

/-!
Ranges of code points, the form in which character classes are tabled.
-/
namespace FilterAssist

structure CodeRange where
  first : Nat
  last : Nat

def inRanges (ranges : List CodeRange) (c : Char) : Bool :=
  ranges.any fun range => decide (range.first ≤ c.toNat) && decide (c.toNat ≤ range.last)

end FilterAssist
