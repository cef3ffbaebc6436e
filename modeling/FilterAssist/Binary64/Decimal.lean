import FilterAssist.Binary64.Basic
import FilterAssist.Text.Basic

set_option autoImplicit false

/-!
Decimal text of double-precision numbers. Reading rounds to the nearest number. Writing takes the
fewest digits that read back as the same number, and of those the nearest; it never uses an
exponent.
-/
namespace FilterAssist.Binary64

def ofDecimal (negative : Bool) (digits : Nat) (exponent : Int) : Binary64 :=
  let magnitude := (Text.ofNat digits).length + exponent
  if digits = 0 ∨ magnitude < -330 then .finite negative 0
  else if 310 < magnitude then .infinite negative
  else if 0 ≤ exponent then ofQuotient negative (digits * Nat.pow 10 exponent.toNat * unitsPerOne) 1
  else ofQuotient negative (digits * unitsPerOne) (Nat.pow 10 (-exponent).toNat)

def readSign : Text → Bool × Text
  | '-' :: rest => (true, rest)
  | '+' :: rest => (false, rest)
  | text => (false, text)

def readExponent : Text → Option Int
  | [] => some 0
  | mark :: rest =>
    if mark = 'e' ∨ mark = 'E' then
      let signed := readSign rest
      if signed.2 ≠ [] ∧ signed.2.all isDigit then
        some (if signed.1 then -(readNat signed.2 : Int) else readNat signed.2)
      else none
    else none

def readMagnitude (negative : Bool) (text : Text) : Option Binary64 :=
  let whole := text.takeWhile isDigit
  let afterWhole := text.drop whole.length
  let fraction := match afterWhole with
    | '.' :: rest => rest.takeWhile isDigit
    | _ => []
  let afterFraction := match afterWhole with
    | '.' :: rest => rest.drop fraction.length
    | _ => afterWhole
  if whole = [] ∧ fraction = [] then none
  else (readExponent afterFraction).map fun exponent =>
    ofDecimal negative (readNat (whole ++ fraction)) (exponent - fraction.length)

def ofText? (text : Text) : Option Binary64 :=
  let signed := readSign text
  let word := signed.2.asciiLower
  if word = "inf".toList ∨ word = "infinity".toList then some (.infinite signed.1)
  else if word = "nan".toList then some .nan
  else readMagnitude signed.1 signed.2

-- The number of digits before the decimal point of a positive magnitude; for magnitudes below one,
-- zero or less by the number of zeros after the point.
def digitsBeforePoint (units : Nat) : Int :=
  ((Text.ofNat (units * Nat.pow 10 400 / unitsPerOne)).length : Int) - 400

-- The `count`-digit decimals next to a positive magnitude, the nearer one first, each with the
-- exponent of its last digit.
def neighbours (units count : Nat) : List (Nat × Int) :=
  let exponent := digitsBeforePoint units - count
  let numerator := units * Nat.pow 10 (-exponent).toNat
  let denominator := unitsPerOne * Nat.pow 10 exponent.toNat
  let below := numerator / denominator
  if denominator ≤ 2 * (numerator % denominator) then [(below + 1, exponent), (below, exponent)]
  else [(below, exponent), (below + 1, exponent)]

def shortest (units : Nat) : Nat × Int :=
  let readsBack (decimal : Nat × Int) : Bool :=
    decide (ofDecimal false decimal.1 decimal.2 = .finite false units)
  ((List.range 17).findSome? fun count => (neighbours units (count + 1)).find? readsBack).getD
    (units * Nat.pow 5 1074, -1074)

def positional (digits : Nat) (exponent : Int) : Text :=
  if 0 ≤ exponent then Text.ofNat digits ++ List.replicate exponent.toNat '0'
  else
    let places := (-exponent).toNat
    let shown := Text.ofNat digits
    let padded := List.replicate (places + 1 - shown.length) '0' ++ shown
    let whole := padded.take (padded.length - places)
    let fraction := ((padded.drop (padded.length - places)).reverse.dropWhile (· == '0')).reverse
    if fraction = [] then whole else whole ++ ['.'] ++ fraction

def toText : Binary64 → Text
  | .nan => "NaN".toList
  | .infinite negative => (if negative then ['-'] else []) ++ "inf".toList
  | .finite negative units =>
    let magnitude :=
      if units = 0 then ['0']
      else
        let decimal := shortest units
        positional decimal.1 decimal.2
    (if negative then ['-'] else []) ++ magnitude

end FilterAssist.Binary64
