import FilterAssist.Toml.Text

set_option autoImplicit false

/-!
TOML numbers, booleans, dates and times. None of them holds a blank, except for a date and a time
with one space between.
-/
namespace FilterAssist.Toml

def plainDigits? (test : Char → Bool) : Text → Option Text
  | [] => none
  | [c] => if test c then some [c] else none
  | c :: '_' :: rest =>
    if test c then (plainDigits? test rest).map fun digits => c :: digits else none
  | c :: rest =>
    if test c then (plainDigits? test rest).map fun digits => c :: digits else none

def wholeDigits? (text : Text) : Option Text := do
  let digits ← plainDigits? isDigit text
  if digits.head? = some '0' ∧ digits ≠ ['0'] then none else some digits

def inRange? (value : Int) : Option Int :=
  if -(Int.pow 2 63) ≤ value ∧ value < Int.pow 2 63 then some value else none

def radixDigit? (radix : Nat) (c : Char) : Option Nat :=
  (hexDigit? c).bind fun digit => if digit < radix then some digit else none

def readRadix? (radix : Nat) (text : Text) : Option Int := do
  let digits ← plainDigits? (fun c => (radixDigit? radix c).isSome) text
  let value := digits.foldl (fun total c => total * radix + (radixDigit? radix c).getD 0) 0
  inRange? value

def readInteger? (text : Text) : Option Int :=
  match text with
  | '0' :: 'x' :: digits => readRadix? 16 digits
  | '0' :: 'o' :: digits => readRadix? 8 digits
  | '0' :: 'b' :: digits => readRadix? 2 digits
  | _ => do
    let signed := Binary64.readSign text
    let digits ← wholeDigits? signed.2
    inRange? (if signed.1 then -(readNat digits : Int) else readNat digits)

def isDigitOrMark (c : Char) : Bool :=
  isDigit c || c == '_'

def plainExponent? : Text → Option Text
  | [] => some []
  | mark :: rest => do
    if mark ≠ 'e' ∧ mark ≠ 'E' then none
    else
      let signed := Binary64.readSign rest
      let digits ← plainDigits? isDigit signed.2
      some (['e'] ++ (if signed.1 then ['-'] else []) ++ digits)

def plainFloat? (text : Text) : Option Text := do
  let whole ← wholeDigits? (text.takeWhile isDigitOrMark)
  match text.dropWhile isDigitOrMark with
  | [] => none
  | '.' :: rest => do
    let fraction ← plainDigits? isDigit (rest.takeWhile isDigitOrMark)
    let exponent ← plainExponent? (rest.dropWhile isDigitOrMark)
    some (whole ++ ['.'] ++ fraction ++ exponent)
  | rest => do
    let exponent ← plainExponent? rest
    some (whole ++ exponent)

def readFloat? (text : Text) : Option Binary64 :=
  let signed := Binary64.readSign text
  if signed.2 = "inf".toList then some (.infinite signed.1)
  else if signed.2 = "nan".toList then some .nan
  else do
    let plain ← plainFloat? signed.2
    let value ← Binary64.readMagnitude signed.1 plain
    if value = .infinite false then none else some value

def readField (width low high : Nat) : Reader Nat := fun text =>
  let digits := text.take width
  if digits.length = width ∧ digits.all isDigit ∧ low ≤ readNat digits ∧ readNat digits ≤ high then
    some (readNat digits, text.drop width)
  else none

def expectChar (c : Char) : Text → Option Text
  | [] => none
  | d :: rest => if c = d then some rest else none

def daysInMonth (year month : Nat) : Nat :=
  if month = 2 then
    (if (year % 4 = 0 ∧ year % 100 ≠ 0) ∨ year % 400 = 0 then 29 else 28)
  else if month = 4 ∨ month = 6 ∨ month = 9 ∨ month = 11 then 30
  else 31

def padded (width n : Nat) : Text :=
  let digits := Text.ofNat n
  List.replicate (width - digits.length) '0' ++ digits

def readDate : Reader Text := fun text => do
  let (year, text) ← readField 4 0 9999 text
  let text ← expectChar '-' text
  let (month, text) ← readField 2 1 12 text
  let text ← expectChar '-' text
  let (day, text) ← readField 2 1 (daysInMonth year month) text
  some (padded 4 year ++ ['-'] ++ padded 2 month ++ ['-'] ++ padded 2 day, text)

def readSecondFraction : Reader Text
  | '.' :: rest =>
    let digits := rest.takeWhile isDigit
    if digits = [] then none
    else
      let kept := ((digits.take 9).reverse.dropWhile (· == '0')).reverse
      some (if kept = [] then [] else '.' :: kept, rest.drop digits.length)
  | text => some ([], text)

def readTime : Reader Text := fun text => do
  let (hour, text) ← readField 2 0 23 text
  let text ← expectChar ':' text
  let (minute, text) ← readField 2 0 59 text
  let text ← expectChar ':' text
  let (second, text) ← readField 2 0 60 text
  let (fraction, text) ← readSecondFraction text
  some (padded 2 hour ++ [':'] ++ padded 2 minute ++ [':'] ++ padded 2 second ++ fraction, text)

def readOffset : Reader Text
  | 'Z' :: rest => some (['Z'], rest)
  | 'z' :: rest => some (['Z'], rest)
  | sign :: rest =>
    if sign = '+' ∨ sign = '-' then do
      let (hour, text) ← readField 2 0 23 rest
      let text ← expectChar ':' text
      let (minute, text) ← readField 2 0 59 text
      let shown := if hour = 0 ∧ minute = 0 then '+' else sign
      some ([shown] ++ padded 2 hour ++ [':'] ++ padded 2 minute, text)
    else some ([], sign :: rest)
  | [] => some ([], [])

def readMoment? (text : Text) : Option Text :=
  match readDate text with
  | some (date, []) => some date
  | some (date, delimiter :: rest) =>
    if delimiter = 'T' ∨ delimiter = 't' ∨ delimiter = ' ' then do
      let (time, rest) ← readTime rest
      let (offset, rest) ← readOffset rest
      if rest = [] then some (date ++ ['T'] ++ time ++ offset) else none
    else none
  | none => do
    let (time, rest) ← readTime text
    if rest = [] then some time else none

def isScalarChar (c : Char) : Bool :=
  isLetter c || isDigit c || "_+-.:".toList.contains c

-- The characters of a scalar, and the rest. A date takes a time after one space with it.
def takeScalar (text : Text) : Text × Text :=
  let run := text.takeWhile isScalarChar
  match readDate run, text.drop run.length with
  | some (_, []), ' ' :: rest =>
    if rest.head?.any isDigit then
      let time := rest.takeWhile isScalarChar
      (run ++ [' '] ++ time, rest.drop time.length)
    else (run, ' ' :: rest)
  | _, rest => (run, rest)

def scalar? (text : Text) : Option Toml :=
  if text = "true".toList then some (.boolean true)
  else if text = "false".toList then some (.boolean false)
  else
    match readMoment? text with
    | some moment => some (.string moment)
    | none =>
      match readInteger? text with
      | some value => some (.integer value)
      | none => (readFloat? text).map .float

end FilterAssist.Toml
