import FilterAssist.Toml.Basic

set_option autoImplicit false

/-!
The four kinds of TOML strings.
-/
namespace FilterAssist.Toml

def hexDigit? (c : Char) : Option Nat :=
  if isDigit c then some (c.toNat - '0'.toNat)
  else if 'a' ≤ c ∧ c ≤ 'f' then some (c.toNat - 'a'.toNat + 10)
  else if 'A' ≤ c ∧ c ≤ 'F' then some (c.toNat - 'A'.toNat + 10)
  else none

def hexChar? (digits : Text) : Option Char := do
  let code ← digits.foldlM (fun total c => (hexDigit? c).map fun digit => total * 16 + digit) 0
  if code < 0xd800 ∨ (0xdfff < code ∧ code < 0x110000) then some (Char.ofNat code) else none

def escapedChar? (c : Char) : Option Char :=
  if c = 'b' then some '\x08'
  else if c = 't' then some '\t'
  else if c = 'n' then some '\n'
  else if c = 'f' then some '\x0c'
  else if c = 'r' then some '\r'
  else if c = '"' then some '"'
  else if c = '\\' then some '\\'
  else none

def readBasic (read : Text) : Reader Text
  | [] => none
  | '"' :: rest => some (read.reverse, rest)
  | '\\' :: 'u' :: a :: b :: c :: d :: rest =>
    (hexChar? [a, b, c, d]).bind fun char => readBasic (char :: read) rest
  | '\\' :: 'U' :: a :: b :: c :: d :: e :: f :: g :: h :: rest =>
    (hexChar? [a, b, c, d, e, f, g, h]).bind fun char => readBasic (char :: read) rest
  | '\\' :: c :: rest => (escapedChar? c).bind fun char => readBasic (char :: read) rest
  | c :: rest => if isPlain c then readBasic (c :: read) rest else none

def readLiteral (read : Text) : Reader Text
  | [] => none
  | '\'' :: rest => some (read.reverse, rest)
  | c :: rest => if isPlain c then readLiteral (c :: read) rest else none

def dropFirstLineEnd : Text → Text
  | '\n' :: rest => rest
  | '\r' :: '\n' :: rest => rest
  | text => text

def endsLine (text : Text) : Bool :=
  match skipSpaces text with
  | '\n' :: _ => true
  | '\r' :: '\n' :: _ => true
  | _ => false

-- A string of several lines in double quotes, from after the opening ones. A backslash at the end
-- of a line takes all blanks up to the next character with it: that is `skipping`.
def readBasicLines (skipping : Bool) (read : Text) : Reader Text
  | [] => none
  | '"' :: '"' :: '"' :: '"' :: '"' :: rest => some (('"' :: '"' :: read).reverse, rest)
  | '"' :: '"' :: '"' :: '"' :: rest => some (('"' :: read).reverse, rest)
  | '"' :: '"' :: '"' :: rest => some (read.reverse, rest)
  | '\n' :: rest => readBasicLines skipping (if skipping then read else '\n' :: read) rest
  | '\r' :: '\n' :: rest => readBasicLines skipping (if skipping then read else '\n' :: read) rest
  | '\\' :: 'u' :: a :: b :: c :: d :: rest =>
    (hexChar? [a, b, c, d]).bind fun char => readBasicLines false (char :: read) rest
  | '\\' :: 'U' :: a :: b :: c :: d :: e :: f :: g :: h :: rest =>
    (hexChar? [a, b, c, d, e, f, g, h]).bind fun char => readBasicLines false (char :: read) rest
  | '\\' :: c :: rest =>
    if endsLine (c :: rest) then readBasicLines true read (c :: rest)
    else (escapedChar? c).bind fun char => readBasicLines false (char :: read) rest
  | c :: rest =>
    if skipping && isSpace c then readBasicLines true read rest
    else if isPlain c then readBasicLines false (c :: read) rest
    else none

def readLiteralLines (read : Text) : Reader Text
  | [] => none
  | '\'' :: '\'' :: '\'' :: '\'' :: '\'' :: rest => some (('\'' :: '\'' :: read).reverse, rest)
  | '\'' :: '\'' :: '\'' :: '\'' :: rest => some (('\'' :: read).reverse, rest)
  | '\'' :: '\'' :: '\'' :: rest => some (read.reverse, rest)
  | '\n' :: rest => readLiteralLines ('\n' :: read) rest
  | '\r' :: '\n' :: rest => readLiteralLines ('\n' :: read) rest
  | c :: rest => if isPlain c then readLiteralLines (c :: read) rest else none

def readText : Reader Text
  | '"' :: '"' :: '"' :: rest => readBasicLines false [] (dropFirstLineEnd rest)
  | '\'' :: '\'' :: '\'' :: rest => readLiteralLines [] (dropFirstLineEnd rest)
  | '"' :: rest => readBasic [] rest
  | '\'' :: rest => readLiteral [] rest
  | _ => none

end FilterAssist.Toml
