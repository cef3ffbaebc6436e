import FilterAssist.Binary64.Decimal

set_option autoImplicit false

/-!
The values of a TOML text, and the blanks, comments and line ends between them. A reader takes a
value from the front of a text and gives the rest; it gives nothing where the text is not TOML.
-/
namespace FilterAssist

namespace Toml

-- How a table came about, which decides whether it may still grow.
inductive TableForm where
  | inline
  | headed
  | implied
  | dotted
deriving DecidableEq, Repr

end Toml

/-- Dates and times are kept as text. An array is growing if its elements are tables that were
opened by headers. -/
inductive Toml where
  | string (value : Text)
  | integer (value : Int)
  | float (value : Binary64)
  | boolean (value : Bool)
  | array (growing : Bool) (items : List Toml)
  | table (form : Toml.TableForm) (entries : List (Text × Toml))

namespace Toml

abbrev Reader (α : Type) := Text → Option (α × Text)

def isSpace (c : Char) : Bool :=
  c == ' ' || c == '\t'

def skipSpaces (text : Text) : Text :=
  text.dropWhile isSpace

def isPlain (c : Char) : Bool :=
  c == '\t' || (decide (0x20 ≤ c.toNat) && c.toNat != 0x7f)

def skipTrivia (inComment : Bool) : Text → Option Text
  | [] => some []
  | '\n' :: rest => skipTrivia false rest
  | '\r' :: '\n' :: rest => skipTrivia false rest
  | c :: rest =>
    if inComment then (if isPlain c then skipTrivia true rest else none)
    else if c = '#' then skipTrivia true rest
    else if isSpace c then skipTrivia false rest
    else some (c :: rest)

def skipLineEnd : Text → Option Text
  | [] => some []
  | '\n' :: rest => some rest
  | '\r' :: '\n' :: rest => some rest
  | _ => none

def skipRestOfLine (text : Text) : Option Text :=
  match skipSpaces text with
  | '#' :: rest => skipLineEnd (rest.dropWhile fun c => isPlain c)
  | rest => skipLineEnd rest

end Toml

end FilterAssist
