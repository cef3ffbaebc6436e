import FilterAssist.Binary64.Decimal
import FilterAssist.Json.Basic

set_option autoImplicit false

/-!
JSON over several lines, two spaces of indentation to a level.
-/
namespace FilterAssist.Json

def escapedChar (c : Char) : Text :=
  if c = '"' then ['\\', '"']
  else if c = '\\' then ['\\', '\\']
  else if c = '\x08' then ['\\', 'b']
  else if c = '\t' then ['\\', 't']
  else if c = '\n' then ['\\', 'n']
  else if c = '\x0c' then ['\\', 'f']
  else if c = '\r' then ['\\', 'r']
  else if c.toNat < 0x20 then
    let digits := Nat.toDigits 16 c.toNat
    ['\\', 'u'] ++ List.replicate (4 - digits.length) '0' ++ digits
  else [c]

def quotedText (text : Text) : Text :=
  ['"'] ++ text.flatMap escapedChar ++ ['"']

def newLine (depth : Nat) : Text :=
  '\n' :: List.replicate (2 * depth) ' '

def block (depth : Nat) (opening closing : Char) (parts : List Text) : Text :=
  match parts with
  | [] => [opening, closing]
  | parts =>
    [opening] ++ newLine (depth + 1) ++ Text.joinWith ([','] ++ newLine (depth + 1)) parts ++
      newLine depth ++ [closing]

mutual

def pretty (depth : Nat) : Json → Text
  | .null => "null".toList
  | .boolean value => (toString value).toList
  | .integer value => Text.ofInt value
  | .float value => value.toText
  | .text value => quotedText value
  | .array items => block depth '[' ']' (prettyItems (depth + 1) items)
  | .object fields => block depth '{' '}' (prettyFields (depth + 1) fields)

def prettyItems (depth : Nat) : List Json → List Text
  | [] => []
  | item :: rest => pretty depth item :: prettyItems depth rest

def prettyFields (depth : Nat) : List (Text × Json) → List Text
  | [] => []
  | (name, value) :: rest =>
    (quotedText name ++ [':', ' '] ++ pretty depth value) :: prettyFields depth rest

end

end FilterAssist.Json
