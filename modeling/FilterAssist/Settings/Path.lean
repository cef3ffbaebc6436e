import FilterAssist.Settings.Setting

set_option autoImplicit false

/-!
Paths to settings, such as `vocabulary.targets[0]`.
-/
namespace FilterAssist

inductive PathStep where
  | key (name : Text)
  | index (place : Int)
deriving DecidableEq, Repr

structure SettingPath where
  head : Text
  steps : List PathStep
deriving DecidableEq, Repr

namespace SettingPath

def isKeyChar (c : Char) : Bool :=
  isLetter c || isDigit c || c == '_' || c == '-' || c == ' '

def takeKey (text : Text) : Option (Text × Text) :=
  let key := text.takeWhile isKeyChar
  if key = [] then none else some (key, text.drop key.length)

def readPlace? (text : Text) : Option Int :=
  let negative := text.head? = some '-'
  let digits := if negative then text.drop 1 else text
  if digits = [] ∨ ¬ digits.all isDigit then none
  else
    let place : Int := if negative then -(readNat digits : Int) else readNat digits
    if -(Int.pow 2 63) ≤ place ∧ place < Int.pow 2 63 then some place else none

def isSpace (c : Char) : Bool :=
  c == ' ' || c == '\t'

def takePlace (text : Text) : Option (Int × Text) := do
  let (inside, rest) ← text.splitOnce ']'
  let place ← readPlace? ((inside.dropWhile isSpace).reverse.dropWhile isSpace).reverse
  some (place, rest)

def readSteps : Nat → Text → Option (List PathStep)
  | 0, _ => none
  | _ + 1, [] => some []
  | fuel + 1, '.' :: rest => do
    let (key, rest) ← takeKey rest
    let steps ← readSteps fuel rest
    some (.key key :: steps)
  | fuel + 1, '[' :: rest => do
    let (place, rest) ← takePlace rest
    let steps ← readSteps fuel rest
    some (.index place :: steps)
  | _ + 1, _ => none

def ofText? (text : Text) : Option SettingPath := do
  let (head, rest) ← takeKey text
  let steps ← readSteps (rest.length + 1) rest
  some ⟨head, steps⟩

end SettingPath

namespace Setting

def resolvePlace (place : Int) (length : Nat) : Nat :=
  if 0 ≤ place then place.toNat else length - place.natAbs

def changeItem (target : Setting) (place : Int) (change : Setting → Setting) : Setting :=
  let items := target.items
  let origin := match target with
    | .array origin _ => origin
    | _ => .memory
  let index := resolvePlace place items.length
  let filled := items ++ List.replicate (index + 1 - items.length) null
  .array origin (filled.modify index change)

def changeKey (target : Setting) (key : Text) (change : Setting → Setting) : Setting :=
  let table := target.asTable
  table.put key (change ((table.get? (lowerCase key)).getD null))

def layAt (value : Setting) : List PathStep → Setting → Setting
  | [], _ => value
  | [.key key], target => target.lay key value
  | .key key :: step :: steps, target => target.changeKey key (layAt value (step :: steps))
  | .index place :: steps, target => target.changeItem place (layAt value steps)

def layPath (target : Setting) (path : SettingPath) (value : Setting) : Setting :=
  layAt value (.key path.head :: path.steps) target

-- Lays entries over the root. A key that reads as a path is followed.
def layRoot (target : Setting) : List (Text × Setting) → Setting
  | [] => target
  | (key, value) :: rest =>
    let laid := match SettingPath.ofText? key with
      | some path => target.layPath path value
      | none => target.lay key value
    laid.layRoot rest

end Setting

end FilterAssist
