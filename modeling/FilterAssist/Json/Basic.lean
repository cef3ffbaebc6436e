import FilterAssist.Binary64.Basic
import FilterAssist.Text.Basic

set_option autoImplicit false

/-!
JSON values, and reading parts of them by type.
-/
namespace FilterAssist

inductive Json where
  | null
  | boolean (value : Bool)
  | integer (value : Int)
  | float (value : Binary64)
  | text (value : Text)
  | array (items : List Json)
  | object (fields : List (Text × Json))
deriving Inhabited

namespace Json

def ofNat (value : Nat) : Json :=
  .integer value

def record (fields : List (String × Json)) : Json :=
  .object (fields.map fun field => (field.1.toList, field.2))

def get? (json : Json) (name : String) : Option Json :=
  match json with
  | .object fields => fields.lookup name.toList
  | _ => none

def asText? : Json → Option Text
  | .text value => some value
  | _ => none

def asChar? : Json → Option Char
  | .text [c] => some c
  | _ => none

def asBool? : Json → Option Bool
  | .boolean value => some value
  | _ => none

def asInt? : Json → Option Int
  | .integer value => some value
  | _ => none

def asNat? (json : Json) : Option Nat :=
  match json.asInt? with
  | some value => if 0 ≤ value then some value.toNat else none
  | none => none

def asItems? : Json → Option (List Json)
  | .array items => some items
  | _ => none

def asTexts? (json : Json) : Option (List Text) :=
  json.asItems?.bind fun items => items.mapM asText?

-- The fields of a record, by name from an object or by place from an array. A field may have
-- several names, of which one may be used; an array has no more items than the record has fields.
def recordFields? (names : List (List String)) : Json → Option (List (Option Json))
  | .object fields =>
    names.mapM fun aliases =>
      match fields.filter fun field => aliases.contains (String.ofList field.1) with
      | [] => some none
      | [field] => some (some field.2)
      | _ => none
  | .array items =>
    if items.length ≤ names.length then
      some (items.map some ++ List.replicate (names.length - items.length) none)
    else none
  | _ => none

def fieldOr {α : Type} (read : Json → Option α) (default : α) : Option Json → Option α
  | none => some default
  | some json => read json

end Json

end FilterAssist
