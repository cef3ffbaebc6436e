import FilterAssist.Json.Basic
import FilterAssist.Text.LowerCase
import FilterAssist.Toml.Basic

set_option autoImplicit false

/-!
Settings before they are given their types: scalars, arrays and tables, laid over one another. Keys
are compared in lower case. A table laid over a table adds to it key by key; everything else takes
the place of what was there.
-/
namespace FilterAssist

inductive SettingOrigin where
  | memory
  | file
deriving DecidableEq, Repr

inductive Scalar where
  | null
  | boolean (value : Bool)
  | integer (value : Int)
  | float (value : Binary64)
  | text (value : Text)
deriving DecidableEq, Repr

inductive Setting where
  | scalar (origin : SettingOrigin) (value : Scalar)
  | array (origin : SettingOrigin) (items : List Setting)
  | table (origin : SettingOrigin) (entries : List (Text × Setting))

namespace Setting

def null : Setting :=
  .scalar .memory .null

def emptyTable : Setting :=
  .table .memory []

def isTable : Setting → Bool
  | .table _ _ => true
  | _ => false

def asTable (setting : Setting) : Setting :=
  if setting.isTable then setting else emptyTable

def entries : Setting → List (Text × Setting)
  | .table _ entries => entries
  | _ => []

def items : Setting → List Setting
  | .array _ items => items
  | _ => []

def get? (setting : Setting) (key : Text) : Option Setting :=
  setting.entries.lookup key

def putEntry (key : Text) (value : Setting) : List (Text × Setting) → List (Text × Setting)
  | [] => [(key, value)]
  | entry :: rest => if entry.1 = key then (key, value) :: rest else entry :: putEntry key value rest

def put (setting : Setting) (key : Text) (value : Setting) : Setting :=
  match setting with
  | .table origin entries => .table origin (putEntry (lowerCase key) value entries)
  | _ => .table .memory [(lowerCase key, value)]

mutual

def lay (target : Setting) (key : Text) : Setting → Setting
  | .table _ entries =>
    let under := (target.asTable.get? (lowerCase key)).getD emptyTable
    target.put key (layEntries under entries)
  | .scalar origin value => target.put key (.scalar origin value)
  | .array origin items => target.put key (.array origin items)

def layEntries (target : Setting) : List (Text × Setting) → Setting
  | [] => target
  | (key, value) :: rest => layEntries (lay target key value) rest

end

mutual

def ofToml (origin : SettingOrigin) : Toml → Setting
  | .string value => .scalar origin (.text value)
  | .integer value => .scalar origin (.integer value)
  | .float value => .scalar origin (.float value)
  | .boolean value => .scalar origin (.boolean value)
  | .array _ items => .array origin (ofTomlItems origin items)
  | .table _ entries => .table origin (ofTomlEntries origin entries)

def ofTomlItems (origin : SettingOrigin) : List Toml → List Setting
  | [] => []
  | item :: rest => ofToml origin item :: ofTomlItems origin rest

def ofTomlEntries (origin : SettingOrigin) : List (Text × Toml) → List (Text × Setting)
  | [] => []
  | (key, value) :: rest => (key, ofToml origin value) :: ofTomlEntries origin rest

end

mutual

def ofJson : Json → Setting
  | .null => .scalar .memory .null
  | .boolean value => .scalar .memory (.boolean value)
  | .integer value => .scalar .memory (.integer value)
  | .float value => .scalar .memory (.float value)
  | .text value => .scalar .memory (.text value)
  | .array items => .array .memory (ofJsonItems items)
  | .object fields => .table .memory (ofJsonFields fields)

def ofJsonItems : List Json → List Setting
  | [] => []
  | item :: rest => ofJson item :: ofJsonItems rest

def ofJsonFields : List (Text × Json) → List (Text × Setting)
  | [] => []
  | (key, value) :: rest => (key, ofJson value) :: ofJsonFields rest

end

end Setting

end FilterAssist
