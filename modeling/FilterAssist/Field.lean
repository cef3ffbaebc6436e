import FilterAssist.Geo
import FilterAssist.ListValue
import FilterAssist.Navigation

set_option autoImplicit false

/-!
Fields: string arguments of list and geographic operators, which an editor of their own can read and
write.
-/
namespace FilterAssist

inductive FieldKind where
  | list
  | geo (shape : GeoShape)
deriving DecidableEq, Repr

def listOperators : List Text :=
  ["contains_any".toList, "contains_phrase".toList, "any".toList, "in".toList, "url_in".toList,
   "all".toList, "contains_all".toList]

def FieldKind.ofOperator? (operator : Text) : Option FieldKind :=
  if listOperators.contains operator.asciiLower then some .list
  else (GeoShape.ofOperator? operator).map .geo

structure TextEdit where
  line : Nat
  start : Nat
  stop : Nat
  newText : Text
deriving DecidableEq, Repr

structure Field where
  kind : FieldKind
  line : Nat
  token : Token
  operator : Text
deriving DecidableEq, Repr

def endsEscaped (text : Text) : Bool :=
  (text.reverse.takeWhile (· == '\\')).length % 2 == 1

def unquote (text : Text) : Text :=
  match text with
  | [] => []
  | quote :: inner =>
    if quote = '"' ∨ quote = '\'' then
      if inner.getLast? = some quote ∧ endsEscaped inner.dropLast = false then inner.dropLast
      else inner
    else text

namespace Field

def value (field : Field) : Text :=
  unquote field.token.text

def listItems (field : Field) : List Text :=
  match field.kind with
  | .list => ListValue.parse field.value
  | .geo _ => []

def geoValue (field : Field) : Option (Except GeoError GeoValue) :=
  match field.kind with
  | .list => none
  | .geo shape => if field.value.allBlank then none else some (GeoValue.ofText shape field.value)

def replacement (field : Field) (value : Text) : TextEdit :=
  ⟨field.line, field.token.start, field.token.stop, ['"'] ++ value ++ ['"']⟩

def listReplacement (field : Field) (items : List Text) : TextEdit :=
  field.replacement (ListValue.format items)

def geoReplacement (field : Field) (value : GeoValue) : TextEdit :=
  field.replacement value.toText

def at? (document : Document) (line column : Nat) : Option Field :=
  match document.tokenAt line column with
  | none => none
  | some token =>
    if token.kind = some .string then
      match document.previousToken line token.start with
      | none => none
      | some previous =>
        if previous.kind = some .operator then
          (FieldKind.ofOperator? previous.text).map fun kind => ⟨kind, line, token, previous.text⟩
        else none
    else none

end Field

end FilterAssist
