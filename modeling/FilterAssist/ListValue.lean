import FilterAssist.Text.Basic

set_option autoImplicit false

/-!
List values: items separated by commas, a comma inside an item being written with a backslash
before it.
-/
namespace FilterAssist.ListValue

def cut (item : Text) : Text → List Text
  | [] => [item]
  | '\\' :: ',' :: rest => cut (item ++ [',']) rest
  | ',' :: rest => item :: cut [] rest
  | c :: rest => cut (item ++ [c]) rest

def parse (value : Text) : List Text :=
  ((cut [] value).map Text.trim).filter fun item => !item.isEmpty

def format (items : List Text) : Text :=
  Text.joinWith [','] ((items.filter fun item => !item.allBlank).map
    fun item => item.replaceChar ',' ['\\', ','])

end FilterAssist.ListValue
