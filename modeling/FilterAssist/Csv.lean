import FilterAssist.Text.Basic

set_option autoImplicit false

/-!
Comma separated values, as imported into a list: a single row or a single column is a list, anything
wider a table.
-/
namespace FilterAssist.Csv

-- Where in a field a character stands; `closing` is the place right after a quote inside quotes,
-- which is half of a doubled quote or the end of the quotes.
inductive Place where
  | bare
  | inQuotes
  | closing
deriving DecidableEq, Repr

def fieldsFrom (field : Text) (place : Place) : Text → List Text
  | [] => [field]
  | c :: rest =>
    if place = .inQuotes then
      if c = '"' then fieldsFrom field .closing rest else fieldsFrom (field ++ [c]) .inQuotes rest
    else if place = .closing ∧ c = '"' then fieldsFrom (field ++ ['"']) .inQuotes rest
    else if c = '"' ∧ field.allBlank then fieldsFrom [] .inQuotes rest
    else if c = ',' then field :: fieldsFrom [] .bare rest
    else fieldsFrom (field ++ [c]) .bare rest

def fields (record : Text) : List Text :=
  if record = [] then [] else fieldsFrom [] .bare record

inductive Import where
  | list (items : List Text)
  | table (rows : List (List Text)) (columns : Nat)
deriving DecidableEq, Repr

def unifyLineEnds : Text → Text
  | [] => []
  | '\r' :: '\n' :: rest => '\n' :: unifyLineEnds rest
  | c :: rest => (if c = '\r' then '\n' else c) :: unifyLineEnds rest

def records (text : Text) : List Text :=
  let lines := (unifyLineEnds text).splitOn '\n'
  if 1 < lines.length ∧ lines.getLast? = some [] then lines.dropLast else lines

def widest (rows : List (List Text)) : Nat :=
  rows.foldl (fun width row => max width row.length) 1

def parse (text : Text) : Import :=
  match records text with
  | [record] => .list (fields record)
  | lines =>
    let rows := lines.map fields
    if widest rows = 1 then .list rows.flatten else .table rows (widest rows)

def Import.column (index : Nat) : Import → List Text
  | .list items => if index = 0 then items else []
  | .table rows _ => (rows.filterMap fun row => row[index]?).filter fun cell => !cell.allBlank

end FilterAssist.Csv
