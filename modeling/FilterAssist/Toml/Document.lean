import FilterAssist.Toml.Scalar

set_option autoImplicit false

/-!
Whole TOML texts: keys, arrays, inline tables, headers, and the table they add up to. No key may be
given twice, and no table opened twice.
-/
namespace FilterAssist.Toml

def depthLimit : Nat := 80

abbrev Entries := List (Text × Toml)

def replaceEntry (key : Text) (value : Toml) (entries : Entries) : Entries :=
  entries.map fun entry => if entry.1 = key then (key, value) else entry

/-- Changes the table at the end of a path, which is made on the way as far as it is not there. With
`dotted`, the path belongs to a key and may not enter a table that has a header. `change` is told
whether the table it gets was made by a dotted key. -/
def descend (dotted : Bool) (change : Bool → Entries → Option Entries) :
    List Text → Bool → Entries → Option Entries
  | [], isDotted, entries => change isDotted entries
  | key :: path, _, entries =>
    match entries.lookup key with
    | none => do
      let inner ← descend dotted change path dotted []
      some (entries ++ [(key, .table (if dotted then .dotted else .implied) inner)])
    | some (.table form inner) =>
      if form = .inline ∨ (dotted ∧ form = .headed) then none
      else do
        let inner ← descend dotted change path (form == .dotted) inner
        some (replaceEntry key (.table form inner) entries)
    | some (.array true items) =>
      match items.getLast? with
      | some (.table form inner) => do
        let inner ← descend dotted change path false inner
        some (replaceEntry key (.array true (items.dropLast ++ [.table form inner])) entries)
      | _ => none
    | some _ => none

def openTable (path : List Text) (key : Text) (root : Entries) : Option Entries :=
  descend false
    (fun _ entries =>
      match entries.lookup key with
      | none => some (entries ++ [(key, .table .headed [])])
      | some (.table .implied inner) => some (replaceEntry key (.table .headed inner) entries)
      | some _ => none)
    path false root

def openElement (path : List Text) (key : Text) (root : Entries) : Option Entries :=
  descend false
    (fun _ entries =>
      match entries.lookup key with
      | none => some (entries ++ [(key, .array true [.table .headed []])])
      | some (.array true items) =>
        some (replaceEntry key (.array true (items ++ [.table .headed []])) entries)
      | some _ => none)
    path false root

def putValue (path : List Text) (key : Text) (value : Toml) (isDotted : Bool) (entries : Entries) :
    Option Entries :=
  descend true
    (fun isDotted entries =>
      if isDotted = path.isEmpty ∨ (entries.lookup key).isSome then none
      else some (entries ++ [(key, value)]))
    path isDotted entries

def isBareKeyChar (c : Char) : Bool :=
  isLetter c || isDigit c || c == '_' || c == '-'

def readSimpleKey : Reader Text
  | '"' :: rest => readBasic [] rest
  | '\'' :: rest => readLiteral [] rest
  | text =>
    let key := text.takeWhile isBareKeyChar
    if key = [] then none else some (key, text.drop key.length)

def readKeyParts : Nat → Reader (List Text)
  | 0, _ => none
  | fuel + 1, text => do
    let (part, rest) ← readSimpleKey (skipSpaces text)
    match skipSpaces rest with
    | '.' :: rest => do
      let (parts, rest) ← readKeyParts fuel rest
      some (part :: parts, rest)
    | rest => some ([part], rest)

def readKey : Reader (List Text × Text) := fun text => do
  let (parts, rest) ← readKeyParts (depthLimit - 1) text
  let name ← parts.getLast?
  some ((parts.dropLast, name), rest)

mutual

def readValue : Nat → Nat → Reader Toml
  | 0, _, _ => none
  | fuel + 1, depth, text =>
    match text with
    | '[' :: rest => if depth + 1 < depthLimit then readItems fuel (depth + 1) [] rest else none
    | '{' :: rest => if depth + 1 < depthLimit then readPairs fuel (depth + 1) rest else none
    | '"' :: _ => (readText text).map fun found => (.string found.1, found.2)
    | '\'' :: _ => (readText text).map fun found => (.string found.1, found.2)
    | _ => do
      let (taken, rest) := takeScalar text
      let value ← scalar? taken
      some (value, rest)

def readItems : Nat → Nat → List Toml → Reader Toml
  | 0, _, _, _ => none
  | fuel + 1, depth, items, text => do
    match ← skipTrivia false text with
    | ']' :: rest => some (.array false items, rest)
    | text => do
      let (item, rest) ← readValue fuel depth text
      match ← skipTrivia false rest with
      | ',' :: rest => readItems fuel depth (items ++ [item]) rest
      | ']' :: rest => some (.array false (items ++ [item]), rest)
      | _ => none

def readPairs : Nat → Nat → Reader Toml
  | 0, _, _ => none
  | fuel + 1, depth, text =>
    match skipSpaces text with
    | '}' :: rest => some (.table .inline [], rest)
    | text => readPairList fuel depth [] text

def readPairList : Nat → Nat → Entries → Reader Toml
  | 0, _, _, _ => none
  | fuel + 1, depth, entries, text => do
    let ((path, key), rest) ← readKey text
    let rest ← expectChar '=' rest
    let (value, rest) ← readValue fuel depth (skipSpaces rest)
    let entries ← putValue path key value false entries
    match skipSpaces rest with
    | ',' :: rest => readPairList fuel depth entries rest
    | '}' :: rest => some (.table .inline entries, rest)
    | _ => none

end

def readExpression (root : Entries) (current : List Text) (text : Text) :
    Option (Entries × List Text × Text) :=
  match text with
  | '[' :: '[' :: rest => do
    let ((path, key), rest) ← readKey rest
    let rest ← expectChar ']' rest
    let rest ← expectChar ']' rest
    let root ← openElement path key root
    some (root, path ++ [key], rest)
  | '[' :: rest => do
    let ((path, key), rest) ← readKey rest
    let rest ← expectChar ']' rest
    let root ← openTable path key root
    some (root, path ++ [key], rest)
  | text => do
    let ((path, key), rest) ← readKey text
    let rest ← expectChar '=' rest
    let (value, rest) ← readValue (2 * text.length + 2) 0 (skipSpaces rest)
    let root ← descend false (fun _ entries => putValue path key value false entries) current false
      root
    some (root, current, rest)

def readExpressions : Nat → Entries → List Text → Text → Option Entries
  | 0, _, _, _ => none
  | fuel + 1, root, current, text => do
    match ← skipTrivia false text with
    | [] => some root
    | text => do
      let (root, current, rest) ← readExpression root current text
      let rest ← skipRestOfLine rest
      readExpressions fuel root current rest

def dropByteOrderMark : Text → Text
  | [] => []
  | c :: rest => if c.toNat = 0xfeff then rest else c :: rest

def ofText? (text : Text) : Option Entries :=
  readExpressions (text.length + 1) [] [] (dropByteOrderMark text)

end FilterAssist.Toml
