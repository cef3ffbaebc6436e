import FilterAssist.Text.Basic

set_option autoImplicit false

/-!
What reading a path gives, and a directory with some files in it.
-/
namespace FilterAssist.CommandLine

inductive FileContent where
  | missing
  | directory
  | notDirectory
  | denied
  | bytes (content : List UInt8)
deriving DecidableEq, Repr

def FileContent.complaint? : FileContent → Option String
  | .missing => some "No such file or directory (os error 2)"
  | .directory => some "Is a directory (os error 21)"
  | .notDirectory => some "Not a directory (os error 20)"
  | .denied => some "Permission denied (os error 13)"
  | .bytes _ => none

structure Directory where
  files : List (Text × List UInt8)
deriving DecidableEq, Repr

namespace Directory

def file? (directory : Directory) (name : Text) : Option (List UInt8) :=
  directory.files.reverse.lookup name

def parts (path : Text) : List Text :=
  (path.splitOn '/').filter fun part => part ≠ [] ∧ part ≠ ['.']

def read (directory : Directory) (path : Text) : FileContent :=
  if path = [] then .missing
  else
    match parts path with
    | [] => .directory
    | name :: more =>
      if (name :: more).all (· == ['.', '.']) then .directory
      else if path.head? = some '/' then .missing
      else
        match directory.file? name, more with
        | none, _ => .missing
        | some _, _ :: _ => .notDirectory
        | some content, [] =>
          if (path.splitOn '/').getLast? = some name then .bytes content else .notDirectory

end Directory

end FilterAssist.CommandLine
