import FilterAssist.Text.Basic

set_option autoImplicit false

/-!
Help on targets, fetched once and kept.
-/
namespace FilterAssist

structure HelpOptions where
  urlTemplate : Text :=
    "http://dev.datasift.com/tooltip-endpoint/tooltip/retrieve?id=\x7btarget\x7d".toList
deriving DecidableEq, Repr

def targetMarker : Text :=
  "\x7btarget\x7d".toList

structure TargetHelp where
  options : HelpOptions := {}
  cache : List (Text × Text) := []
deriving DecidableEq, Repr

structure HelpAnswer where
  help : Option Text
  fetched : Option Text
deriving DecidableEq, Repr

namespace TargetHelp

def urlFor (help : TargetHelp) (target : Text) : Text :=
  help.options.urlTemplate.replaceAll targetMarker (target.replaceChar '.' ['-'])

def cached (help : TargetHelp) (target : Text) : Option Text :=
  help.cache.lookup target

-- The help on a target from the cache, or else as fetched. A failed fetch and a blank reply are not
-- kept, so that they are tried again.
def get (help : TargetHelp) (target : Text) (fetch : Text → Option Text) :
    HelpAnswer × TargetHelp :=
  match help.cached target with
  | some text => (⟨some text, none⟩, help)
  | none =>
    let url := help.urlFor target
    match (fetch url).map Text.trim with
    | none | some [] => (⟨none, some url⟩, help)
    | some text =>
      (⟨some text, some url⟩, { help with cache := (target, text) :: help.cache })

end TargetHelp

end FilterAssist
