import FilterAssist.Text.Basic
import FilterAssist.Text.CaseTable

set_option autoImplicit false

/-!
Lower case for whole texts. A character is lowered on its own, except the capital sigma, which has
a form of its own at the end of a word.
-/
namespace FilterAssist

def isCased (c : Char) : Bool :=
  inRanges casedRanges c

def isCaseIgnorable (c : Char) : Bool :=
  inRanges caseIgnorableRanges c

def lowerChar (c : Char) : Text :=
  if c.toNat < 0x80 then [c.toLower]
  else if c = '\u0130' then ['i', '\u0307']
  else
    match lowerRuns.find? fun run => run.covers c.toNat with
    | some run => [Char.ofNat (c.toNat + run.shift).toNat]
    | none => [c]

def startsCased (text : Text) : Bool :=
  match text.dropWhile isCaseIgnorable with
  | [] => false
  | c :: _ => isCased c

-- The lower-case form of `rest`, where `before` holds the characters before it, last one first.
def lowerFrom (before : Text) : Text → Text
  | [] => []
  | c :: rest =>
    let lowered :=
      if c = '\u03a3' then (if startsCased before && !startsCased rest then ['\u03c2'] else ['\u03c3'])
      else lowerChar c
    lowered ++ lowerFrom (c :: before) rest

def lowerCase (text : Text) : Text :=
  lowerFrom [] text

end FilterAssist
