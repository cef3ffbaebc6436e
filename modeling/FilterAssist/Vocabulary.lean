import FilterAssist.Text.LowerCase
import FilterAssist.Token

set_option autoImplicit false

/-!
The words of the filter language. The language has no fixed word list: which words are targets,
operators and so on depends on the data source. Words are looked up without regard to letter case
and offered as they were configured.
-/
namespace FilterAssist

structure WordLists where
  targets : List Text := []
  operators : List Text := []
  logical : List Text := []
  unary : List Text := []
  keywords : List Text := []
  punctuationControl : List Text := []
deriving DecidableEq, Repr

inductive WordCategory where
  | target
  | operator
  | logical
  | unary
  | keyword
  | punctuationControl
deriving DecidableEq, Repr

namespace WordCategory

def all : List WordCategory :=
  [.target, .operator, .logical, .unary, .keyword, .punctuationControl]

def kind : WordCategory → TokenKind
  | .target => .target
  | .operator => .operator
  | .logical => .logical
  | .unary => .logical
  | .keyword => .keyword
  | .punctuationControl => .punctuation

def name : WordCategory → String
  | .target => "target"
  | .operator => "operator"
  | .logical => "logical"
  | .unary => "unary"
  | .keyword => "keyword"
  | .punctuationControl => "punctuation control"

end WordCategory

structure Word where
  text : Text
  folded : Text
  folded_eq : folded = lowerCase text

def Word.ofText (text : Text) : Word :=
  ⟨text, lowerCase text, rfl⟩

/-- The words of one category in configured order, no two alike up to letter case. -/
structure WordSet where
  entries : List Word := []

namespace WordSet

def holds (set : WordSet) (folded : Text) : Bool :=
  set.entries.any fun word => word.folded == folded

def contains (set : WordSet) (text : Text) : Bool :=
  set.holds (lowerCase text)

def insert (set : WordSet) (text : Text) : WordSet :=
  let word := Word.ofText text
  if text.isEmpty || set.holds word.folded then set else ⟨set.entries ++ [word]⟩

def ofList (texts : List Text) : WordSet :=
  texts.foldl insert {}

def words (set : WordSet) : List Text :=
  set.entries.map Word.text

end WordSet

structure Vocabulary where
  targets : WordSet
  operators : WordSet
  logical : WordSet
  unary : WordSet
  keywords : WordSet
  punctuationControl : WordSet

-- `tag.` and `tags.` open the name of a namespaced tag, which reads as a keyword.
def isNamespacedTag (folded : Text) : Bool :=
  "tag.".toList.isPrefixOf folded || "tags.".toList.isPrefixOf folded

namespace Vocabulary

def ofLists (lists : WordLists) : Vocabulary where
  targets := WordSet.ofList lists.targets
  operators := WordSet.ofList lists.operators
  logical := WordSet.ofList lists.logical
  unary := WordSet.ofList lists.unary
  keywords := WordSet.ofList lists.keywords
  punctuationControl := WordSet.ofList lists.punctuationControl

def set (vocabulary : Vocabulary) : WordCategory → WordSet
  | .target => vocabulary.targets
  | .operator => vocabulary.operators
  | .logical => vocabulary.logical
  | .unary => vocabulary.unary
  | .keyword => vocabulary.keywords
  | .punctuationControl => vocabulary.punctuationControl

def words (vocabulary : Vocabulary) (category : WordCategory) : List Text :=
  (vocabulary.set category).words

def holds (vocabulary : Vocabulary) (category : WordCategory) (folded : Text) : Bool :=
  (vocabulary.set category).holds folded

def contains (vocabulary : Vocabulary) (category : WordCategory) (text : Text) : Bool :=
  (vocabulary.set category).contains text

def isLogical (vocabulary : Vocabulary) (text : Text) : Bool :=
  vocabulary.contains .logical text || vocabulary.contains .unary text

def classify (vocabulary : Vocabulary) (text : Text) : Option TokenKind :=
  let folded := lowerCase text
  if vocabulary.holds .operator folded then some .operator
  else if vocabulary.holds .logical folded || vocabulary.holds .unary folded then some .logical
  else if vocabulary.holds .keyword folded || isNamespacedTag folded then some .keyword
  else if vocabulary.holds .punctuationControl folded then some .punctuation
  else if vocabulary.holds .target folded then some .target
  else none

end Vocabulary

end FilterAssist
