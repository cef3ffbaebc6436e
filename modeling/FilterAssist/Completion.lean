import FilterAssist.Navigation
import FilterAssist.Vocabulary

set_option autoImplicit false

/-!
Completion: which words may stand at the cursor, given the meaningful token before it. Candidates
come in alphabetical order without regard to case, and no label comes twice.
-/
namespace FilterAssist

inductive CandidateIcon where
  | text
  | field
  | keyword
  | enumMember
  | operator
deriving DecidableEq, Repr

def CandidateIcon.code : CandidateIcon → Nat
  | .text => 1
  | .field => 5
  | .keyword => 14
  | .enumMember => 20
  | .operator => 24

def WordCategory.icon : WordCategory → CandidateIcon
  | .target => .field
  | .operator => .operator
  | .logical => .keyword
  | .unary => .keyword
  | .keyword => .keyword
  | .punctuationControl => .enumMember

structure Candidate where
  label : Text
  category : Option WordCategory
deriving DecidableEq, Repr

namespace Candidate

def detail (candidate : Candidate) : Option String :=
  candidate.category.map WordCategory.name

def icon (candidate : Candidate) : CandidateIcon :=
  match candidate.category with
  | none => .text
  | some category => category.icon

-- The entry put beside a lone candidate, so that an editor does not insert that one unasked.
def sentinel : Candidate :=
  ⟨[' '], none⟩

end Candidate

def punctuationOperators : List Text :=
  ["contains".toList, "contains_any".toList, "contains_near".toList]

def isCaseOperator (previous : Option Token) : Bool :=
  match previous with
  | none => false
  | some token => decide (token.kind = some .operator ∧ token.text = "cs".toList)

def allowsPunctuation (previous : Option Token) : Bool :=
  match previous with
  | none => false
  | some token =>
    decide (token.kind = some .operator) && punctuationOperators.contains (lowerCase token.text)

def candidateCategories (previous : Option Token) : List WordCategory :=
  let kind := previous.bind Token.kind
  (if kind = some .target ∨ isCaseOperator previous then [.operator] else []) ++
  (if kind = some .operator ∨ kind = some .string ∨ kind = some .number ∨
      kind = some .closeBracket ∨ kind = some .keyword then [.logical] else []) ++
  (if kind = none ∨ kind = some .openBracket ∨ kind = some .keyword ∨ kind = some .logical then
    [.target, .unary] else []) ++
  (if kind = none ∨ kind = some .openBracket ∨ kind = some .closeBracket then [.keyword] else []) ++
  (if allowsPunctuation previous then [.punctuationControl] else [])

def Word.continues (word : Word) (typed folded : Text) : Bool :=
  word.text.length != typed.length && folded.isPrefixOf word.folded

def Word.le (a b : Word) : Bool :=
  if a.folded = b.folded then Text.le a.text b.text else Text.le a.folded b.folded

def dropRepeats : List Candidate → List Candidate
  | [] => []
  | candidate :: rest =>
    match dropRepeats rest with
    | [] => [candidate]
    | next :: others =>
      if next.label = candidate.label then candidate :: others else candidate :: next :: others

def completionCandidates (vocabulary : Vocabulary) (typed : Text) (previous : Option Token) :
    List Candidate :=
  let folded := lowerCase typed
  let offered := (candidateCategories previous).flatMap fun category =>
    ((vocabulary.set category).entries.filter fun word => word.continues typed folded).map
      fun word => (word, category)
  let sorted := offered.mergeSort fun a b => a.1.le b.1
  dropRepeats (sorted.map fun entry => ⟨entry.1.text, some entry.2⟩)

structure CompletionList where
  items : List Candidate
  line : Nat
  start : Nat
  stop : Nat
deriving DecidableEq, Repr

namespace CompletionList

def labels (list : CompletionList) : List Text :=
  list.items.map Candidate.label

def isEmpty (list : CompletionList) : Bool :=
  list.items.isEmpty

def guarded (list : CompletionList) : CompletionList :=
  match list.items with
  | [candidate] => { list with items := [candidate, .sentinel] }
  | _ => list

end CompletionList

def isCompletable (c : Char) : Bool :=
  isLetter c || isDigit c || "_<>=!.()[]".toList.contains c

structure CompletionContext where
  line : Nat
  current : Token
  previous : Option Token
deriving DecidableEq, Repr

namespace CompletionContext

def currentAt (document : Document) (line column : Nat) : Option Token :=
  match document.tokenAt line column with
  | none => none
  | some token =>
    if token.kind = some .string ∨ token.kind = some .comment then none
    else if token.isWhitespace then some (Token.empty (min column (document.lineLength line)))
    else if token.text ≠ [] ∧ token.text.all isCompletable then some token
    else none

def at? (document : Document) (line column : Nat) : Option CompletionContext :=
  (currentAt document line column).map fun current =>
    ⟨line, current, document.previousToken line current.start⟩

def complete (context : CompletionContext) (vocabulary : Vocabulary) : CompletionList where
  items := completionCandidates vocabulary context.current.text context.previous
  line := context.line
  start := context.current.start
  stop := context.current.stop

end CompletionContext

structure SeenToken where
  line : Nat
  start : Nat
  text : Text
deriving DecidableEq, Repr

-- The requests of one editor; a request for the token seen last is not answered again.
structure CompletionSession where
  lastSeen : Option SeenToken := none
deriving DecidableEq, Repr

namespace CompletionSession

def request (session : CompletionSession) (document : Document) (vocabulary : Vocabulary)
    (line column : Nat) : Option CompletionList × CompletionSession :=
  match document.tokenAt line column with
  | none => (none, session)
  | some token =>
    let seen : SeenToken := ⟨line, token.start, token.text⟩
    if session.lastSeen = some seen then (none, session)
    else
      let list := match CompletionContext.at? document line column with
        | some context => context.complete vocabulary
        | none => ⟨[], line, token.start, token.stop⟩
      (some list, ⟨some seen⟩)

def reset (_ : CompletionSession) : CompletionSession :=
  {}

end CompletionSession

end FilterAssist
