import Mathlib
import FilterAssist.Proofs.Completion.ReplacedText

set_option autoImplicit false

/-!
Requests that are not answered. A session compares the place and the text of the token under the cursor
with those of the token it answered last, and these two say which token of the line it is. Since the words
offered depend on that token alone, an answer that is withheld would have offered the words of the last one.
-/
namespace FilterAssist

inductive SessionCall where
  | request (line column : Nat)
  | reset
deriving DecidableEq, Repr

structure SessionRun where
  session : CompletionSession := {}
  last : Option CompletionList := none
deriving DecidableEq, Repr

namespace SessionRun

def call (document : Document) (vocabulary : Vocabulary) (run : SessionRun) : SessionCall → SessionRun
  | .request line column =>
    let answered := run.session.request document vocabulary line column
    ⟨answered.2, answered.1.or run.last⟩
  | .reset => { run with session := run.session.reset }

def calls (document : Document) (vocabulary : Vocabulary) (history : List SessionCall) : SessionRun :=
  history.foldl (call document vocabulary) {}

end SessionRun

def answerAt (document : Document) (vocabulary : Vocabulary) (line column : Nat) (token : Token) : CompletionList :=
  match CompletionContext.at? document line column with
  | some context => context.complete vocabulary
  | none => ⟨[], line, token.start, token.stop⟩

def tokenItems (document : Document) (vocabulary : Vocabulary) (line : Nat) (token : Token) : List Candidate :=
  let previous := document.previousToken line token.start
  if token.kind = some .string ∨ token.kind = some .comment then []
  else if token.isWhitespace then completionCandidates vocabulary [] previous
  else if token.text ≠ [] ∧ token.text.all isCompletable then completionCandidates vocabulary token.text previous
  else []

-- What the session has seen last is what it answered last.
def SessionRun.Remembers (document : Document) (vocabulary : Vocabulary) (run : SessionRun) : Prop :=
  ∀ seen, run.session.lastSeen = some seen → ∃ column token, document.tokenAt seen.line column = some token ∧
    seen = ⟨seen.line, token.start, token.text⟩ ∧ run.last = some (answerAt document vocabulary seen.line column token)

theorem request_cases (session : CompletionSession) (document : Document) (vocabulary : Vocabulary) (line column : Nat) :
    (document.tokenAt line column = none ∧ session.request document vocabulary line column = (none, session)) ∨
      ∃ token, document.tokenAt line column = some token ∧
        ((session.lastSeen = some ⟨line, token.start, token.text⟩ ∧
            session.request document vocabulary line column = (none, session)) ∨
          (session.lastSeen ≠ some ⟨line, token.start, token.text⟩ ∧
            session.request document vocabulary line column =
              (some (answerAt document vocabulary line column token), ⟨some ⟨line, token.start, token.text⟩⟩))) := by
  unfold CompletionSession.request
  cases under : document.tokenAt line column with
  | none => exact .inl ⟨rfl, rfl⟩
  | some token =>
      refine .inr ⟨token, rfl, ?_⟩
      by_cases seen : session.lastSeen = some ⟨line, token.start, token.text⟩
      · exact .inl ⟨seen, if_pos seen⟩
      · exact .inr ⟨seen, if_neg seen⟩

theorem fresh_request (document : Document) (vocabulary : Vocabulary) (line column : Nat) (token : Token)
    (under : document.tokenAt line column = some token) :
    (CompletionSession.request {} document vocabulary line column).1 =
      some (answerAt document vocabulary line column token) := by
  rcases request_cases {} document vocabulary line column with ⟨none, _⟩ | ⟨other, found, ⟨seen, _⟩ | ⟨_, answered⟩⟩
  · rw [none] at under
    cases under
  · cases seen
  · rw [found] at under
    cases under
    rw [answered]

theorem call_remembers (document : Document) (vocabulary : Vocabulary) (run : SessionRun) (call : SessionCall)
    (remembers : run.Remembers document vocabulary) : (run.call document vocabulary call).Remembers document vocabulary := by
  cases call with
  | reset =>
      intro seen found
      cases found
  | request line column =>
      rcases request_cases run.session document vocabulary line column with
        ⟨_, silent⟩ | ⟨token, under, ⟨_, silent⟩ | ⟨_, answered⟩⟩
      · simpa only [SessionRun.call, silent, Option.none_or] using remembers
      · simpa only [SessionRun.call, silent, Option.none_or] using remembers
      · simp only [SessionRun.call, answered, Option.some_or]
        intro seen found
        cases found
        exact ⟨column, token, under, rfl, rfl⟩

theorem calls_remember (document : Document) (vocabulary : Vocabulary) (history : List SessionCall) (run : SessionRun)
    (remembers : run.Remembers document vocabulary) :
    (history.foldl (SessionRun.call document vocabulary) run).Remembers document vocabulary := by
  induction history generalizing run with
  | nil => exact remembers
  | cons call history ih =>
      exact ih (run.call document vocabulary call) (call_remembers document vocabulary run call remembers)

theorem previous_token_on_blank (document : Document) (line column : Nat) (content : Text) (token : Token)
    (tiled : document.Tiled) (here : document.lineText? line = some content)
    (under : document.tokenAt line column = some token) (blank : token.isWhitespace = true) :
    document.previousToken line (min column content.length) = document.previousToken line token.start := by
  have inside := line_text_inside document line content here
  rcases token_at_cases document line column content tiled here with
    ⟨first, found⟩ | ⟨earlier, other, later, covers, found⟩
  · rw [found] at under
    cases under
    rw [first]
    rfl
  · rw [found] at under
    cases under
    rw [previous_token_nearest document line _ tiled inside, previous_token_nearest document line _ tiled inside,
      tokens_before_covered document line _ earlier later token covers, last_meaningful_snoc,
      whitespace_meaningless token blank, if_neg Bool.false_ne_true]

theorem answer_at_token (document : Document) (vocabulary : Vocabulary) (line column : Nat) (content : Text)
    (token : Token) (tiled : document.Tiled) (here : document.lineText? line = some content)
    (under : document.tokenAt line column = some token) :
    answerAt document vocabulary line column token =
      ⟨tokenItems document vocabulary line token, line,
        if token.isWhitespace then min column content.length else token.start,
        if token.isWhitespace then min column content.length else token.stop⟩ := by
  have current := current_at_token document line column content token here under
  unfold answerAt tokenItems CompletionContext.at?
  rw [current]
  by_cases closed : token.kind = some .string ∨ token.kind = some .comment
  · have solid : token.isWhitespace = false := by
      rcases closed with string | comment
      · simp [Token.isWhitespace, string]
      · simp [Token.isWhitespace, comment]
    simp [closed, solid]
  · simp only [if_neg closed]
    by_cases blank : token.isWhitespace = true
    · simp only [if_pos blank]
      rw [← previous_token_on_blank document line column content token tiled here under blank]
      rfl
    · simp only [if_neg blank]
      by_cases completable : token.text ≠ [] ∧ token.text.all isCompletable = true
      · simp only [if_pos completable]
        rfl
      · simp only [if_neg completable]
        rfl

theorem covering_token_filled (document : Document) (line column : Nat) (content : Text) (earlier later : List Token)
    (token : Token) (tiled : document.Tiled) (here : document.lineText? line = some content)
    (covers : Covers (document.lineTokens line) earlier token later column) :
    token ∈ document.lineTokens line ∧ token.text ≠ [] := by
  have tiles := tiled_content document line content tiled here
  have member : token ∈ document.lineTokens line := by
    rw [covers.parts]
    exact List.mem_append_right earlier List.mem_cons_self
  have bounds := tiles_within content _ 0 _ tiles token member
  have size : token.text.length = token.stop - token.start := by
    rw [tiles_text content _ 0 _ tiles token member, slice, List.length_take, List.length_drop]
    omega
  refine ⟨member, fun empty => ?_⟩
  rw [empty, List.length_nil] at size
  omega

theorem token_at_determined (document : Document) (line one two : Nat) (content : Text) (token other : Token)
    (tiled : document.Tiled) (here : document.lineText? line = some content)
    (first : document.tokenAt line one = some token) (second : document.tokenAt line two = some other)
    (start : token.start = other.start) (text : token.text = other.text) : token = other := by
  -- Two tokens under the cursor with one start and one text are one token: the empty one is alone in having no
  -- text, and no two of the others start at one column.
  have filled (column : Nat) (earlier later : List Token) (token : Token) :=
    covering_token_filled document line column content earlier later token tiled here
  rcases token_at_cases document line one content tiled here with ⟨_, empty⟩ | ⟨earlier, under, later, covers, found⟩ <;>
    rcases token_at_cases document line two content tiled here with ⟨_, blank⟩ | ⟨before, beneath, after, spans, reached⟩
  · rw [empty] at first
    rw [blank] at second
    exact Option.some.inj (first.symm.trans second)
  · rw [empty] at first
    rw [reached] at second
    cases first
    cases second
    exact absurd text.symm (filled _ before after other spans).2
  · rw [found] at first
    rw [blank] at second
    cases first
    cases second
    exact absurd text (filled _ earlier later token covers).2
  · rw [found] at first
    rw [reached] at second
    cases first
    cases second
    exact tiles_start_inj content _ 0 _ (tiled_content document line content tiled here) token other
      (filled _ earlier later token covers).1 (filled _ before after other spans).1 start

theorem withheld_answer_repeats (lexer : Lexer) (text : Text) (edits : List Edit) (vocabulary : Vocabulary)
    (history : List SessionCall) (line column : Nat)
    (present : line < ((Buffer.ofText lexer text).editAll edits).document.lineCount)
    (silent : ((SessionRun.calls ((Buffer.ofText lexer text).editAll edits).document vocabulary history).session.request
      ((Buffer.ofText lexer text).editAll edits).document vocabulary line column).1 = none) :
    let document := ((Buffer.ofText lexer text).editAll edits).document
    ∃ token last answer, document.tokenAt line column = some token ∧
      (SessionRun.calls document vocabulary history).last = some last ∧
      (CompletionSession.request {} document vocabulary line column).1 = some answer ∧
      answer.line = last.line ∧ answer.items = last.items ∧
      (token.isWhitespace = false → answer.start = last.start ∧ answer.stop = last.stop) := by
  intro document
  have tiled : document.Tiled := fresh_document_tiled _ (edit_all_fresh _ edits (of_text_fresh lexer text))
  have remembers : (SessionRun.calls document vocabulary history).Remembers document vocabulary :=
    calls_remember document vocabulary history {} (fun seen found => by cases found)
  obtain ⟨content, here⟩ : ∃ content, document.lineText? line = some content :=
    ⟨_, congrArg (Option.map DocumentLine.text) (List.getElem?_eq_getElem present)⟩
  rcases request_cases (SessionRun.calls document vocabulary history).session document vocabulary line column with
    ⟨none, _⟩ | ⟨token, under, ⟨seen, _⟩ | ⟨_, answered⟩⟩
  · rcases token_at_cases document line column content tiled here with ⟨_, found⟩ | ⟨_, _, _, _, found⟩
    · cases none.symm.trans found
    · cases none.symm.trans found
  · obtain ⟨earlier, other, before, same, last⟩ := remembers _ seen
    obtain ⟨_, start, spelled⟩ := SeenToken.mk.inj same
    have one := token_at_determined document line column earlier content token other tiled here under before start spelled
    subst other
    rw [answer_at_token document vocabulary line earlier content token tiled here before] at last
    have fresh := fresh_request document vocabulary line column token under
    rw [answer_at_token document vocabulary line column content token tiled here under] at fresh
    refine ⟨token, _, _, under, last, fresh, rfl, rfl, fun solid => ?_⟩
    simp [solid]
  · rw [answered] at silent
    cases silent

theorem withheld_answer_repeats_inside_gap :
    let vocabulary := Vocabulary.ofLists { logical := ["or".toList, "order".toList] }
    let lexer : Lexer := { vocabulary := vocabulary }
    let edits : List Edit := [.setLine 1 "'a'  OR".toList]
    let document := ((Buffer.ofText lexer []).editAll edits).document
    let onBlanks : List SessionCall := [.request 1 6, .reset, .request 7 0, .request 1 4]
    let onWord : List SessionCall := onBlanks ++ [.request 1 6]
    let words : List Candidate := [⟨"or".toList, some .logical⟩, ⟨"order".toList, some .logical⟩]
    1 < document.lineCount ∧
      ((SessionRun.calls document vocabulary onBlanks).session.request document vocabulary 1 5).1 = none ∧
      (SessionRun.calls document vocabulary onBlanks).last = some ⟨words, 1, 4, 4⟩ ∧
      (∃ answer, (CompletionSession.request {} document vocabulary 1 5).1 = some answer ∧ answer.line = 1 ∧
        answer.items = words) ∧
      ((SessionRun.calls document vocabulary onWord).session.request document vocabulary 1 7).1 = none ∧
      (CompletionSession.request {} document vocabulary 1 7).1 = some ⟨words.tail, 1, 5, 7⟩ := by
  intro vocabulary lexer edits document onBlanks onWord words
  have present : 1 < document.lineCount := by
    unfold document edits lexer vocabulary
    cbv
  have silent : ((SessionRun.calls document vocabulary onBlanks).session.request document vocabulary 1 5).1 = none := by
    unfold document edits lexer vocabulary onBlanks
    cbv
  have quiet : ((SessionRun.calls document vocabulary onWord).session.request document vocabulary 1 7).1 = none := by
    unfold document edits lexer vocabulary onWord onBlanks
    cbv
  have listed : (SessionRun.calls document vocabulary onBlanks).last = some ⟨words, 1, 4, 4⟩ := by
    unfold document edits lexer vocabulary onBlanks words
    cbv
  have narrowed : (SessionRun.calls document vocabulary onWord).last = some ⟨words.tail, 1, 5, 7⟩ := by
    unfold document edits lexer vocabulary onWord onBlanks words
    cbv
  have word : document.tokenAt 1 7 = some ⟨some .logical, "OR".toList, 5, 7⟩ := by
    unfold document edits lexer vocabulary
    cbv
  obtain ⟨_, last, answer, _, returned, asked, line, items, _⟩ :=
    withheld_answer_repeats lexer [] edits vocabulary onBlanks 1 5 present silent
  cases listed.symm.trans returned
  obtain ⟨token, last, other, under, returned, repeated, place, rest, range⟩ :=
    withheld_answer_repeats lexer [] edits vocabulary onWord 1 7 present quiet
  cases narrowed.symm.trans returned
  cases word.symm.trans under
  obtain ⟨start, stop⟩ := range rfl
  refine ⟨present, silent, listed, ⟨answer, asked, line, items⟩, quiet, ?_⟩
  rw [repeated]
  cases other
  cases place
  cases rest
  cases start
  cases stop
  rfl

end FilterAssist
