import FilterAssist.Lexer.Layout
import FilterAssist.Lexer.Reading

set_option autoImplicit false

/-!
Lexing a line: one token at a time, or the whole line from the state the line before left.
-/
namespace FilterAssist

structure Lexer where
  vocabulary : Vocabulary
  layout : Layout := {}

def closingOf (token : Token) : Option Char :=
  if token.kind = some .openBracket then
    match token.text with
    | ['('] => some ')'
    | ['{'] => some '}'
    | _ => none
  else none

def LexState.settleAlign (state : LexState) (alignBrackets : Bool) : LexState :=
  if state.pendingAlign then
    let frames := match alignBrackets, state.frames with
      | true, frame :: outer => { frame with aligned := true } :: outer
      | _, frames => frames
    { state with pendingAlign := false, frames := frames }
  else state

def LexState.close (state : LexState) (c : Char) : LexState :=
  match state.frames with
  | frame :: outer => if frame.closing = c then { state with frames := outer } else state
  | [] => state

namespace Lexer

def track (lexer : Lexer) (line : Text) (token : Token) (state : LexState) : LexState :=
  if token.kind = some .comment then state
  else
    match closingOf token with
    | some closing =>
      let frame : Frame :=
        { parentIndent := indentation lexer.layout.tabWord line
          column := wordColumn lexer.layout.tabWord line token.start
          closing := closing
          aligned := false }
      { state with frames := frame :: state.frames, pendingAlign := true }
    | none =>
      let settled := state.settleAlign lexer.layout.alignBrackets
      match token.kind, token.text with
      | some .closeBracket, c :: _ => settled.close c
      | _, _ => settled

def readToken (lexer : Lexer) (cursor : Cursor) (state : LexState) : Option (Token × Cursor × LexState) :=
  if cursor.atEnd then none
  else
    let state := if cursor.atStart then state.clearPending else state
    match cursor.markStart.eatBlanks with
    | (true, after) => some (after.token none, after, state)
    | (false, cursor) =>
      let reading := read lexer.vocabulary cursor state
      let token := reading.cursor.token reading.kind
      some (token, reading.cursor, lexer.track cursor.line token { reading.state with lastKind := reading.kind })

theorem read_token_shorter {lexer : Lexer} {cursor after : Cursor} {state reached : LexState} {token : Token}
    (found : lexer.readToken cursor state = some (token, after, reached)) :
    after.rest.length < cursor.rest.length := by
  simp only [readToken] at found
  split at found
  · cases found
  · rename_i inside
    have further : 0 < cursor.rest.length :=
      List.length_pos_iff.mpr fun ended => inside (cursor.at_end_iff.mpr ended)
    have unmarked : cursor.markStart.rest = cursor.rest := rfl
    split at found
    · rename_i next blank
      obtain ⟨taken, moved⟩ := Cursor.eat_while_some _ _ _ blank
      cases found
      rw [moved, Cursor.rest_move, unmarked, List.length_drop]
      rw [unmarked] at taken
      omega
    · rename_i next solid
      obtain ⟨-, kept⟩ := Cursor.eat_while_none _ _ _ solid
      cases found
      rw [kept]
      have shorter := read_shorter lexer.vocabulary cursor.markStart
        (if cursor.atStart then state.clearPending else state)
      rw [unmarked] at shorter
      omega

def lexCursor (lexer : Lexer) (cursor : Cursor) (state : LexState) : List Token × LexState :=
  match _found : lexer.readToken cursor state with
  | none => ([], state)
  | some (token, after, reached) =>
    let rest := lexer.lexCursor after reached
    (token :: rest.1, rest.2)
termination_by cursor.rest.length
decreasing_by exact read_token_shorter _found

def lexSome (lexer : Lexer) : Nat → Cursor → LexState → List Token × Cursor × LexState
  | 0, cursor, state => ([], cursor, state)
  | count + 1, cursor, state =>
    match lexer.readToken cursor state with
    | none => ([], cursor, state)
    | some (token, after, reached) =>
      let rest := lexer.lexSome count after reached
      (token :: rest.1, rest.2)

def nextToken (lexer : Lexer) (line : Text) (column : Nat) (state : LexState) : Option (Token × LexState) :=
  (lexer.readToken (.ofColumn line column) state).map fun found => (found.1, found.2.2)

def lexFrom (lexer : Lexer) (line : Text) (column : Nat) (state : LexState) : List Token × LexState :=
  lexer.lexCursor (.ofColumn line column) state

def lexLine (lexer : Lexer) (line : Text) (state : LexState) : List Token × LexState :=
  lexer.lexFrom line 0 state.clearPending

def indent (lexer : Lexer) (state : LexState) (text : Text) : Option UInt64 :=
  match state.frames with
  | [] => none
  | frame :: _ =>
    if frame.aligned then
      some (if text.head? = some frame.closing then frame.column else frame.column + 1)
    else some (frame.parentIndent + UInt64.ofNat lexer.layout.indentUnit)

end Lexer

end FilterAssist
