import FilterAssist.Buffer

set_option autoImplicit false

/-!
A buffer as three lists side by side: its lines, their tokens and the states at the line boundaries.
An edit cuts all three in step and then lexes line by line; a place outside a list would be a
failure.
-/
namespace FilterAssist

structure LineVectors where
  lexer : Lexer
  lines : List Text
  states : List LexState
  tokens : List (List Token)

def splice {α : Type} (items : List α) (start stop : Nat) (others : List α) : List α :=
  items.take start ++ others ++ items.drop stop

namespace LineVectors

/-- Lexes one line, and tells whether the lines after it can stay: no line up to `required` is left
and the next line starts as before. -/
def relexLine (vectors : LineVectors) (line required : Nat) : Option (LineVectors × Bool) :=
  match vectors.lines[line]?, vectors.states[line]?, vectors.states[line + 1]?, vectors.tokens[line]? with
  | some text, some state, some cached, some _ =>
    let lexed := vectors.lexer.lexLine text state
    let after := lexed.2.clearPending
    some ({ vectors with tokens := vectors.tokens.set line lexed.1, states := vectors.states.set (line + 1) after },
      decide (required ≤ line + 1) && decide (cached = after))
  | _, _, _, _ => none

theorem relex_line_lines (vectors next : LineVectors) (line required : Nat) (converged : Bool)
    (lexed : vectors.relexLine line required = some (next, converged)) : next.lines = vectors.lines := by
  unfold relexLine at lexed
  split at lexed
  · cases lexed
    rfl
  · cases lexed

def relex (vectors : LineVectors) (line required : Nat) : Option (LineVectors × Nat) :=
  if _inside : line < vectors.lines.length then
    match _lexed : vectors.relexLine line required with
    | none => none
    | some (next, true) => some (next, line + 1)
    | some (next, false) => next.relex (line + 1) required
  else some (vectors, line)
termination_by vectors.lines.length - line
decreasing_by
  rw [relex_line_lines vectors next line required false _lexed]
  omega

def setText (vectors : LineVectors) (text : Text) : Option LineVectors :=
  let lines := splitLines text
  let blank : LineVectors :=
    ⟨vectors.lexer, lines, List.replicate (lines.length + 1) .start, List.replicate lines.length []⟩
  (blank.relex 0 lines.length).map Prod.fst

def ofText (lexer : Lexer) (text : Text) : Option LineVectors :=
  setText ⟨lexer, [], [], []⟩ text

-- The state at the end of the range stays behind the new lines, for the comparison.
def splicedStates (vectors : LineVectors) (start stop inserted : Nat) : Option (List LexState) :=
  if inserted = 0 then some (splice vectors.states (start + 1) (stop + 1) [])
  else
    vectors.states[stop]?.map fun cached =>
      splice vectors.states (start + 1) (stop + 1) (List.replicate (inserted - 1) .start ++ [cached])

def cut (vectors : LineVectors) (start stop : Nat) (texts : List Text) : Option LineVectors :=
  (vectors.splicedStates start stop texts.length).map fun states =>
    let lines := splice vectors.lines start stop texts
    let tokens := splice vectors.tokens start stop (List.replicate texts.length [])
    if lines = [] then ⟨vectors.lexer, [[]], states ++ [.start], tokens ++ [[]]⟩
    else ⟨vectors.lexer, lines, states, tokens⟩

def replaceLines (vectors : LineVectors) (range : LineRange) (texts : List Text) : Option (LineVectors × LineRange) :=
  let stop := min range.stop vectors.lines.length
  let start := min range.start stop
  (vectors.cut start stop texts).bind fun cut =>
    (cut.relex start (start + texts.length)).map fun relexed => (relexed.1, ⟨start, relexed.2⟩)

def setLine (vectors : LineVectors) (line : Nat) (text : Text) : Option (LineVectors × LineRange) :=
  vectors.replaceLines ⟨line, line + 1⟩ [text]

def buffer (vectors : LineVectors) : Buffer :=
  ⟨vectors.lexer, (vectors.lines.zip (vectors.tokens.zip vectors.states.tail)).map fun row => ⟨row.1, row.2.1, row.2.2⟩⟩

end LineVectors

def Buffer.vectors (buffer : Buffer) : LineVectors :=
  ⟨buffer.lexer, buffer.lines, buffer.states, buffer.rows.map BufferLine.tokens⟩

end FilterAssist
