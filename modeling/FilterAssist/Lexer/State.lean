import FilterAssist.Token

set_option autoImplicit false

/-!
What one line of a filter hands on to the next.
-/
namespace FilterAssist

inductive LexMode where
  | plain
  | inString (quote : Char)
  | inComment
deriving DecidableEq, Repr

structure Frame where
  parentIndent : UInt64
  column : UInt64
  closing : Char
  aligned : Bool
deriving DecidableEq, Repr

structure LexState where
  mode : LexMode := .plain
  lastKind : Option TokenKind := none
  -- The open brackets, innermost first.
  frames : List Frame := []
  -- Whether the innermost frame was opened on this line and nothing has followed it yet.
  pendingAlign : Bool := false
deriving DecidableEq, Repr

namespace LexState

def start : LexState := {}

def isContinuing (state : LexState) : Bool :=
  decide (state.mode ≠ .plain)

def depth (state : LexState) : Nat :=
  state.frames.length

def clearPending (state : LexState) : LexState :=
  { state with pendingAlign := false }

end LexState

end FilterAssist
