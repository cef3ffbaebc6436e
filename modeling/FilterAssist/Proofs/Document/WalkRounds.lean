import Mathlib
import FilterAssist.Navigation

set_option autoImplicit false

/-!
The walks to the nearest token on any host. A host answers for its lines and tokens as it likes: tokens may lie
apart or on one another, out of order or past the line, and may even be given by a rule of the host's own. Each
round of a walk stops or gets nearer to an end of the text, so that the rounds are bounded by the characters and
line ends on the way, and a walk that stops at a token stops at one that means something.
-/
namespace FilterAssist

-- What a walk asks of a text. Nothing ties the answers to one another.
structure TokenHost where
  lineCount : Nat
  lineText? : Nat → Option Text
  tokenAt : Nat → Nat → Option Token

inductive Round (α : Type) where
  | done (answer : Option α)
  | onward (line column : Nat)

def Round.follow {α : Type} (walk : Nat → Nat → Option α) : Round α → Option α
  | .done answer => answer
  | .onward line column => walk line column

inductive Ends {α : Type} (round : Nat → Nat → Round α) : Nat → Nat → Nat → Option α → Prop
  | done (line column : Nat) (answer : Option α) (last : round line column = .done answer) :
      Ends round line column 1 answer
  | onward (line column nextLine nextColumn rounds : Nat) (answer : Option α)
      (first : round line column = .onward nextLine nextColumn) (rest : Ends round nextLine nextColumn rounds answer) :
      Ends round line column (rounds + 1) answer

def Token.Meaningful (token : Token) : Prop :=
  ∃ kind, token.kind = some kind ∧ kind ≠ .comment

theorem meaningful_iff (token : Token) : token.isMeaningful = true ↔ token.Meaningful := by
  rw [Token.isMeaningful, Token.Meaningful]
  cases token.kind <;> simp

namespace TokenHost

def lineLength (host : TokenHost) (line : Nat) : Nat :=
  ((host.lineText? line).map List.length).getD 0

def backwardRound (host : TokenHost) (line column : Nat) : Round (Nat × Token) :=
  if column = 0 then
    if line = 0 then .done none else .onward (line - 1) (host.lineLength (line - 1))
  else
    match host.tokenAt line column with
    | none => .done none
    | some token =>
      if token.isMeaningful then .done (some (line, token)) else .onward line (min token.start (column - 1))

def forwardRound (host : TokenHost) (line column : Nat) : Round Token :=
  if host.lineLength line ≤ column then
    if host.lineCount ≤ line + 1 then .done none else .onward (line + 1) 0
  else
    match host.tokenAt line (column + 1) with
    | none => .done none
    | some token => if token.isMeaningful then .done (some token) else .onward line (max token.stop (column + 1))

def sizeBefore (host : TokenHost) (line column : Nat) : Nat :=
  column + ∑ above ∈ Finset.range line, (host.lineLength above + 1)

def sizeAfter (host : TokenHost) (line column : Nat) : Nat :=
  (host.lineLength line - column) + ∑ below ∈ Finset.Ico (line + 1) host.lineCount, (host.lineLength below + 1)

end TokenHost

theorem rounds_end {α : Type} (round : Nat → Nat → Round α) (size : Nat → Nat → Nat) (accepted : Option α → Prop)
    (shrinks : ∀ line column nextLine nextColumn, round line column = .onward nextLine nextColumn →
      size nextLine nextColumn < size line column)
    (sound : ∀ line column answer, round line column = .done answer → accepted answer) (line column : Nat) :
    ∃ rounds answer, Ends round line column rounds answer ∧ rounds ≤ size line column + 1 ∧ accepted answer := by
  induction measured : size line column using Nat.strong_induction_on generalizing line column with
  | _ most ih =>
      cases turn : round line column with
      | done answer => exact ⟨1, answer, .done line column answer turn, by omega, sound line column answer turn⟩
      | onward nextLine nextColumn =>
          have less := shrinks line column nextLine nextColumn turn
          obtain ⟨rounds, answer, ends, bound, found⟩ := ih _ (by omega) nextLine nextColumn rfl
          exact ⟨rounds + 1, answer, .onward line column _ _ rounds answer turn ends, by omega, found⟩

theorem backward_round_cases (host : TokenHost) (line column : Nat) :
    (∃ above, line = above + 1 ∧ column = 0 ∧
        host.backwardRound line column = .onward above (host.lineLength above)) ∨
      (∃ left, left < column ∧ host.backwardRound line column = .onward line left) ∨
      host.backwardRound line column = .done none ∨
      ∃ token, token.Meaningful ∧ host.backwardRound line column = .done (some (line, token)) := by
  unfold TokenHost.backwardRound
  by_cases origin : column = 0
  · rw [if_pos origin]
    cases line with
    | zero => exact .inr (.inr (.inl rfl))
    | succ above => exact .inl ⟨above, rfl, origin, rfl⟩
  · rw [if_neg origin]
    cases host.tokenAt line column with
    | none => exact .inr (.inr (.inl rfl))
    | some token =>
        by_cases meaningful : token.isMeaningful = true
        · exact .inr (.inr (.inr ⟨token, (meaningful_iff token).mp meaningful, if_pos meaningful⟩))
        · exact .inr (.inl ⟨min token.start (column - 1), by omega, if_neg meaningful⟩)

theorem forward_round_cases (host : TokenHost) (line column : Nat) :
    (line + 1 < host.lineCount ∧ host.forwardRound line column = .onward (line + 1) 0) ∨
      (∃ right, column < right ∧ column < host.lineLength line ∧ host.forwardRound line column = .onward line right) ∨
      host.forwardRound line column = .done none ∨
      ∃ token, token.Meaningful ∧ host.forwardRound line column = .done (some token) := by
  unfold TokenHost.forwardRound
  by_cases ended : host.lineLength line ≤ column
  · rw [if_pos ended]
    by_cases last : host.lineCount ≤ line + 1
    · exact .inr (.inr (.inl (if_pos last)))
    · exact .inl ⟨by omega, if_neg last⟩
  · rw [if_neg ended]
    cases host.tokenAt line (column + 1) with
    | none => exact .inr (.inr (.inl rfl))
    | some token =>
        by_cases meaningful : token.isMeaningful = true
        · exact .inr (.inr (.inr ⟨token, (meaningful_iff token).mp meaningful, if_pos meaningful⟩))
        · exact .inr (.inl ⟨max token.stop (column + 1), by omega, by omega, if_neg meaningful⟩)

theorem backward_shrinks (host : TokenHost) (line column nextLine nextColumn : Nat)
    (turn : host.backwardRound line column = .onward nextLine nextColumn) :
    host.sizeBefore nextLine nextColumn < host.sizeBefore line column := by
  rcases backward_round_cases host line column with
    ⟨above, rfl, rfl, wrapped⟩ | ⟨left, less, stepped⟩ | done | ⟨token, _, done⟩
  · rw [wrapped] at turn
    cases turn
    rw [TokenHost.sizeBefore, TokenHost.sizeBefore, Finset.sum_range_succ]
    omega
  · rw [stepped] at turn
    cases turn
    rw [TokenHost.sizeBefore, TokenHost.sizeBefore]
    omega
  · rw [done] at turn
    cases turn
  · rw [done] at turn
    cases turn

theorem forward_shrinks (host : TokenHost) (line column nextLine nextColumn : Nat)
    (turn : host.forwardRound line column = .onward nextLine nextColumn) :
    host.sizeAfter nextLine nextColumn < host.sizeAfter line column := by
  rcases forward_round_cases host line column with
    ⟨inside, wrapped⟩ | ⟨right, more, within, stepped⟩ | done | ⟨token, _, done⟩
  · rw [wrapped] at turn
    cases turn
    rw [TokenHost.sizeAfter, TokenHost.sizeAfter, Finset.sum_eq_sum_Ico_succ_bot inside]
    omega
  · rw [stepped] at turn
    cases turn
    rw [TokenHost.sizeAfter, TokenHost.sizeAfter]
    omega
  · rw [done] at turn
    cases turn
  · rw [done] at turn
    cases turn

theorem backward_answer_meaningful (host : TokenHost) (line column : Nat) (answer : Option (Nat × Token))
    (last : host.backwardRound line column = .done answer) (placed : Nat × Token) (found : answer = some placed) :
    placed.2.Meaningful := by
  subst found
  rcases backward_round_cases host line column with ⟨_, _, _, turn⟩ | ⟨_, _, turn⟩ | turn | ⟨token, meaningful, turn⟩
  · rw [turn] at last
    cases last
  · rw [turn] at last
    cases last
  · rw [turn] at last
    cases last
  · rw [turn] at last
    cases last
    exact meaningful

theorem forward_answer_meaningful (host : TokenHost) (line column : Nat) (answer : Option Token)
    (last : host.forwardRound line column = .done answer) (token : Token) (found : answer = some token) :
    token.Meaningful := by
  subst found
  rcases forward_round_cases host line column with ⟨_, turn⟩ | ⟨_, _, _, turn⟩ | turn | ⟨other, meaningful, turn⟩
  · rw [turn] at last
    cases last
  · rw [turn] at last
    cases last
  · rw [turn] at last
    cases last
  · rw [turn] at last
    cases last
    exact meaningful

def Document.host (document : Document) : TokenHost :=
  ⟨document.lineCount, document.lineText?, document.tokenAt⟩

theorem walk_backward_round (document : Document) (line column : Nat) :
    document.walkBackward line column = (document.host.backwardRound line column).follow document.walkBackward := by
  cases column with
  | zero =>
      cases line with
      | zero => rw [Document.walkBackward]; rfl
      | succ above => rw [Document.walkBackward]; rfl
  | succ left =>
      have asked : document.host.tokenAt line (left + 1) = document.tokenAt line (left + 1) := rfl
      rw [Document.walkBackward, TokenHost.backwardRound, if_neg (Nat.succ_ne_zero left), asked]
      cases document.tokenAt line (left + 1) with
      | none => rfl
      | some token => by_cases meaningful : token.isMeaningful = true <;> simp [meaningful, Round.follow]

theorem walk_forward_round (document : Document) (line column : Nat) :
    document.walkForward line column = (document.host.forwardRound line column).follow document.walkForward := by
  have asked : document.host.tokenAt line (column + 1) = document.tokenAt line (column + 1) := rfl
  have length : document.host.lineLength line = document.lineLength line := rfl
  have count : document.host.lineCount = document.lineCount := rfl
  rw [Document.walkForward, TokenHost.forwardRound, asked, length, count]
  by_cases inside : column < document.lineLength line
  · have within : ¬ document.lineLength line ≤ column := Nat.not_le.mpr inside
    rw [if_pos inside, if_neg within]
    cases document.tokenAt line (column + 1) with
    | none => rfl
    | some token => by_cases meaningful : token.isMeaningful = true <;> simp [meaningful, Round.follow]
  · have ended : document.lineLength line ≤ column := Nat.not_lt.mp inside
    rw [if_neg inside, if_pos ended]
    by_cases below : line + 1 < document.lineCount
    · have further : ¬ document.lineCount ≤ line + 1 := Nat.not_le.mpr below
      rw [if_pos below, if_neg further, Round.follow]
    · have last : document.lineCount ≤ line + 1 := Nat.not_lt.mp below
      rw [if_neg below, if_pos last, Round.follow]

theorem ends_answer {α : Type} (round : Nat → Nat → Round α) (walk : Nat → Nat → Option α)
    (follows : ∀ line column, walk line column = (round line column).follow walk) (line column rounds : Nat)
    (answer : Option α) (ends : Ends round line column rounds answer) : walk line column = answer := by
  induction ends with
  | done line column answer last => rw [follows, last, Round.follow]
  | onward line column nextLine nextColumn rounds answer first _ ih => rw [follows, first, Round.follow, ih]

theorem walks_end_meaningful (host : TokenHost) (line column : Nat) :
    (∃ rounds answer, Ends host.backwardRound line column rounds answer ∧ rounds ≤ host.sizeBefore line column + 1 ∧
        (∀ placed, answer = some placed → placed.2.Meaningful) ∧
        ∀ document : Document, document.host = host → document.walkBackward line column = answer) ∧
      (∃ rounds answer, Ends host.forwardRound line column rounds answer ∧ rounds ≤ host.sizeAfter line column + 1 ∧
        (∀ token, answer = some token → token.Meaningful) ∧
        ∀ document : Document, document.host = host → document.walkForward line column = answer) ∧
      ∀ document : Document, document.host = host → ∀ direction token,
        document.adjacentToken direction line column = some token → token.Meaningful := by
  have backward (column : Nat) := rounds_end host.backwardRound host.sizeBefore
    (fun answer => ∀ placed, answer = some placed → placed.2.Meaningful) (backward_shrinks host)
    (backward_answer_meaningful host) line column
  obtain ⟨rounds, answer, ends, bound, meaningful⟩ := backward column
  obtain ⟨others, found, stops, limit, sensible⟩ := rounds_end host.forwardRound host.sizeAfter
    (fun answer => ∀ token, answer = some token → token.Meaningful) (forward_shrinks host)
    (forward_answer_meaningful host) line column
  have ahead (document : Document) (same : document.host = host) : document.walkForward line column = found := by
    subst same
    exact ends_answer _ document.walkForward (walk_forward_round document) line column others found stops
  refine ⟨⟨rounds, answer, ends, bound, meaningful, fun document same => ?_⟩,
    ⟨others, found, stops, limit, sensible, ahead⟩, fun document same direction token adjacent => ?_⟩
  · subst same
    exact ends_answer _ document.walkBackward (walk_backward_round document) line column rounds answer ends
  · cases direction with
    | backward =>
        obtain ⟨placed, walked, rfl⟩ := Option.map_eq_some_iff.mp adjacent
        rw [Document.previousTokenWithLine, Option.ite_none_right_eq_some] at walked
        obtain ⟨steps, nearest, reached, _, typed⟩ := backward (min column (document.lineLength line))
        subst same
        have walk := ends_answer _ document.walkBackward (walk_backward_round document) line _ steps nearest reached
        exact typed placed (walk.symm.trans walked.2)
    | forward =>
        rw [Document.adjacentToken, Document.nextToken, Option.ite_none_right_eq_some, ahead document same] at adjacent
        exact sensible token adjacent.2

theorem walks_end_meaningful_past_line :
    let number : Token := ⟨some .number, ['5'], 0, 1⟩
    let document : Document := ⟨[⟨['5'], [number]⟩, ⟨['a', 'b'], [⟨some .comment, ['x'], 7, 9⟩]⟩]⟩
    document.host.sizeBefore 1 2 = 4 ∧ document.adjacentToken .backward 1 2 = some number ∧ number.Meaningful ∧
      ∃ rounds answer, Ends document.host.backwardRound 1 2 rounds answer ∧ rounds ≤ 5 ∧
        document.walkBackward 1 2 = answer := by
  intro number document
  have size : document.host.sizeBefore 1 2 = 4 := by decide +kernel
  have found : document.adjacentToken .backward 1 2 = some number := by
    unfold document number
    cbv
  obtain ⟨⟨rounds, answer, ends, bound, _, walked⟩, _, meaningful⟩ := walks_end_meaningful document.host 1 2
  rw [size] at bound
  exact ⟨size, found, meaningful document rfl .backward number found, rounds, answer, ends, bound, walked document rfl⟩

end FilterAssist
