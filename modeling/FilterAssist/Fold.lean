import FilterAssist.Document

set_option autoImplicit false

/-!
Folding of long strings. The registry holds which strings are folded; what the editor has to draw
for it is returned as a list of events.
-/
namespace FilterAssist

structure FoldOptions where
  foldableLength : Nat := 20
  foldedLength : Nat := 5
  foldOnLoad : Bool := false
deriving DecidableEq, Repr

inductive GutterMarker where
  | fold
  | unfold
deriving DecidableEq, Repr

def GutterMarker.name : GutterMarker → String
  | .fold => "fold"
  | .unfold => "unfold"

inductive FoldEvent where
  | mark (id line start stop : Nat) (placeholder : Text)
  | clearMark (id : Nat)
  | setGutter (line : Nat) (marker : GutterMarker)
  | clearGutter (line : Nat)
deriving DecidableEq, Repr

structure Fold where
  line : Nat
  start : Nat
  stop : Nat
  text : Text
deriving DecidableEq, Repr

/-- The folds with their ids, in the order of the ids, which are never used again. -/
structure FoldRegistry where
  options : FoldOptions
  folds : List (Nat × Fold) := []
  nextId : Nat := 0
deriving DecidableEq, Repr

structure FoldStep (α : Type) where
  result : α
  registry : FoldRegistry
  events : List FoldEvent

namespace FoldRegistry

def isFoldable (registry : FoldRegistry) (token : Token) : Bool :=
  decide (token.kind = some .string) && decide (registry.options.foldableLength < token.text.length)

def placeholder (registry : FoldRegistry) (token : Token) : Text :=
  let quote := match token.text.head? with
    | some '\'' => '\''
    | _ => '"'
  token.text.take registry.options.foldedLength ++ ['.', '.', '.', quote]

def isFolded (registry : FoldRegistry) (line : Nat) (token : Token) : Option Nat :=
  (registry.folds.find? fun entry =>
    decide (entry.2.line = line ∧ entry.2.start = token.start)).map Prod.fst

def fold (registry : FoldRegistry) (line : Nat) (token : Token) : FoldStep (Option Nat) :=
  if registry.isFoldable token then
    match registry.isFolded line token with
    | some id => ⟨some id, registry, []⟩
    | none =>
      let id := registry.nextId
      let folded : Fold := ⟨line, token.start, token.stop, token.text⟩
      ⟨some id, { registry with folds := registry.folds ++ [(id, folded)], nextId := id + 1 },
        [.mark id line token.start token.stop (registry.placeholder token)]⟩
  else ⟨none, registry, []⟩

def remove (registry : FoldRegistry) (id : Nat) : FoldStep (Option Fold) :=
  match registry.folds.find? fun entry => entry.1 == id with
  | none => ⟨none, registry, []⟩
  | some entry =>
    ⟨some entry.2, { registry with folds := registry.folds.filter fun other => other.1 != id },
      [.clearMark id]⟩

def unfold (registry : FoldRegistry) (line : Nat) (token : Token) : FoldStep Bool :=
  match registry.isFolded line token with
  | none => ⟨false, registry, []⟩
  | some id =>
    let step := registry.remove id
    ⟨step.result.isSome, step.registry, step.events⟩

def toggle (registry : FoldRegistry) (line : Nat) (token : Token) : FoldStep Bool :=
  let step := registry.unfold line token
  if step.result then ⟨false, step.registry, step.events⟩
  else
    let folded := registry.fold line token
    ⟨folded.result.isSome, folded.registry, folded.events⟩

def gutterFor (registry : FoldRegistry) (document : Document) (line : Nat) : FoldEvent :=
  match (document.lineTokens line).find? registry.isFoldable with
  | none => .clearGutter line
  | some token =>
    if (registry.isFolded line token).isSome then .setGutter line .unfold
    else .setGutter line .fold

def refreshLine (registry : FoldRegistry) (document : Document) (line : Nat) : FoldStep Unit :=
  ⟨(), registry, [registry.gutterFor document line]⟩

def forEach {α β : Type} (registry : FoldRegistry) (step : FoldRegistry → α → FoldStep β) :
    List α → FoldStep Unit
  | [] => ⟨(), registry, []⟩
  | x :: xs =>
    let first := step registry x
    let rest := first.registry.forEach step xs
    ⟨(), rest.registry, first.events ++ rest.events⟩

/-- A fold after lines `start` to `stop` were edited and the text grew by `delta` lines; nothing if
its string is gone. Folds above the edit stay, folds below it move with their line, and folds in it
follow the first string on their line with the same text. -/
def movedFold (document : Document) (start stop : Nat) (delta : Int) (fold : Fold) : Option Fold :=
  if fold.line < start then some fold
  else if (stop : Int) - delta < (fold.line : Int) then
    some { fold with line := ((fold.line : Int) + delta).toNat }
  else if fold.line ≤ stop then
    ((document.lineTokens fold.line).find? fun token =>
      decide (token.kind = some .string ∧ token.text = fold.text)).map fun token =>
        { fold with start := token.start, stop := token.stop }
  else none

def linesBetween (start stop : Nat) : List Nat :=
  (List.range (stop + 1 - start)).map fun offset => start + offset

def onChange (registry : FoldRegistry) (document : Document) (start stop : Nat) (delta : Int) :
    FoldStep Unit :=
  let moved (fold : Fold) := movedFold document start stop delta fold
  let current : FoldRegistry := { registry with
    folds := registry.folds.map fun entry => (entry.1, (moved entry.2).getD entry.2) }
  let stale := (registry.folds.filter fun entry => (moved entry.2).isNone).map Prod.fst
  let cleaned := current.forEach remove stale
  let last := min (stop + 1) (document.lineCount - 1)
  let refreshed := cleaned.registry.forEach
    (fun registry line => registry.refreshLine document line) (linesBetween start last)
  ⟨(), refreshed.registry, cleaned.events ++ refreshed.events⟩

def gutterClick (registry : FoldRegistry) (document : Document) (line : Nat) : FoldStep Unit :=
  let foldable := (document.lineTokens line).filter registry.isFoldable
  let toggled := registry.forEach (fun registry token => registry.toggle line token) foldable
  let refreshed := toggled.registry.refreshLine document line
  ⟨(), refreshed.registry, toggled.events ++ refreshed.events⟩

def placeholderClicked (registry : FoldRegistry) (document : Document) (id : Nat) :
    FoldStep (Option (Nat × Nat)) :=
  let removed := registry.remove id
  match removed.result with
  | none => ⟨none, removed.registry, removed.events⟩
  | some fold =>
    let refreshed := removed.registry.refreshLine document fold.line
    ⟨some (fold.line, fold.start + 1), refreshed.registry, removed.events ++ refreshed.events⟩

def loadLine (registry : FoldRegistry) (document : Document) (line : Nat) : FoldStep Unit :=
  let tokens := if registry.options.foldOnLoad then document.lineTokens line else []
  let folded := registry.forEach (fun registry token => registry.fold line token) tokens
  let refreshed := folded.registry.refreshLine document line
  ⟨(), refreshed.registry, folded.events ++ refreshed.events⟩

def load (registry : FoldRegistry) (document : Document) : FoldStep Unit :=
  registry.forEach (fun registry line => registry.loadLine document line)
    (List.range document.lineCount)

def clear (registry : FoldRegistry) (document : Document) : FoldStep Unit :=
  ⟨(), { registry with folds := [] },
    (registry.folds.map fun entry => .clearMark entry.1) ++
      (List.range document.lineCount).map .clearGutter⟩

end FoldRegistry

end FilterAssist
