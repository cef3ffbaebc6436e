import Mathlib
import FilterAssist.Proofs.Fold.Uniqueness

set_option autoImplicit false

/-!
The gutters that the editor shows. The marker of a line depends on its tokens and on the folds that stand
on it, and every operation refreshes the lines for which it changes either of them. So a host that keeps
the last call for each line shows what refreshing the line now would show, also below an edit, where
lines change their tokens only by being lexed again.
-/
namespace FilterAssist

def FoldEvent.gutterLine : FoldEvent → Option Nat
  | .setGutter line _ => some line
  | .clearGutter line => some line
  | _ => none

def lastGutter (log : List FoldEvent) (line : Nat) : Option FoldEvent :=
  (log.filter fun event => decide (event.gutterLine = some line)).getLast?

def Quiet (events : List FoldEvent) : Prop :=
  ∀ event ∈ events, event.gutterLine = none

theorem last_gutter_append (earlier later : List FoldEvent) (line : Nat) :
    lastGutter (earlier ++ later) line = (lastGutter later line).or (lastGutter earlier line) := by
  rw [lastGutter, List.filter_append, List.getLast?_append]
  rfl

theorem last_gutter_quiet (events : List FoldEvent) (line : Nat) (quiet : Quiet events) :
    lastGutter events line = none := by
  rw [lastGutter, List.getLast?_eq_none_iff, List.filter_eq_nil_iff]
  intro event member
  simp [quiet event member]

theorem gutter_for_line (registry : FoldRegistry) (document : Document) (line : Nat) :
    (registry.gutterFor document line).gutterLine = some line := by
  unfold FoldRegistry.gutterFor
  split
  · rfl
  · split <;> rfl

theorem last_gutter_refreshed (registry : FoldRegistry) (document : Document) (line other : Nat) :
    lastGutter (registry.refreshLine document line).events other =
      if line = other then some (registry.gutterFor document line) else none := by
  by_cases same : line = other <;> simp [lastGutter, FoldRegistry.refreshLine, gutter_for_line, same]

theorem quiet_append (earlier later : List FoldEvent) (first : Quiet earlier) (second : Quiet later) :
    Quiet (earlier ++ later) := by
  intro event member
  rcases List.mem_append.mp member with left | right
  · exact first event left
  · exact second event right

theorem fold_quiet (registry : FoldRegistry) (line : Nat) (token : Token) : Quiet (registry.fold line token).events := by
  unfold FoldRegistry.fold
  split
  · split <;> simp [Quiet, FoldEvent.gutterLine]
  · simp [Quiet]

theorem remove_quiet (registry : FoldRegistry) (id : Nat) : Quiet (registry.remove id).events := by
  unfold FoldRegistry.remove
  split <;> simp [Quiet, FoldEvent.gutterLine]

theorem toggle_quiet (registry : FoldRegistry) (line : Nat) (token : Token) :
    Quiet (registry.toggle line token).events := by
  simp only [FoldRegistry.toggle]
  split
  · unfold FoldRegistry.unfold
    split
    · simp [Quiet]
    · exact remove_quiet registry _
  · exact fold_quiet registry line token

theorem for_each_quiet {α β : Type} (registry : FoldRegistry) (step : FoldRegistry → α → FoldStep β)
    (elements : List α) (single : ∀ registry element, Quiet (step registry element).events) :
    Quiet (registry.forEach step elements).events := by
  induction elements generalizing registry with
  | nil => simp [FoldRegistry.forEach, Quiet]
  | cons element elements ih => exact quiet_append _ _ (single registry element) (ih _)

def FoldRegistry.onLine (registry : FoldRegistry) (line : Nat) : List (Nat × Fold) :=
  registry.folds.filter fun entry => decide (entry.2.line = line)

structure FoldRegistry.SameOn (line : Nat) (before after : FoldRegistry) : Prop where
  options : after.options = before.options
  folds : after.onLine line = before.onLine line

theorem is_folded_on_line (registry : FoldRegistry) (line : Nat) (token : Token) :
    registry.isFolded line token =
      ((registry.onLine line).find? fun entry => decide (entry.2.start = token.start)).map Prod.fst := by
  rw [FoldRegistry.isFolded, FoldRegistry.onLine, List.find?_filter]
  simp only [decide_eq_true_eq]

theorem gutter_for_same (before after : FoldRegistry) (document edited : Document) (line : Nat)
    (same : before.SameOn line after) (tokens : edited.lineTokens line = document.lineTokens line) :
    after.gutterFor edited line = before.gutterFor document line := by
  have foldable : after.isFoldable = before.isFoldable := by
    funext token
    rw [FoldRegistry.isFoldable, FoldRegistry.isFoldable, same.options]
  simp only [FoldRegistry.gutterFor, is_folded_on_line, tokens, foldable, same.folds]

theorem same_on_trans (line : Nat) (before middle after : FoldRegistry) (first : before.SameOn line middle)
    (second : middle.SameOn line after) : before.SameOn line after :=
  ⟨second.options.trans first.options, second.folds.trans first.folds⟩

theorem refolded_options (before after : FoldRegistry) (refolded : Refolded before after) :
    after.options = before.options := by
  induction refolded with
  | unchanged => rfl
  | dropped registry kept _ part ih => exact ih
  | folded registry line token _ free ih => exact ih

theorem fold_same_on (registry : FoldRegistry) (line other : Nat) (token : Token) (different : line ≠ other) :
    registry.SameOn other (registry.fold line token).registry := by
  refine ⟨refolded_options _ _ (fold_refolded registry line token), ?_⟩
  unfold FoldRegistry.fold
  split
  · split
    · rfl
    · simp [FoldRegistry.onLine, List.filter_append, different]
  · rfl

theorem remove_same_on (registry : FoldRegistry) (entry : Nat × Fold) (other : Nat) (issued : registry.Issued)
    (member : entry ∈ registry.folds) (different : entry.2.line ≠ other) :
    registry.SameOn other (registry.remove entry.1).registry := by
  refine ⟨refolded_options _ _ (remove_refolded registry entry.1), ?_⟩
  rw [FoldRegistry.onLine, remove_folds, List.filter_filter]
  refine List.filter_congr (fun fold present => ?_)
  have kept : fold.2.line = other → fold.1 ≠ entry.1 := by
    intro here named
    have same : fold = entry := List.inj_on_of_nodup_map (issued_distinct registry issued) present member named
    rw [same] at here
    exact different here
  rw [Bool.eq_iff_iff]
  simp only [Bool.and_eq_true, decide_eq_true_eq, bne_iff_ne]
  exact ⟨fun both => both.1, fun here => ⟨here, kept here⟩⟩

theorem unfold_same_on (registry : FoldRegistry) (line other : Nat) (token : Token) (different : line ≠ other)
    (issued : registry.Issued) : registry.SameOn other (registry.unfold line token).registry := by
  unfold FoldRegistry.unfold
  split
  · exact ⟨rfl, rfl⟩
  · rename_i id found
    obtain ⟨folded, present, rfl⟩ := Option.map_eq_some_iff.mp found
    have here := List.find?_some present
    rw [decide_eq_true_eq] at here
    refine remove_same_on registry folded other issued (List.mem_of_find?_eq_some present) ?_
    rw [here.1]
    exact different

theorem toggle_same_on (registry : FoldRegistry) (line other : Nat) (token : Token) (different : line ≠ other)
    (issued : registry.Issued) : registry.SameOn other (registry.toggle line token).registry := by
  simp only [FoldRegistry.toggle]
  split
  · exact unfold_same_on registry line other token different issued
  · exact fold_same_on registry line other token different

theorem for_each_same_on {α β : Type} (registry : FoldRegistry) (step : FoldRegistry → α → FoldStep β)
    (elements : List α) (line : Nat) (issued : registry.Issued)
    (mirrored : ∀ (registry : FoldRegistry) (element : α), registry.Issued →
      registry.Mirrored (step registry element).events (step registry element).registry)
    (single : ∀ (registry : FoldRegistry) (element : α), registry.Issued →
      registry.SameOn line (step registry element).registry) :
    registry.SameOn line (registry.forEach step elements).registry := by
  induction elements generalizing registry with
  | nil => exact ⟨rfl, rfl⟩
  | cons element elements ih =>
      have next := mirrored_issued registry _ _ (mirrored registry element issued) issued
      exact same_on_trans line _ _ _ (single registry element issued) (ih _ next)

-- The last calls that some events make: one as it should be for each of the lines, and none for a line whose folds
-- they left alone.
structure FoldRegistry.Refreshes (document : Document) (lines : List Nat) (before : FoldRegistry)
    (events : List FoldEvent) (after : FoldRegistry) : Prop where
  inside : ∀ line, line < document.lineCount → line ∈ lines →
    lastGutter events line = some (after.gutterFor document line)
  outside : ∀ line, line < document.lineCount → line ∉ lines →
    before.SameOn line after ∧ lastGutter events line = none

theorem refreshes_append (document : Document) (lines more : List Nat) (before middle after : FoldRegistry)
    (earlier later : List FoldEvent) (first : before.Refreshes document lines earlier middle)
    (second : middle.Refreshes document more later after) :
    before.Refreshes document (lines ++ more) (earlier ++ later) after := by
  constructor
  · intro line inside member
    rw [last_gutter_append]
    by_cases again : line ∈ more
    · rw [second.inside line inside again, Option.some_or]
    · obtain ⟨same, silent⟩ := second.outside line inside again
      have listed := (List.mem_append.mp member).resolve_right again
      rw [silent, Option.none_or, first.inside line inside listed,
        gutter_for_same middle after document document line same rfl]
  · intro line inside absent
    rw [List.mem_append, not_or] at absent
    obtain ⟨same, silent⟩ := first.outside line inside absent.1
    obtain ⟨sameToo, silentToo⟩ := second.outside line inside absent.2
    refine ⟨same_on_trans line _ _ _ same sameToo, ?_⟩
    rw [last_gutter_append, silentToo, silent, Option.none_or]

theorem refreshed_line (document : Document) (line : Nat) (before after : FoldRegistry) (events : List FoldEvent)
    (quiet : Quiet events) (others : ∀ other, line ≠ other → before.SameOn other after) :
    before.Refreshes document [line] (events ++ (after.refreshLine document line).events) after := by
  constructor
  · intro other _ member
    rw [List.mem_singleton.mp member, last_gutter_append, last_gutter_refreshed, if_pos rfl, Option.some_or]
  · intro other _ absent
    have different : line ≠ other := fun same => absent (List.mem_singleton.mpr same.symm)
    refine ⟨others other different, ?_⟩
    rw [last_gutter_append, last_gutter_refreshed, if_neg different, last_gutter_quiet events other quiet,
      Option.none_or]

theorem gutter_click_refreshes (registry : FoldRegistry) (document : Document) (line : Nat) (issued : registry.Issued) :
    registry.Refreshes document [line] (registry.gutterClick document line).events
      (registry.gutterClick document line).registry := by
  refine refreshed_line document line registry _ _ ?_ (fun other different => ?_)
  · exact for_each_quiet registry _ _ (fun registry token => toggle_quiet registry line token)
  · exact for_each_same_on registry _ _ other issued
      (fun registry token issued => toggle_mirrored registry line token issued)
      (fun registry token issued => toggle_same_on registry line other token different issued)

theorem load_line_refreshes (registry : FoldRegistry) (document : Document) (line : Nat) (issued : registry.Issued) :
    registry.Refreshes document [line] (registry.loadLine document line).events
      (registry.loadLine document line).registry := by
  refine refreshed_line document line registry _ _ ?_ (fun other different => ?_)
  · exact for_each_quiet registry _ _ (fun registry token => fold_quiet registry line token)
  · exact for_each_same_on registry _ _ other issued
      (fun registry token _ => fold_mirrored registry line token)
      (fun registry token _ => fold_same_on registry line other token different)

theorem for_each_refreshes (registry : FoldRegistry) (document : Document) (step : FoldRegistry → Nat → FoldStep Unit)
    (lines : List Nat) (issued : registry.Issued)
    (mirrored : ∀ (registry : FoldRegistry) (line : Nat), registry.Issued →
      registry.Mirrored (step registry line).events (step registry line).registry)
    (single : ∀ (registry : FoldRegistry) (line : Nat), registry.Issued →
      registry.Refreshes document [line] (step registry line).events (step registry line).registry) :
    registry.Refreshes document lines (registry.forEach step lines).events (registry.forEach step lines).registry := by
  induction lines generalizing registry with
  | nil => exact ⟨fun _ _ member => absurd member List.not_mem_nil, fun _ _ _ => ⟨⟨rfl, rfl⟩, rfl⟩⟩
  | cons line lines ih =>
      have next := mirrored_issued registry _ _ (mirrored registry line issued) issued
      exact refreshes_append document [line] lines _ _ _ _ _ (single registry line issued) (ih _ next)

theorem placeholder_clicked_refreshes (registry : FoldRegistry) (document : Document) (id : Nat)
    (issued : registry.Issued) :
    ∃ lines, registry.Refreshes document lines (registry.placeholderClicked document id).events
      (registry.placeholderClicked document id).registry := by
  simp only [FoldRegistry.placeholderClicked]
  cases found : registry.folds.find? fun entry => entry.1 == id with
  | none =>
      refine ⟨[], ?_⟩
      simp only [FoldRegistry.remove, found]
      exact ⟨fun _ _ member => absurd member List.not_mem_nil, fun _ _ _ => ⟨⟨rfl, rfl⟩, rfl⟩⟩
  | some entry =>
      have removed : (registry.remove id).result = some entry.2 := by rw [FoldRegistry.remove, found]
      have named : entry.1 = id := by simpa using List.find?_some found
      refine ⟨[entry.2.line], ?_⟩
      rw [removed]
      refine refreshed_line document entry.2.line registry _ _ (remove_quiet registry id) (fun other different => ?_)
      rw [← named]
      exact remove_same_on registry entry other issued (List.mem_of_find?_eq_some found) different

theorem mem_lines_between (start stop line : Nat) :
    line ∈ FoldRegistry.linesBetween start stop ↔ start ≤ line ∧ line ≤ stop := by
  rw [FoldRegistry.linesBetween, List.mem_map]
  constructor
  · rintro ⟨offset, member, rfl⟩
    rw [List.mem_range] at member
    omega
  · rintro ⟨early, late⟩
    exact ⟨line - start, List.mem_range.mpr (by omega), by omega⟩

theorem moved_fold_stays (document : Document) (start stop : Nat) (fold moved : Fold)
    (kept : FoldRegistry.movedFold document start stop 0 fold = some moved) : moved.line = fold.line := by
  rcases moved_fold_cases document start stop 0 fold moved kept with
    ⟨_, rfl⟩ | ⟨_, _, rfl⟩ | ⟨_, _, _, token, _, rfl⟩
  · rfl
  · dsimp only
    omega
  · rfl

theorem moved_fold_outside (document : Document) (start stop : Nat) (fold : Fold)
    (outside : fold.line < start ∨ stop < fold.line) :
    FoldRegistry.movedFold document start stop 0 fold = some fold := by
  unfold FoldRegistry.movedFold
  split
  · rfl
  · have below : (stop : Int) - 0 < fold.line := by omega
    have line : ((fold.line : Int) + 0).toNat = fold.line := by omega
    rw [if_pos below, line]

theorem on_change_same_on (registry : FoldRegistry) (document : Document) (start stop line : Nat)
    (issued : registry.Issued) (outside : line < start ∨ stop < line) :
    registry.SameOn line (registry.onChange document start stop 0).registry := by
  constructor
  · have removed (current : FoldRegistry) (ids : List Nat) :
        (current.forEach FoldRegistry.remove ids).registry.options = current.options :=
      refolded_options _ _ (for_each_refolded current FoldRegistry.remove ids remove_refolded)
    simp only [FoldRegistry.onChange, refresh_all_registry, removed]
  · rw [FoldRegistry.onLine, on_change_folds registry document start stop 0 (issued_distinct registry issued),
      FoldRegistry.onLine]
    induction registry.folds with
    | nil => rfl
    | cons entry entries ih =>
        by_cases here : entry.2.line = line
        · have kept := moved_fold_outside document start stop entry.2 (by rwa [here])
          simp [kept, here, ih]
        · cases moves : FoldRegistry.movedFold document start stop 0 entry.2 with
          | none => simp [moves, here, ih]
          | some moved =>
              have away : moved.line ≠ line := by
                rw [moved_fold_stays document start stop entry.2 moved moves]
                exact here
              simp [moves, here, away, ih]

theorem on_change_events (registry : FoldRegistry) (document : Document) (start stop : Nat) (delta : Int) :
    ∃ clears, Quiet clears ∧ (registry.onChange document start stop delta).events = clears ++
      ((registry.onChange document start stop delta).registry.forEach
        (fun registry line => registry.refreshLine document line)
        (FoldRegistry.linesBetween start (min (stop + 1) (document.lineCount - 1)))).events := by
  simp only [FoldRegistry.onChange, refresh_all_registry]
  exact ⟨_, for_each_quiet _ FoldRegistry.remove _ remove_quiet, rfl⟩

theorem on_change_refreshes (registry : FoldRegistry) (document : Document) (start stop : Nat)
    (issued : registry.Issued) :
    registry.Refreshes document (FoldRegistry.linesBetween start (min (stop + 1) (document.lineCount - 1)))
      (registry.onChange document start stop 0).events (registry.onChange document start stop 0).registry := by
  have left := mirrored_issued registry _ _ (on_change_mirrored registry document start stop 0 issued) issued
  have refreshed := for_each_refreshes _ document (fun registry line => registry.refreshLine document line)
    (FoldRegistry.linesBetween start (min (stop + 1) (document.lineCount - 1))) left
    (fun registry line _ => refresh_mirrored registry document line)
    (fun registry line _ => refreshed_line document line registry registry [] (by simp [Quiet])
      (fun _ _ => ⟨rfl, rfl⟩))
  rw [refresh_all_registry] at refreshed
  obtain ⟨clears, quiet, parts⟩ := on_change_events registry document start stop 0
  constructor
  · intro line inside member
    rw [parts, last_gutter_append, refreshed.inside line inside member, Option.some_or]
  · intro line inside absent
    refine ⟨on_change_same_on registry document start stop line issued ?_, ?_⟩
    · rw [mem_lines_between] at absent
      omega
    · rw [parts, last_gutter_append, (refreshed.outside line inside absent).2, last_gutter_quiet clears line quiet,
        Option.none_or]

structure LineSwap (count : Nat) where
  range : LineRange
  texts : List Text
  filled : texts ≠ []
  even : (range.clip count).start + texts.length = (range.clip count).stop

theorem swap_line_count (buffer : Buffer) (swap : LineSwap buffer.document.lineCount) :
    (buffer.replaceLines swap.range swap.texts).1.document.lineCount = buffer.document.lineCount := by
  have size := document_line_count buffer
  have even := swap.even
  have count := replace_lines_count buffer swap.range swap.texts swap.filled
  rw [← size] at count
  rw [document_line_count]
  omega

theorem swap_line_tokens (buffer : Buffer) (swap : LineSwap buffer.document.lineCount) (line : Nat)
    (outside : line < (buffer.replaceLines swap.range swap.texts).2.start ∨
      (buffer.replaceLines swap.range swap.texts).2.stop ≤ line) :
    (buffer.replaceLines swap.range swap.texts).1.document.lineTokens line = buffer.document.lineTokens line := by
  obtain ⟨resumed, relexed⟩ := replace_lines_relexed buffer swap.range swap.texts
  have same := swap_line_count buffer swap
  have old := document_line_count buffer
  have count := relexed.count
  rw [document_line_count] at same
  rw [document_line_tokens, document_line_tokens]
  rcases outside with above | below
  · rw [relexed.above line above]
  · obtain ⟨offset, rfl⟩ := Nat.exists_eq_add_of_le below
    have place : resumed = (buffer.replaceLines swap.range swap.texts).2.stop := by omega
    rw [relexed.below offset, place]

def GuttersShown (document : Document) (registry : FoldRegistry) (log : List FoldEvent) : Prop :=
  ∀ line, line < document.lineCount → lastGutter log line = some (registry.gutterFor document line)

theorem refreshes_shown (document edited : Document) (before after : FoldRegistry) (log events : List FoldEvent)
    (lines : List Nat) (shown : GuttersShown document before log) (count : edited.lineCount = document.lineCount)
    (tokens : ∀ line, line < edited.lineCount → line ∉ lines → edited.lineTokens line = document.lineTokens line)
    (refreshes : before.Refreshes edited lines events after) : GuttersShown edited after (log ++ events) := by
  intro line inside
  rw [last_gutter_append]
  by_cases member : line ∈ lines
  · rw [refreshes.inside line inside member, Option.some_or]
  · obtain ⟨same, silent⟩ := refreshes.outside line inside member
    rw [silent, Option.none_or, shown line (by rwa [← count]),
      gutter_for_same before after document edited line same (tokens line inside member)]

structure GutterSession where
  buffer : Buffer
  registry : FoldRegistry
  log : List FoldEvent

inductive GutterAction (count : Nat) where
  | gutterClick (line : Nat)
  | placeholderClicked (id : Nat)
  | edit (swap : LineSwap count)

namespace GutterSession

def record {α : Type} (session : GutterSession) (step : FoldStep α) : GutterSession :=
  { session with registry := step.registry, log := session.log ++ step.events }

def loaded (buffer : Buffer) (registry : FoldRegistry) : GutterSession :=
  record ⟨buffer, registry, []⟩ (registry.load buffer.document)

def act {count : Nat} (session : GutterSession) : GutterAction count → GutterSession
  | .gutterClick line => session.record (session.registry.gutterClick session.buffer.document line)
  | .placeholderClicked id => session.record (session.registry.placeholderClicked session.buffer.document id)
  | .edit swap =>
    let edited := session.buffer.replaceLines swap.range swap.texts
    record { session with buffer := edited.1 }
      (session.registry.onChange edited.1.document edited.2.start (edited.2.stop - 1) 0)

def run {count : Nat} (session : GutterSession) (actions : List (GutterAction count)) : GutterSession :=
  actions.foldl act session

structure InStep (session : GutterSession) (count : Nat) : Prop where
  size : session.buffer.document.lineCount = count
  issued : session.registry.Issued
  shown : GuttersShown session.buffer.document session.registry session.log

end GutterSession

theorem loaded_in_step (buffer : Buffer) (registry : FoldRegistry) (issued : registry.Issued) :
    (GutterSession.loaded buffer registry).InStep buffer.document.lineCount := by
  have refreshes := for_each_refreshes registry buffer.document
    (fun registry line => registry.loadLine buffer.document line) (List.range buffer.document.lineCount) issued
    (fun registry line issued => load_line_mirrored registry buffer.document line issued)
    (fun registry line issued => load_line_refreshes registry buffer.document line issued)
  refine ⟨rfl, mirrored_issued registry _ _ (load_mirrored registry buffer.document issued) issued, ?_⟩
  intro line inside
  exact refreshes.inside line inside (List.mem_range.mpr inside)

theorem act_in_step (session : GutterSession) (count : Nat) (action : GutterAction count)
    (inStep : session.InStep count) : (session.act action).InStep count := by
  obtain ⟨rfl, issued, shown⟩ := inStep
  cases action with
  | gutterClick line =>
      have mirrored := gutter_click_mirrored session.registry session.buffer.document line issued
      have refreshes := gutter_click_refreshes session.registry session.buffer.document line issued
      exact ⟨rfl, mirrored_issued _ _ _ mirrored issued,
        refreshes_shown _ _ _ _ _ _ _ shown rfl (fun _ _ _ => rfl) refreshes⟩
  | placeholderClicked id =>
      have mirrored := placeholder_clicked_mirrored session.registry session.buffer.document id issued
      obtain ⟨lines, refreshes⟩ := placeholder_clicked_refreshes session.registry session.buffer.document id issued
      exact ⟨rfl, mirrored_issued _ _ _ mirrored issued,
        refreshes_shown _ _ _ _ _ _ lines shown rfl (fun _ _ _ => rfl) refreshes⟩
  | edit swap =>
      have size := swap_line_count session.buffer swap
      have mirrored := on_change_mirrored session.registry (session.buffer.replaceLines swap.range swap.texts).1.document
        (session.buffer.replaceLines swap.range swap.texts).2.start
        ((session.buffer.replaceLines swap.range swap.texts).2.stop - 1) 0 issued
      have refreshes := on_change_refreshes session.registry
        (session.buffer.replaceLines swap.range swap.texts).1.document
        (session.buffer.replaceLines swap.range swap.texts).2.start
        ((session.buffer.replaceLines swap.range swap.texts).2.stop - 1) issued
      refine ⟨size, mirrored_issued _ _ _ mirrored issued, refreshes_shown _ _ _ _ _ _ _ shown size ?_ refreshes⟩
      intro line inside absent
      change line < (session.buffer.replaceLines swap.range swap.texts).1.document.lineCount at inside
      rw [mem_lines_between] at absent
      exact swap_line_tokens session.buffer swap line (by omega)

theorem run_in_step (session : GutterSession) (count : Nat) (actions : List (GutterAction count))
    (inStep : session.InStep count) : (session.run actions).InStep count := by
  induction actions generalizing session with
  | nil => exact inStep
  | cons action actions ih => exact ih (session.act action) (act_in_step session count action inStep)

theorem gutters_follow_run (buffer : Buffer) (options : FoldOptions) (earlier : List FoldCall)
    (actions : List (GutterAction buffer.document.lineCount)) (line : Nat) :
    let registry := (FoldRegistry.forEach { options } FoldRegistry.call earlier).registry
    let session := (GutterSession.loaded buffer registry).run actions
    line < session.buffer.document.lineCount →
      (lastGutter session.log line).toList = (session.registry.refreshLine session.buffer.document line).events := by
  intro registry session inside
  have issued : registry.Issued :=
    mirrored_issued _ _ _ (calls_mirrored options earlier) (empty_issued options)
  have inStep := run_in_step _ _ actions (loaded_in_step buffer registry issued)
  rw [inStep.shown line inside]
  rfl

theorem gutters_follow_run_under_comment :
    let lexer : Lexer := { vocabulary := Vocabulary.ofLists {} }
    let buffer := Buffer.ofText lexer "\n'a'".toList
    let swap : LineSwap buffer.document.lineCount := ⟨⟨0, 1⟩, ["/*".toList], List.cons_ne_nil _ _, rfl⟩
    let registry := (FoldRegistry.forEach { options := { foldableLength := 2 } } FoldRegistry.call []).registry
    let session := (GutterSession.loaded buffer registry).run [.gutterClick 1, .edit swap]
    1 < session.buffer.document.lineCount ∧
      session.log = [.clearGutter 0, .setGutter 1 .fold, .mark 0 1 0 3 "'a'...'".toList, .setGutter 1 .unfold,
        .clearMark 0, .clearGutter 0, .clearGutter 1] ∧
      (lastGutter session.log 1).toList = (session.registry.refreshLine session.buffer.document 1).events := by
  intro lexer buffer swap registry session
  have inside : 1 < session.buffer.document.lineCount := by
    unfold session registry swap buffer lexer
    exact of_decide_eq_true (by cbv)
  refine ⟨inside, ?_, gutters_follow_run buffer _ [] [.gutterClick 1, .edit swap] 1 inside⟩
  unfold session registry swap buffer lexer
  cbv

end FilterAssist
