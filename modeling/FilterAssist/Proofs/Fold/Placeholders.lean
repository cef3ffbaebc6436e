import Mathlib
import FilterAssist.Fold

set_option autoImplicit false

/-!
The editor's placeholders and the registry's folds. A host that draws what the registry tells it, and
that would refuse to draw an id out of turn or to take away one that it does not show, refuses nothing:
after every call it shows exactly the ids of the folds. So the ids it is told to draw are the numbers
from 0 on, each of them once, and each is taken away at most once, after it was drawn.
-/
namespace FilterAssist

structure Placeholders where
  shown : List Nat
  drawn : Nat
deriving DecidableEq, Repr

namespace Placeholders

def draw (host : Placeholders) : FoldEvent → Option Placeholders
  | .mark id _ _ _ _ => if id = host.drawn then some ⟨host.shown ++ [id], id + 1⟩ else none
  | .clearMark id => if id ∈ host.shown then some { host with shown := host.shown.erase id } else none
  | .setGutter _ _ => some host
  | .clearGutter _ => some host

def drawAll (host : Placeholders) (events : List FoldEvent) : Option Placeholders :=
  events.foldlM draw host

structure Issued (host : Placeholders) : Prop where
  rising : host.shown.Pairwise (· < ·)
  below : ∀ id ∈ host.shown, id < host.drawn

end Placeholders

def FoldEvent.markedId : FoldEvent → Option Nat
  | .mark id _ _ _ _ => some id
  | _ => none

def FoldEvent.clearedId : FoldEvent → Option Nat
  | .clearMark id => some id
  | _ => none

def markedIds (log : List FoldEvent) : List Nat :=
  log.filterMap FoldEvent.markedId

def clearedIds (log : List FoldEvent) : List Nat :=
  log.filterMap FoldEvent.clearedId

theorem draw_cases (host after : Placeholders) (event : FoldEvent) (drawn : host.draw event = some after) :
    (event.markedId = some host.drawn ∧ event.clearedId = none ∧
        after = ⟨host.shown ++ [host.drawn], host.drawn + 1⟩) ∨
      (∃ id, id ∈ host.shown ∧ event = .clearMark id ∧ after = { host with shown := host.shown.erase id }) ∨
      (event.markedId = none ∧ event.clearedId = none ∧ after = host) := by
  cases event with
  | mark id line start stop placeholder =>
      rw [Placeholders.draw] at drawn
      split at drawn
      · rename_i next
        subst next
        exact .inl ⟨rfl, rfl, (Option.some.inj drawn).symm⟩
      · cases drawn
  | clearMark id =>
      rw [Placeholders.draw] at drawn
      split at drawn
      · rename_i member
        exact .inr (.inl ⟨id, member, rfl, (Option.some.inj drawn).symm⟩)
      · cases drawn
  | setGutter line marker => exact .inr (.inr ⟨rfl, rfl, (Option.some.inj drawn).symm⟩)
  | clearGutter line => exact .inr (.inr ⟨rfl, rfl, (Option.some.inj drawn).symm⟩)

theorem draw_all_append (host middle final : Placeholders) (earlier later : List FoldEvent)
    (first : host.drawAll earlier = some middle) (second : middle.drawAll later = some final) :
    host.drawAll (earlier ++ later) = some final := by
  rw [Placeholders.drawAll, List.foldlM_append, ← Placeholders.drawAll, first]
  exact second

theorem draw_issued (host after : Placeholders) (event : FoldEvent) (drawn : host.draw event = some after)
    (issued : host.Issued) : after.Issued := by
  rcases draw_cases host after event drawn with ⟨_, _, rfl⟩ | ⟨id, _, _, rfl⟩ | ⟨_, _, rfl⟩
  · constructor
    · refine List.pairwise_append.mpr ⟨issued.rising, List.pairwise_singleton _ _, fun id member last isLast => ?_⟩
      rw [List.mem_singleton.mp isLast]
      exact issued.below id member
    · intro id member
      rcases List.mem_append.mp member with old | last
      · exact Nat.lt_succ_of_lt (issued.below id old)
      · rw [List.mem_singleton.mp last]
        exact Nat.lt_succ_self _
  · exact ⟨issued.rising.sublist List.erase_sublist, fun other member => issued.below other (List.mem_of_mem_erase member)⟩
  · exact issued

theorem draw_all_issued (host after : Placeholders) (events : List FoldEvent)
    (drawn : host.drawAll events = some after) (issued : host.Issued) : after.Issued := by
  induction events generalizing host with
  | nil =>
      cases drawn
      exact issued
  | cons event events ih =>
      rw [Placeholders.drawAll, List.foldlM_cons] at drawn
      obtain ⟨next, first, rest⟩ := Option.bind_eq_some_iff.mp drawn
      exact ih next rest (draw_issued host next event first issued)

structure Placeholders.Told (host : Placeholders) (log : List FoldEvent) : Prop where
  marked : markedIds log = List.range host.drawn
  shown : host.shown = (markedIds log).filter fun id => decide (id ∉ clearedIds log)
  once : (clearedIds log).Nodup
  ordered : ∀ earlier id later, log = earlier ++ .clearMark id :: later → id ∈ markedIds earlier

theorem marked_ids_snoc (log : List FoldEvent) (event : FoldEvent) :
    markedIds (log ++ [event]) = markedIds log ++ event.markedId.toList := by
  rw [markedIds, List.filterMap_append]
  cases marked : event.markedId <;> simp [markedIds, marked]

theorem cleared_ids_snoc (log : List FoldEvent) (event : FoldEvent) :
    clearedIds (log ++ [event]) = clearedIds log ++ event.clearedId.toList := by
  rw [clearedIds, List.filterMap_append]
  cases cleared : event.clearedId <;> simp [clearedIds, cleared]

theorem cleared_was_marked (host : Placeholders) (log : List FoldEvent) (told : host.Told log) (id : Nat)
    (cleared : id ∈ clearedIds log) : id ∈ markedIds log := by
  obtain ⟨event, member, isClear⟩ := List.mem_filterMap.mp cleared
  obtain ⟨earlier, later, split⟩ := List.append_of_mem member
  have shape : event = .clearMark id := by
    cases event <;> cases isClear
    rfl
  rw [shape] at split
  have before := told.ordered earlier id later split
  rw [split, markedIds, List.filterMap_append]
  exact List.mem_append_left _ before

theorem ordered_snoc (log : List FoldEvent) (event : FoldEvent)
    (ordered : ∀ earlier id later, log = earlier ++ .clearMark id :: later → id ∈ markedIds earlier)
    (last : ∀ id, event.clearedId = some id → id ∈ markedIds log) (earlier : List FoldEvent) (id : Nat)
    (later : List FoldEvent) (split : log ++ [event] = earlier ++ .clearMark id :: later) : id ∈ markedIds earlier := by
  rcases List.eq_nil_or_concat later with rfl | ⟨rest, final, rfl⟩
  · obtain ⟨rfl, same⟩ := List.append_inj' split rfl
    exact last id (by rw [List.singleton_inj.mp same]; rfl)
  · rw [List.concat_eq_append, ← List.cons_append, ← List.append_assoc] at split
    obtain ⟨whole, _⟩ := List.append_inj' split rfl
    exact ordered earlier id rest whole

theorem draw_told (host after : Placeholders) (log : List FoldEvent) (event : FoldEvent)
    (drawn : host.draw event = some after) (told : host.Told log) : after.Told (log ++ [event]) := by
  rcases draw_cases host after event drawn with ⟨isMark, noClear, rfl⟩ | ⟨id, member, rfl, rfl⟩ | ⟨noMark, noClear, rfl⟩
  · -- An id is cleared only after its mark, so the next one has not been cleared yet.
    have fresh : host.drawn ∉ clearedIds log := by
      intro cleared
      have before := cleared_was_marked host log told _ cleared
      rw [told.marked, List.mem_range] at before
      exact Nat.lt_irrefl _ before
    have marks := marked_ids_snoc log event
    have clears := cleared_ids_snoc log event
    rw [isMark, Option.toList_some] at marks
    rw [noClear, Option.toList_none, List.append_nil] at clears
    refine ⟨?_, ?_, by rw [clears]; exact told.once, ordered_snoc log event told.ordered (by simp [noClear])⟩
    · rw [marks, told.marked, List.range_succ]
    · rw [marks, clears, List.filter_append, ← told.shown]
      simp [fresh]
  · have present : id ∈ markedIds log ∧ id ∉ clearedIds log := by
      rw [told.shown, List.mem_filter, decide_eq_true_eq] at member
      exact member
    have distinct : host.shown.Nodup := by
      rw [told.shown, told.marked]
      exact List.nodup_range.filter _
    have marks : markedIds (log ++ [.clearMark id]) = markedIds log :=
      (marked_ids_snoc log _).trans (List.append_nil _)
    have clears : clearedIds (log ++ [.clearMark id]) = clearedIds log ++ [id] := cleared_ids_snoc log _
    refine ⟨by rw [marks]; exact told.marked, ?_, ?_, ordered_snoc log _ told.ordered (fun other isClear => ?_)⟩
    · dsimp only
      rw [distinct.erase_eq_filter, marks, clears, told.shown, List.filter_filter]
      refine List.filter_congr (fun other _ => ?_)
      rw [Bool.eq_iff_iff]
      simp [and_comm]
    · rw [clears, ← List.concat_eq_append]
      exact told.once.concat present.2
    · cases isClear
      exact present.1
  · have marks := marked_ids_snoc log event
    have clears := cleared_ids_snoc log event
    rw [noMark, Option.toList_none, List.append_nil] at marks
    rw [noClear, Option.toList_none, List.append_nil] at clears
    refine ⟨by rw [marks]; exact told.marked, by rw [marks, clears]; exact told.shown,
      by rw [clears]; exact told.once, ordered_snoc log event told.ordered (by simp [noClear])⟩

theorem draw_all_told (host : Placeholders) (log : List FoldEvent)
    (drawn : Placeholders.drawAll ⟨[], 0⟩ log = some host) : host.Told log := by
  induction log using List.reverseRecOn generalizing host with
  | nil =>
      cases drawn
      exact ⟨rfl, rfl, List.nodup_nil, fun earlier id later split => by simp at split⟩
  | append_singleton log event ih =>
      rw [Placeholders.drawAll, List.foldlM_append] at drawn
      obtain ⟨middle, first, rest⟩ := Option.bind_eq_some_iff.mp drawn
      rw [List.foldlM_cons] at rest
      obtain ⟨last, single, same⟩ := Option.bind_eq_some_iff.mp rest
      cases same
      exact draw_told middle host log event single (ih middle first)

structure FoldRegistry.Issued (registry : FoldRegistry) : Prop where
  rising : registry.folds.Pairwise fun first second => first.1 < second.1
  below : ∀ entry ∈ registry.folds, entry.1 < registry.nextId

theorem issued_distinct (registry : FoldRegistry) (issued : registry.Issued) :
    (registry.folds.map Prod.fst).Nodup :=
  List.pairwise_map.mpr (issued.rising.imp fun less => Nat.ne_of_lt less)

def FoldRegistry.placeholders (registry : FoldRegistry) : Placeholders :=
  ⟨registry.folds.map Prod.fst, registry.nextId⟩

-- A host that shows the folds before some events draws all of them, and then shows the folds after them.
def FoldRegistry.Mirrored (before : FoldRegistry) (events : List FoldEvent) (after : FoldRegistry) : Prop :=
  before.placeholders.drawAll events = some after.placeholders

theorem issued_iff (registry : FoldRegistry) : registry.Issued ↔ registry.placeholders.Issued := by
  constructor
  · intro issued
    refine ⟨List.pairwise_map.mpr issued.rising, fun id member => ?_⟩
    obtain ⟨entry, present, rfl⟩ := List.mem_map.mp member
    exact issued.below entry present
  · intro issued
    exact ⟨List.pairwise_map.mp issued.rising, fun entry member => issued.below entry.1 (List.mem_map_of_mem member)⟩

theorem mirrored_issued (before after : FoldRegistry) (events : List FoldEvent)
    (mirrored : before.Mirrored events after) (issued : before.Issued) : after.Issued :=
  (issued_iff after).mpr (draw_all_issued _ _ events mirrored ((issued_iff before).mp issued))

theorem mirrored_append (before middle after : FoldRegistry) (earlier later : List FoldEvent)
    (first : before.Mirrored earlier middle) (second : middle.Mirrored later after) :
    before.Mirrored (earlier ++ later) after :=
  draw_all_append _ _ _ earlier later first second

theorem fold_mirrored (registry : FoldRegistry) (line : Nat) (token : Token) :
    registry.Mirrored (registry.fold line token).events (registry.fold line token).registry := by
  unfold FoldRegistry.fold
  split
  · split
    · rfl
    · simp [FoldRegistry.Mirrored, FoldRegistry.placeholders, Placeholders.drawAll, Placeholders.draw]
  · rfl

theorem remove_mirrored (registry : FoldRegistry) (id : Nat) (issued : registry.Issued) :
    registry.Mirrored (registry.remove id).events (registry.remove id).registry := by
  unfold FoldRegistry.remove
  split
  · rfl
  · rename_i entry found
    have named : entry.1 = id := by simpa using List.find?_some found
    have present : id ∈ registry.folds.map Prod.fst := by
      rw [← named]
      exact List.mem_map_of_mem (List.mem_of_find?_eq_some found)
    have left : (registry.folds.map Prod.fst).erase id =
        (registry.folds.filter fun other => other.1 != id).map Prod.fst := by
      rw [(issued_distinct registry issued).erase_eq_filter, List.filter_map]
      rfl
    simp [FoldRegistry.Mirrored, FoldRegistry.placeholders, Placeholders.drawAll, Placeholders.draw, -List.mem_map,
      present, left]

theorem unfold_mirrored (registry : FoldRegistry) (line : Nat) (token : Token) (issued : registry.Issued) :
    registry.Mirrored (registry.unfold line token).events (registry.unfold line token).registry := by
  unfold FoldRegistry.unfold
  split
  · rfl
  · exact remove_mirrored registry _ issued

theorem toggle_mirrored (registry : FoldRegistry) (line : Nat) (token : Token) (issued : registry.Issued) :
    registry.Mirrored (registry.toggle line token).events (registry.toggle line token).registry := by
  simp only [FoldRegistry.toggle]
  split
  · exact unfold_mirrored registry line token issued
  · exact fold_mirrored registry line token

theorem refresh_mirrored (registry : FoldRegistry) (document : Document) (line : Nat) :
    registry.Mirrored (registry.refreshLine document line).events (registry.refreshLine document line).registry := by
  unfold FoldRegistry.refreshLine FoldRegistry.gutterFor
  split
  · rfl
  · split <;> rfl

theorem for_each_mirrored {α β : Type} (registry : FoldRegistry) (step : FoldRegistry → α → FoldStep β)
    (elements : List α) (issued : registry.Issued)
    (single : ∀ (registry : FoldRegistry) (element : α), registry.Issued →
      registry.Mirrored (step registry element).events (step registry element).registry) :
    registry.Mirrored (registry.forEach step elements).events (registry.forEach step elements).registry := by
  induction elements generalizing registry with
  | nil => rfl
  | cons element elements ih =>
      have first := single registry element issued
      exact mirrored_append registry _ _ _ _ first (ih _ (mirrored_issued registry _ _ first issued))

theorem on_change_mirrored (registry : FoldRegistry) (document : Document) (start stop : Nat) (delta : Int)
    (issued : registry.Issued) :
    registry.Mirrored (registry.onChange document start stop delta).events
      (registry.onChange document start stop delta).registry := by
  let current : FoldRegistry := { registry with
    folds := registry.folds.map fun entry =>
      (entry.1, (FoldRegistry.movedFold document start stop delta entry.2).getD entry.2) }
  have same : current.placeholders = registry.placeholders := by
    simp only [current, FoldRegistry.placeholders, List.map_map]
    rfl
  have issuedToo : current.Issued := by
    rw [issued_iff, same, ← issued_iff]
    exact issued
  have cleaned := for_each_mirrored current FoldRegistry.remove
    ((registry.folds.filter fun entry => (FoldRegistry.movedFold document start stop delta entry.2).isNone).map Prod.fst)
    issuedToo (fun registry id issued => remove_mirrored registry id issued)
  have refreshed := for_each_mirrored _ (fun registry line => registry.refreshLine document line)
    (FoldRegistry.linesBetween start (min (stop + 1) (document.lineCount - 1)))
    (mirrored_issued current _ _ cleaned issuedToo) (fun registry line _ => refresh_mirrored registry document line)
  have whole := mirrored_append current _ _ _ _ cleaned refreshed
  rw [FoldRegistry.Mirrored, same] at whole
  exact whole

theorem gutter_click_mirrored (registry : FoldRegistry) (document : Document) (line : Nat) (issued : registry.Issued) :
    registry.Mirrored (registry.gutterClick document line).events (registry.gutterClick document line).registry :=
  mirrored_append registry _ _ _ _
    (for_each_mirrored registry _ _ issued (fun registry token issued => toggle_mirrored registry line token issued))
    (refresh_mirrored _ document line)

theorem placeholder_clicked_mirrored (registry : FoldRegistry) (document : Document) (id : Nat)
    (issued : registry.Issued) :
    registry.Mirrored (registry.placeholderClicked document id).events
      (registry.placeholderClicked document id).registry := by
  have removed := remove_mirrored registry id issued
  simp only [FoldRegistry.placeholderClicked]
  split
  · exact removed
  · exact mirrored_append registry _ _ _ _ removed (refresh_mirrored _ document _)

theorem load_line_mirrored (registry : FoldRegistry) (document : Document) (line : Nat) (issued : registry.Issued) :
    registry.Mirrored (registry.loadLine document line).events (registry.loadLine document line).registry :=
  mirrored_append registry _ _ _ _
    (for_each_mirrored registry _ _ issued (fun registry token _ => fold_mirrored registry line token))
    (refresh_mirrored _ document line)

theorem load_mirrored (registry : FoldRegistry) (document : Document) (issued : registry.Issued) :
    registry.Mirrored (registry.load document).events (registry.load document).registry :=
  for_each_mirrored registry _ _ issued (fun registry line issued => load_line_mirrored registry document line issued)

theorem draw_all_cleared (ids : List Nat) (drawn : Nat) :
    Placeholders.drawAll ⟨ids, drawn⟩ (ids.map .clearMark) = some ⟨[], drawn⟩ := by
  induction ids with
  | nil => rfl
  | cons id ids ih =>
      rw [List.map_cons, Placeholders.drawAll, List.foldlM_cons, Placeholders.draw, if_pos List.mem_cons_self,
        List.erase_cons_head]
      exact ih

theorem draw_all_gutters (host : Placeholders) (lines : List Nat) :
    host.drawAll (lines.map .clearGutter) = some host := by
  induction lines with
  | nil => rfl
  | cons line lines ih => exact ih

theorem clear_mirrored (registry : FoldRegistry) (document : Document) :
    registry.Mirrored (registry.clear document).events (registry.clear document).registry := by
  have cleared := draw_all_cleared (registry.folds.map Prod.fst) registry.nextId
  rw [List.map_map] at cleared
  exact draw_all_append _ _ _ _ _ cleared (draw_all_gutters _ _)

inductive FoldCall where
  | fold (line : Nat) (token : Token)
  | unfold (line : Nat) (token : Token)
  | toggle (line : Nat) (token : Token)
  | gutterClick (document : Document) (line : Nat)
  | placeholderClicked (document : Document) (id : Nat)
  | onChange (document : Document) (start stop : Nat) (delta : Int)
  | load (document : Document)
  | clear (document : Document)
  | refreshLine (document : Document) (line : Nat)

def FoldStep.unanswered {α : Type} (step : FoldStep α) : FoldStep Unit :=
  ⟨(), step.registry, step.events⟩

def FoldRegistry.call (registry : FoldRegistry) : FoldCall → FoldStep Unit
  | .fold line token => (registry.fold line token).unanswered
  | .unfold line token => (registry.unfold line token).unanswered
  | .toggle line token => (registry.toggle line token).unanswered
  | .gutterClick document line => registry.gutterClick document line
  | .placeholderClicked document id => (registry.placeholderClicked document id).unanswered
  | .onChange document start stop delta => registry.onChange document start stop delta
  | .load document => registry.load document
  | .clear document => registry.clear document
  | .refreshLine document line => registry.refreshLine document line

theorem call_mirrored (registry : FoldRegistry) (call : FoldCall) (issued : registry.Issued) :
    registry.Mirrored (registry.call call).events (registry.call call).registry := by
  cases call with
  | fold line token => exact fold_mirrored registry line token
  | unfold line token => exact unfold_mirrored registry line token issued
  | toggle line token => exact toggle_mirrored registry line token issued
  | gutterClick document line => exact gutter_click_mirrored registry document line issued
  | placeholderClicked document id => exact placeholder_clicked_mirrored registry document id issued
  | onChange document start stop delta => exact on_change_mirrored registry document start stop delta issued
  | load document => exact load_mirrored registry document issued
  | clear document => exact clear_mirrored registry document
  | refreshLine document line => exact refresh_mirrored registry document line

theorem empty_issued (options : FoldOptions) : FoldRegistry.Issued { options } :=
  ⟨.nil, fun _ member => absurd member List.not_mem_nil⟩

theorem calls_mirrored (options : FoldOptions) (calls : List FoldCall) :
    FoldRegistry.Mirrored { options } (FoldRegistry.forEach { options } FoldRegistry.call calls).events
      (FoldRegistry.forEach { options } FoldRegistry.call calls).registry :=
  for_each_mirrored _ FoldRegistry.call calls (empty_issued options) call_mirrored

theorem host_mirrors_folds (options : FoldOptions) (calls : List FoldCall) :
    let run := FoldRegistry.forEach { options } FoldRegistry.call calls
    ((markedIds run.events).filter fun id => decide (id ∉ clearedIds run.events)) = run.registry.folds.map Prod.fst ∧
      markedIds run.events = List.range run.registry.nextId ∧
      (clearedIds run.events).Nodup ∧
      ∀ earlier id later, run.events = earlier ++ .clearMark id :: later → id ∈ markedIds earlier := by
  intro run
  have told := draw_all_told run.registry.placeholders run.events (calls_mirrored options calls)
  exact ⟨told.shown.symm, told.marked, told.once, told.ordered⟩

end FilterAssist
