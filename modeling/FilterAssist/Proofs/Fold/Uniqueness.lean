import Mathlib
import FilterAssist.Proofs.Document.TokenLookup
import FilterAssist.Proofs.Fold.Placeholders
import FilterAssist.Proofs.Fold.Tracking

set_option autoImplicit false

/-!
One fold for a string. Folding and unfolding keep the places of the folds apart. Bringing the folds
up to date with an edit does so exactly when no two folds with the same text stand on an edited line
that still holds that text, since both of them then go to the first string with it.
-/
namespace FilterAssist

def Fold.place (fold : Fold) : Nat × Nat :=
  (fold.line, fold.start)

def FoldRegistry.Unique (registry : FoldRegistry) : Prop :=
  (registry.folds.map fun entry => entry.2.place).Nodup

instance (registry : FoldRegistry) : Decidable registry.Unique :=
  inferInstanceAs (Decidable (List.Nodup _))

-- All that an operation other than an edit does to a registry: it takes folds out, and it folds strings that are
-- not folded.
inductive Refolded (initial : FoldRegistry) : FoldRegistry → Prop
  | unchanged : Refolded initial initial
  | dropped (registry : FoldRegistry) (kept : List (Nat × Fold)) (before : Refolded initial registry)
      (part : kept.Sublist registry.folds) : Refolded initial { registry with folds := kept }
  | folded (registry : FoldRegistry) (line : Nat) (token : Token) (before : Refolded initial registry)
      (free : registry.isFolded line token = none) :
      Refolded initial { registry with
        folds := registry.folds ++ [(registry.nextId, ⟨line, token.start, token.stop, token.text⟩)]
        nextId := registry.nextId + 1 }

theorem refolded_trans (initial middle final : FoldRegistry) (first : Refolded initial middle)
    (second : Refolded middle final) : Refolded initial final := by
  induction second with
  | unchanged => exact first
  | dropped registry kept _ part ih => exact .dropped registry kept ih part
  | folded registry line token _ free ih => exact .folded registry line token ih free

theorem fold_refolded (registry : FoldRegistry) (line : Nat) (token : Token) :
    Refolded registry (registry.fold line token).registry := by
  unfold FoldRegistry.fold
  split
  · split
    · exact .unchanged
    · rename_i free
      exact .folded registry line token .unchanged free
  · exact .unchanged

theorem remove_refolded (registry : FoldRegistry) (id : Nat) : Refolded registry (registry.remove id).registry := by
  unfold FoldRegistry.remove
  split
  · exact .unchanged
  · exact .dropped registry _ .unchanged List.filter_sublist

theorem unfold_refolded (registry : FoldRegistry) (line : Nat) (token : Token) :
    Refolded registry (registry.unfold line token).registry := by
  unfold FoldRegistry.unfold
  split
  · exact .unchanged
  · exact remove_refolded registry _

theorem toggle_refolded (registry : FoldRegistry) (line : Nat) (token : Token) :
    Refolded registry (registry.toggle line token).registry := by
  simp only [FoldRegistry.toggle]
  split
  · exact unfold_refolded registry line token
  · exact fold_refolded registry line token

theorem for_each_refolded {α β : Type} (registry : FoldRegistry) (step : FoldRegistry → α → FoldStep β)
    (elements : List α) (single : ∀ registry element, Refolded registry (step registry element).registry) :
    Refolded registry (registry.forEach step elements).registry := by
  induction elements generalizing registry with
  | nil => exact .unchanged
  | cons element elements ih => exact refolded_trans registry _ _ (single registry element) (ih _)

theorem gutter_click_refolded (registry : FoldRegistry) (document : Document) (line : Nat) :
    Refolded registry (registry.gutterClick document line).registry :=
  for_each_refolded registry _ _ fun registry token => toggle_refolded registry line token

theorem placeholder_clicked_refolded (registry : FoldRegistry) (document : Document) (id : Nat) :
    Refolded registry (registry.placeholderClicked document id).registry := by
  simp only [FoldRegistry.placeholderClicked]
  split <;> exact remove_refolded registry id

theorem load_refolded (registry : FoldRegistry) (document : Document) :
    Refolded registry (registry.load document).registry := by
  refine for_each_refolded registry _ _ (fun registry line => ?_)
  exact for_each_refolded registry _ _ fun registry token => fold_refolded registry line token

theorem clear_refolded (registry : FoldRegistry) (document : Document) :
    Refolded registry (registry.clear document).registry :=
  .dropped registry [] .unchanged (List.nil_sublist _)

def FoldCall.isChange : FoldCall → Bool
  | .onChange _ _ _ _ => true
  | _ => false

theorem steady_call_refolded (registry : FoldRegistry) (call : FoldCall) (steady : call.isChange = false) :
    Refolded registry (registry.call call).registry := by
  cases call with
  | fold line token => exact fold_refolded registry line token
  | unfold line token => exact unfold_refolded registry line token
  | toggle line token => exact toggle_refolded registry line token
  | gutterClick document line => exact gutter_click_refolded registry document line
  | placeholderClicked document id => exact placeholder_clicked_refolded registry document id
  | onChange document start stop delta => cases steady
  | load document => exact load_refolded registry document
  | clear document => exact clear_refolded registry document
  | refreshLine document line => exact .unchanged

theorem refolded_unique (initial final : FoldRegistry) (refolded : Refolded initial final) (unique : initial.Unique) :
    final.Unique := by
  induction refolded with
  | unchanged => exact unique
  | dropped registry kept _ part ih => exact ih.sublist (part.map _)
  | folded registry line token _ free ih =>
      rw [FoldRegistry.Unique, List.map_append, List.map_singleton]
      refine List.nodup_append.mpr ⟨ih, List.pairwise_singleton _ _, ?_⟩
      rintro place member other last rfl
      obtain ⟨entry, present, same⟩ := List.mem_map.mp member
      obtain ⟨sameLine, sameStart⟩ := Prod.mk.inj (same.trans (List.mem_singleton.mp last))
      rw [FoldRegistry.isFolded, Option.map_eq_none_iff, List.find?_eq_none] at free
      exact free entry present (decide_eq_true ⟨sameLine, sameStart⟩)

-- The lines that are reported as edited, counted after the edit, and by how many lines the text grew. Where lines
-- were only taken out the report may end on the line above its start.
structure ChangeReport where
  start : Nat
  stop : Nat
  delta : Int
  ordered : start ≤ stop + 1

def FoldRegistry.update (registry : FoldRegistry) (document : Document) (report : ChangeReport) : FoldRegistry :=
  (registry.onChange document report.start report.stop report.delta).registry

-- Two folds with the same text on a line that is searched for that text and has it.
structure Fold.Twins (first second : Fold) (document : Document) (report : ChangeReport) : Prop where
  line : first.line = second.line
  text : first.text = second.text
  entered : report.start ≤ first.line
  old : (first.line : Int) ≤ report.stop - report.delta
  reported : first.line ≤ report.stop
  found : ∃ token ∈ document.lineTokens first.line, token.kind = some .string ∧ token.text = first.text

theorem twins_meet (document : Document) (report : ChangeReport) (first second : Fold)
    (twins : first.Twins second document report) :
    ∃ movedFirst movedSecond,
      FoldRegistry.movedFold document report.start report.stop report.delta first = some movedFirst ∧
      FoldRegistry.movedFold document report.start report.stop report.delta second = some movedSecond ∧
      movedFirst.place = movedSecond.place := by
  have present : ((document.lineTokens first.line).find? fun token =>
      decide (token.kind = some .string ∧ token.text = first.text)).isSome = true := by
    simpa using twins.found
  obtain ⟨token, found⟩ := Option.isSome_iff_exists.mp present
  have looked (fold : Fold) (line : fold.line = first.line) (text : fold.text = first.text) :
      FoldRegistry.movedFold document report.start report.stop report.delta fold =
        some { fold with start := token.start, stop := token.stop } := by
    rw [FoldRegistry.movedFold, line, text, if_neg (Nat.not_lt.mpr twins.entered), if_neg (Int.not_lt.mpr twins.old),
      if_pos twins.reported, found, Option.map_some]
  refine ⟨_, _, looked first rfl rfl, looked second twins.line.symm twins.text.symm, ?_⟩
  exact congrArg (fun line => (line, token.start)) twins.line

theorem meeting_folds_twins (document : Document) (report : ChangeReport) (tiled : document.Tiled)
    (first second movedFirst movedSecond : Fold) (apart : first.place ≠ second.place)
    (one : FoldRegistry.movedFold document report.start report.stop report.delta first = some movedFirst)
    (other : FoldRegistry.movedFold document report.start report.stop report.delta second = some movedSecond)
    (meet : movedFirst.place = movedSecond.place) : first.Twins second document report := by
  -- Folds above the edit, in it and below it stay on lines of their own, so only two that are searched for on the
  -- same line can meet.
  have ordered := report.ordered
  obtain ⟨sameLine, sameStart⟩ := Prod.mk.inj meet
  rcases moved_fold_cases document _ _ _ first movedFirst one with
      ⟨_, rfl⟩ | ⟨_, _, rfl⟩ | ⟨entered, old, reported, token, found, rfl⟩ <;>
    rcases moved_fold_cases document _ _ _ second movedSecond other with
      ⟨_, rfl⟩ | ⟨_, _, rfl⟩ | ⟨_, _, _, twin, again, rfl⟩
  · exact absurd meet apart
  · dsimp only at sameLine
    omega
  · dsimp only at sameLine
    omega
  · dsimp only at sameLine
    omega
  · dsimp only at sameLine sameStart
    have lines : first.line = second.line := by omega
    exact absurd (Prod.ext lines sameStart) apart
  · dsimp only at sameLine
    omega
  · dsimp only at sameLine
    omega
  · dsimp only at sameLine
    omega
  · dsimp only at sameLine sameStart
    obtain ⟨text, tiles⟩ := tiled_line document first.line tiled
    have here := List.mem_of_find?_eq_some found
    have there := List.mem_of_find?_eq_some again
    have fits := List.find?_some found
    have fitsAgain := List.find?_some again
    rw [decide_eq_true_eq] at fits fitsAgain
    rw [← sameLine] at there
    have same : token = twin := tiles_start_inj text _ 0 _ tiles token twin here there sameStart
    rw [← same] at fitsAgain
    exact ⟨sameLine, fits.2.symm.trans fitsAgain.2, entered, old, reported, token, here, fits⟩

theorem moved_entries (moved : Fold → Option Fold) (entries : List (Nat × Fold)) :
    (entries.filter fun entry => (moved entry.2).isSome).map (fun entry => (entry.1, (moved entry.2).getD entry.2)) =
      entries.filterMap fun entry => (moved entry.2).map (Prod.mk entry.1) := by
  induction entries with
  | nil => rfl
  | cons entry entries ih => cases result : moved entry.2 <;> simp [result, ih]

theorem on_change_folds (registry : FoldRegistry) (document : Document) (start stop : Nat) (delta : Int)
    (distinct : (registry.folds.map Prod.fst).Nodup) :
    (registry.onChange document start stop delta).registry.folds =
      registry.folds.filterMap fun entry =>
        (FoldRegistry.movedFold document start stop delta entry.2).map (Prod.mk entry.1) := by
  have current : ∀ entry ∈ registry.folds,
      decide (entry.1 ∉ (registry.folds.filter fun other =>
          (FoldRegistry.movedFold document start stop delta other.2).isNone).map Prod.fst) =
        (FoldRegistry.movedFold document start stop delta entry.2).isSome := by
    intro entry member
    rw [Bool.eq_iff_iff, decide_eq_true_eq, Option.isSome_iff_ne_none]
    constructor
    · intro clean lost
      exact clean (List.mem_map.mpr ⟨entry, List.mem_filter.mpr ⟨member, by rw [lost]; rfl⟩, rfl⟩)
    · rintro survives stale
      obtain ⟨other, lost, sameId⟩ := List.mem_map.mp stale
      obtain ⟨present, none⟩ := List.mem_filter.mp lost
      have same : other = entry := List.inj_on_of_nodup_map distinct present member sameId
      rw [same, Option.isNone_iff_eq_none] at none
      exact survives none
  simp only [FoldRegistry.onChange, refresh_all_registry, remove_all_folds]
  rw [List.filter_map, ← moved_entries]
  exact congrArg _ (List.filter_congr current)

def FoldRegistry.TwinsMeet (registry : FoldRegistry) (document : Document) (report : ChangeReport) : Prop :=
  ∃ first ∈ registry.folds, ∃ second ∈ registry.folds, first.1 ≠ second.1 ∧ first.2.Twins second.2 document report

theorem update_unique_iff (registry : FoldRegistry) (document : Document) (report : ChangeReport)
    (tiled : document.Tiled) (issued : registry.Issued) (unique : registry.Unique) :
    (registry.update document report).Unique ↔ ¬ registry.TwinsMeet document report := by
  have folds := on_change_folds registry document report.start report.stop report.delta
    (issued_distinct registry issued)
  constructor
  · rintro distinct ⟨first, here, second, there, different, twins⟩
    obtain ⟨movedFirst, movedSecond, one, other, meet⟩ := twins_meet document report first.2 second.2 twins
    have kept : (first.1, movedFirst) ∈ (registry.update document report).folds := by
      rw [FoldRegistry.update, folds]
      exact List.mem_filterMap.mpr ⟨first, here, by rw [one]; rfl⟩
    have keptToo : (second.1, movedSecond) ∈ (registry.update document report).folds := by
      rw [FoldRegistry.update, folds]
      exact List.mem_filterMap.mpr ⟨second, there, by rw [other]; rfl⟩
    have same := List.inj_on_of_nodup_map distinct kept keptToo meet
    exact different (Prod.mk.inj same).1
  · intro free
    rw [FoldRegistry.Unique, FoldRegistry.update, folds, List.Nodup, List.pairwise_map, List.pairwise_filterMap]
    refine (issued.rising.and (List.pairwise_map.mp unique)).imp_of_mem ?_
    rintro first second here there ⟨less, apart⟩ movedFirst one movedSecond other meet
    obtain ⟨moved, isMoved, rfl⟩ := Option.map_eq_some_iff.mp one
    obtain ⟨movedToo, isMovedToo, rfl⟩ := Option.map_eq_some_iff.mp other
    exact free ⟨first, here, second, there, Nat.ne_of_lt less,
      meeting_folds_twins document report tiled first.2 second.2 moved movedToo apart isMoved isMovedToo meet⟩

structure FoldSession where
  buffer : Buffer
  registry : FoldRegistry

inductive FoldAction where
  | fold (line : Nat) (token : Token)
  | unfold (line : Nat) (token : Token)
  | toggle (line : Nat) (token : Token)
  | gutterClick (line : Nat)
  | placeholderClicked (id : Nat)
  | load
  | clear
  | edit (range : LineRange) (texts : List Text) (report : ChangeReport)

namespace FoldSession

def opened (lexer : Lexer) (text : Text) (options : FoldOptions) : FoldSession :=
  ⟨Buffer.ofText lexer text, { options }⟩

def act (session : FoldSession) : FoldAction → FoldSession
  | .fold line token => { session with registry := (session.registry.fold line token).registry }
  | .unfold line token => { session with registry := (session.registry.unfold line token).registry }
  | .toggle line token => { session with registry := (session.registry.toggle line token).registry }
  | .gutterClick line =>
    { session with registry := (session.registry.gutterClick session.buffer.document line).registry }
  | .placeholderClicked id =>
    { session with registry := (session.registry.placeholderClicked session.buffer.document id).registry }
  | .load => { session with registry := (session.registry.load session.buffer.document).registry }
  | .clear => { session with registry := (session.registry.clear session.buffer.document).registry }
  | .edit range texts report =>
    let buffer := (session.buffer.replaceLines range texts).1
    ⟨buffer, session.registry.update buffer.document report⟩

def run (session : FoldSession) (actions : List FoldAction) : FoldSession :=
  actions.foldl act session

structure Sound (session : FoldSession) : Prop where
  fresh : session.buffer.Fresh
  issued : session.registry.Issued

end FoldSession

theorem act_is_call (session : FoldSession) (action : FoldAction) :
    ∃ call, (session.act action).registry = (session.registry.call call).registry ∧
      ((call.isChange = false ∧ (session.act action).buffer = session.buffer) ∨
        ∃ range texts report, action = .edit range texts report) := by
  cases action with
  | fold line token => exact ⟨.fold line token, rfl, .inl ⟨rfl, rfl⟩⟩
  | unfold line token => exact ⟨.unfold line token, rfl, .inl ⟨rfl, rfl⟩⟩
  | toggle line token => exact ⟨.toggle line token, rfl, .inl ⟨rfl, rfl⟩⟩
  | gutterClick line => exact ⟨.gutterClick session.buffer.document line, rfl, .inl ⟨rfl, rfl⟩⟩
  | placeholderClicked id => exact ⟨.placeholderClicked session.buffer.document id, rfl, .inl ⟨rfl, rfl⟩⟩
  | load => exact ⟨.load session.buffer.document, rfl, .inl ⟨rfl, rfl⟩⟩
  | clear => exact ⟨.clear session.buffer.document, rfl, .inl ⟨rfl, rfl⟩⟩
  | edit range texts report =>
      exact ⟨.onChange (session.buffer.replaceLines range texts).1.document report.start report.stop report.delta, rfl,
        .inr ⟨range, texts, report, rfl⟩⟩

theorem act_cases (session : FoldSession) (action : FoldAction) :
    ((session.act action).buffer = session.buffer ∧ Refolded session.registry (session.act action).registry) ∨
      ∃ range texts report, action = .edit range texts report := by
  obtain ⟨call, same, ⟨steady, buffer⟩ | edit⟩ := act_is_call session action
  · rw [same]
    exact .inl ⟨buffer, steady_call_refolded session.registry call steady⟩
  · exact .inr edit

theorem act_sound (session : FoldSession) (action : FoldAction) (sound : session.Sound) :
    (session.act action).Sound := by
  have issued : (session.act action).registry.Issued := by
    obtain ⟨call, same, _⟩ := act_is_call session action
    rw [same]
    exact mirrored_issued _ _ _ (call_mirrored session.registry call sound.issued) sound.issued
  rcases act_cases session action with ⟨buffer, _⟩ | ⟨range, texts, report, rfl⟩
  · exact ⟨by rw [buffer]; exact sound.fresh, issued⟩
  · exact ⟨replace_lines_fresh session.buffer range texts sound.fresh, issued⟩

theorem run_sound (session : FoldSession) (actions : List FoldAction) (sound : session.Sound) :
    (session.run actions).Sound := by
  induction actions generalizing session with
  | nil => exact sound
  | cons action actions ih => exact ih (session.act action) (act_sound session action sound)

theorem opened_sound (lexer : Lexer) (text : Text) (options : FoldOptions) :
    (FoldSession.opened lexer text options).Sound :=
  ⟨of_text_fresh lexer text, empty_issued options⟩

theorem run_concat (session : FoldSession) (actions : List FoldAction) (action : FoldAction) :
    session.run (actions ++ [action]) = (session.run actions).act action :=
  List.foldl_concat ..

def FoldSession.EditsTwins (session : FoldSession) (range : LineRange) (texts : List Text) (report : ChangeReport) :
    Prop :=
  session.registry.TwinsMeet (session.buffer.replaceLines range texts).1.document report

theorem edit_unique_iff (session : FoldSession) (range : LineRange) (texts : List Text) (report : ChangeReport)
    (sound : session.Sound) (unique : session.registry.Unique) :
    (session.act (.edit range texts report)).registry.Unique ↔ ¬ session.EditsTwins range texts report :=
  update_unique_iff session.registry _ report
    (fresh_document_tiled _ (replace_lines_fresh session.buffer range texts sound.fresh)) sound.issued unique

theorem folds_unique_iff_no_twins (lexer : Lexer) (text : Text) (options : FoldOptions) (actions : List FoldAction) :
    let session := FoldSession.opened lexer text options
    (∀ done, done <+: actions → (session.run done).registry.Unique) ↔
      ∀ done range texts report, done ++ [.edit range texts report] <+: actions →
        ¬ (session.run done).EditsTwins range texts report := by
  intro session
  have sound (done : List FoldAction) : (session.run done).Sound :=
    run_sound session done (opened_sound lexer text options)
  constructor
  · intro unique done range texts report reached
    have before := unique done ((List.prefix_append done _).trans reached)
    have after := unique _ reached
    rw [run_concat] at after
    exact (edit_unique_iff _ range texts report (sound done) before).mp after
  · intro free done
    induction done using List.reverseRecOn with
    | nil => exact fun _ => List.nodup_nil
    | append_singleton done action ih =>
        intro reached
        have before := ih ((List.prefix_append done _).trans reached)
        rw [run_concat]
        rcases act_cases (session.run done) action with ⟨_, refolded⟩ | ⟨range, texts, report, rfl⟩
        · exact refolded_unique _ _ refolded before
        · exact (edit_unique_iff _ range texts report (sound done) before).mpr (free done range texts report reached)

-- Both strings of a line are folded, then a blank is put between them: both folds go to the first.
theorem folds_not_unique_after_blank :
    let lexer : Lexer := { vocabulary := Vocabulary.ofLists {} }
    let session := FoldSession.opened lexer "'a' 'a'".toList { foldableLength := 2 }
    let actions : List FoldAction := [.gutterClick 0, .edit ⟨0, 1⟩ ["'a'  'a'".toList] ⟨0, 0, 0, Nat.zero_le 1⟩]
    (session.run actions).registry.folds = [(0, ⟨0, 0, 3, "'a'".toList⟩), (1, ⟨0, 0, 3, "'a'".toList⟩)] ∧
      ¬ (session.run actions).registry.Unique := by
  intro lexer session actions
  have folds : (session.run actions).registry.folds =
      [(0, ⟨0, 0, 3, "'a'".toList⟩), (1, ⟨0, 0, 3, "'a'".toList⟩)] := by cbv
  refine ⟨folds, ?_⟩
  rw [FoldRegistry.Unique, folds]
  decide

end FilterAssist
