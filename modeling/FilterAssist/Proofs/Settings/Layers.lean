import Mathlib
import FilterAssist.Proofs.Settings.Standard

set_option autoImplicit false

/-!
Settings from layers. Layers that set documented keys to values of their types give each key the value of the last
layer that set it. The standard settings fill every key, the punctuation controls among them, so one layer that uses
the second spelling of these makes the whole stack fail.
-/
namespace FilterAssist

inductive LayerSets : SettingsLayer → List SectionPart → Prop
  | text (toml : Text) (parts : List SectionPart) (parsed : Toml.ofText? toml = some (parts.map SectionPart.entry)) :
      LayerSets (.text toml) parts
  | file (toml : Text) (required : Bool) (parts : List SectionPart)
      (parsed : Toml.ofText? toml = some (parts.map SectionPart.entry)) : LayerSets (.file (some toml) required) parts
  | absent : LayerSets (.file none false) []

def lastGiven (assignments : List Assignment) (key : SettingKey) : Option SettingValue :=
  (assignments.filter fun assignment => decide (assignment.key = key)).getLast?.map Assignment.value

def assignValue (values : SettingKey → SettingValue) (assignment : Assignment) : SettingKey → SettingValue :=
  if assignment.respelled then values else Function.update values assignment.key assignment.value

theorem assigned_last_given (values : SettingKey → SettingValue) (assignments : List Assignment) (key : SettingKey)
    (plain : ∀ assignment ∈ assignments, assignment.respelled = false) :
    assignments.foldl assignValue values key = (lastGiven assignments key).getD (values key) := by
  induction assignments using List.reverseRecOn with
  | nil => rfl
  | append_singleton assignments assignment ih =>
      have before := ih fun other earlier => plain other (List.mem_append_left _ earlier)
      have last := plain assignment (List.mem_append_right _ List.mem_cons_self)
      rw [List.foldl_append, List.foldl_cons, List.foldl_nil, assignValue, last, if_neg Bool.false_ne_true, lastGiven,
        List.filter_append, List.filter_singleton]
      by_cases same : assignment.key = key
      · rw [same, Function.update_self]
        simp
      · rw [Function.update_of_ne (Ne.symm same), before, lastGiven]
        simp [same]

structure Stored.After (assignments : List Assignment) (stored : Stored) : Prop where
  typed : ∀ key, (assignments.foldl assignValue Settings.standard.value key).type = key.type
  read : ∀ key, (assignments.foldl assignValue Settings.standard.value key).ReadFrom (stored.setting key)
  respelled : stored.respelled.isSome = assignments.any Assignment.respelled

theorem assign_setting (origin : SettingOrigin) (stored : Stored) (assignment : Assignment)
    (plain : assignment.respelled = false) :
    (stored.assign origin assignment).setting =
      Function.update stored.setting assignment.key (Setting.ofToml origin assignment.value.toToml) := by
  rw [Stored.assign, plain]
  rfl

theorem after_assign (origin : SettingOrigin) (done : List Assignment) (stored : Stored) (assignment : Assignment)
    (after : stored.After done) : (stored.assign origin assignment).After (done ++ [assignment]) := by
  have values : (done ++ [assignment]).foldl assignValue Settings.standard.value =
      assignValue (done.foldl assignValue Settings.standard.value) assignment := by
    rw [List.foldl_append, List.foldl_cons, List.foldl_nil]
  have flags : (done ++ [assignment]).any Assignment.respelled =
      (done.any Assignment.respelled || assignment.respelled) := by
    simp
  cases respelled : assignment.respelled with
  | true =>
      constructor
      · intro key
        rw [values, assignValue, respelled, if_pos rfl]
        exact after.typed key
      · intro key
        rw [values, assignValue, Stored.assign, respelled, if_pos rfl, if_pos rfl]
        exact after.read key
      · rw [flags, respelled, Bool.or_true, Stored.assign, respelled]
        rfl
  | false =>
      constructor
      · intro key
        rw [values, assignValue, respelled, if_neg Bool.false_ne_true]
        by_cases same : key = assignment.key
        · rw [same, Function.update_self]
          exact assignment.typed
        · rw [Function.update_of_ne same]
          exact after.typed key
      · intro key
        rw [values, assignValue, assign_setting origin stored assignment respelled, respelled,
          if_neg Bool.false_ne_true]
        by_cases same : key = assignment.key
        · rw [same, Function.update_self, Function.update_self]
          exact value_read_back origin assignment.value
        · rw [Function.update_of_ne same, Function.update_of_ne same]
          exact after.read key
      · rw [flags, respelled, Bool.or_false, ← after.respelled, Stored.assign, respelled]
        rfl

theorem after_assigns (origin : SettingOrigin) (assignments done : List Assignment) (stored : Stored)
    (after : stored.After done) : (assignments.foldl (Stored.assign origin) stored).After (done ++ assignments) := by
  induction assignments generalizing done stored with
  | nil => rwa [List.append_nil]
  | cons assignment assignments ih =>
      have next := ih (done ++ [assignment]) _ (after_assign origin done stored assignment after)
      rwa [List.append_assoc] at next

theorem lay_layer (layer : SettingsLayer) (parts : List SectionPart) (sets : LayerSets layer parts) (stored : Stored) :
    ∃ origin, SettingsLoader.layLayer stored.root layer =
      .ok ((parts.flatMap SectionPart.assignments).foldl (Stored.assign origin) stored).root := by
  cases sets with
  | text toml parts parsed =>
      exact ⟨.memory, by rw [SettingsLoader.layLayer, SettingsLoader.layText, parsed, ← lay_parts]⟩
  | file toml required parts parsed =>
      exact ⟨.file, by rw [SettingsLoader.layLayer, SettingsLoader.layText, parsed, ← lay_parts]⟩
  | absent => exact ⟨.memory, rfl⟩

theorem lay_layers (layers : List SettingsLayer) (assigned : List (List SectionPart))
    (sets : List.Forall₂ LayerSets layers assigned) (done : List Assignment) (stored : Stored)
    (after : stored.After done) :
    ∃ laid : Stored, SettingsLoader.layLayers stored.root layers = .ok laid.root ∧
      laid.After (done ++ assigned.flatten.flatMap SectionPart.assignments) := by
  induction sets generalizing done stored with
  | nil => exact ⟨stored, rfl, by rwa [List.flatten_nil, List.flatMap_nil, List.append_nil]⟩
  | @cons layer parts layers assigned first later ih =>
      obtain ⟨origin, laid⟩ := lay_layer layer parts first stored
      obtain ⟨last, laid_later, after_later⟩ := ih _ _ (after_assigns origin _ done stored after)
      refine ⟨last, ?_, ?_⟩
      · rw [SettingsLoader.layLayers, laid]
        exact laid_later
      · rwa [List.append_assoc, ← List.flatMap_append, ← List.flatten_cons] at after_later

theorem standard_after : Settings.standard.stored.After [] := by
  constructor
  · exact Settings.standard.value_typed
  · exact fun key => value_read_back .memory (Settings.standard.value key)
  · rfl

theorem layers_built (layers : List SettingsLayer) (assigned : List (List SectionPart))
    (sets : List.Forall₂ LayerSets layers assigned) :
    let assignments := assigned.flatten.flatMap SectionPart.assignments
    ∃ settings : Settings, settings.value = assignments.foldl assignValue Settings.standard.value ∧
      SettingsLoader.build { layers } =
        if assignments.any Assignment.respelled then .error respelledError else .ok settings := by
  intro assignments
  obtain ⟨laid, merged, after⟩ := lay_layers layers assigned sets [] _ standard_after
  rw [List.nil_append] at after
  obtain ⟨settings, values⟩ := settings_of_values _ after.typed
  refine ⟨settings, values, ?_⟩
  rw [build_laid layers laid.root merged, root_read laid settings (values ▸ after.read), after.respelled]

theorem layered_settings_last_given (layers : List SettingsLayer) (assigned : List (List SectionPart))
    (sets : List.Forall₂ LayerSets layers assigned) :
    let assignments := assigned.flatten.flatMap SectionPart.assignments
    let built := SettingsLoader.build { layers }
    ((∀ assignment ∈ assignments, assignment.respelled = false) → ∃ settings, built = .ok settings ∧
      ∀ key, settings.value key = (lastGiven assignments key).getD (Settings.standard.value key)) ∧
    ((∃ assignment ∈ assignments, assignment.respelled = true) → built = .error respelledError) := by
  intro assignments built
  obtain ⟨settings, values, result⟩ := layers_built layers assigned sets
  constructor
  · intro plain
    have unused : assignments.any Assignment.respelled = false := by
      simpa using plain
    refine ⟨settings, result.trans (by rw [unused]; rfl), ?_⟩
    intro key
    rw [values, assigned_last_given _ _ key plain]
  · rintro ⟨assignment, member, respelled⟩
    have used : assignments.any Assignment.respelled = true := List.any_eq_true.mpr ⟨assignment, member, respelled⟩
    exact result.trans (if_pos used)

theorem layered_settings_last_given_over_file :
    let layers : List SettingsLayer :=
      [.text "folding.foldable_length = 40\n[vocabulary]\nkeywords = ['tag']".toList,
        .file (some "[folding]\nfoldable_length = 3\nfold_on_load = true".toList) true, .file none false]
    ∃ assigned settings, List.Forall₂ LayerSets layers assigned ∧ SettingsLoader.build { layers } = .ok settings ∧
      settings.value .foldableLength = .number 3 ∧ settings.value .foldOnLoad = .flag true ∧
      settings.value (.words .keyword) = .words ["tag".toList] ∧ settings.value .tabSize = .number 4 := by
  intro layers
  have first : Toml.ofText? "folding.foldable_length = 40\n[vocabulary]\nkeywords = ['tag']".toList =
      some [("folding".toList, .table .dotted [("foldable_length".toList, .integer 40)]),
        ("vocabulary".toList, .table .headed [("keywords".toList, .array false [.string "tag".toList])])] := by
    decide +kernel
  have second : Toml.ofText? "[folding]\nfoldable_length = 3\nfold_on_load = true".toList =
      some [("folding".toList, .table .headed
        [("foldable_length".toList, .integer 3), ("fold_on_load".toList, .boolean true)])] := by
    decide +kernel
  have sets : List.Forall₂ LayerSets layers
      [[⟨.folding, .dotted, [⟨.foldableLength, .number 40, false, rfl, by decide⟩], by decide⟩,
        ⟨.vocabulary, .headed, [⟨.words .keyword, .words ["tag".toList], false, rfl, by decide⟩], by decide⟩],
       [⟨.folding, .headed, [⟨.foldableLength, .number 3, false, rfl, by decide⟩,
          ⟨.foldOnLoad, .flag true, false, rfl, by decide⟩], by decide⟩], []] :=
    .cons (.text _ _ first) (.cons (.file _ true _ second) (.cons .absent .nil))
  obtain ⟨settings, built, values⟩ := (layered_settings_last_given _ _ sets).1 (by decide)
  exact ⟨_, settings, sets, built, values .foldableLength, values .foldOnLoad, values (.words .keyword),
    values .tabSize⟩

theorem second_spelling_refused :
    let layer : SettingsLayer := .text "[vocabulary]\npunctuationControl = []".toList
    ∃ parts, LayerSets layer parts ∧
      lastGiven (parts.flatMap SectionPart.assignments) (.words .punctuationControl) = some (.words []) ∧
      SettingsLoader.build { layers := [layer] } = .error respelledError := by
  intro layer
  have parsed : Toml.ofText? "[vocabulary]\npunctuationControl = []".toList =
      some [("vocabulary".toList, .table .headed [("punctuationControl".toList, .array false [])])] := by
    decide +kernel
  have sets : LayerSets layer
      [⟨.vocabulary, .headed, [⟨.words .punctuationControl, .words [], true, rfl, fun _ => rfl⟩], by decide⟩] :=
    .text _ _ parsed
  obtain ⟨_, _, built⟩ := layers_built [layer] _ (.cons sets .nil)
  exact ⟨_, sets, rfl, built⟩

end FilterAssist
