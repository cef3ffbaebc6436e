import Mathlib
import FilterAssist.Proofs.Settings.Merged

set_option autoImplicit false

/-!
Settings read from a root of documented keys. Every key reads as the value it holds, unless the second spelling of
the punctuation controls is there too: then the list has two values and nothing is read.

Reading a section is taken to give a field the one value that any of its names has, and to refuse a field that has
two: `find_once` and `find_duplicate`.
-/
namespace FilterAssist

def WordLists.listOf (lists : WordLists) : WordCategory → List Text
  | .target => lists.targets
  | .operator => lists.operators
  | .logical => lists.logical
  | .unary => lists.unary
  | .keyword => lists.keywords
  | .punctuationControl => lists.punctuationControl

def Settings.value (settings : Settings) : SettingKey → SettingValue
  | .words category => .words (settings.vocabulary.listOf category)
  | .foldableLength => .number settings.folding.foldableLength
  | .foldedLength => .number settings.folding.foldedLength
  | .foldOnLoad => .flag settings.folding.foldOnLoad
  | .indentUnit => .number settings.editor.indentUnit
  | .tabSize => .number settings.editor.tabSize
  | .alignBrackets => .flag settings.editor.alignBrackets
  | .urlTemplate => .text settings.help.urlTemplate

def SettingValue.ReadFrom (setting : Setting) : SettingValue → Prop
  | .words value => setting.toTexts = .ok value
  | .number value => setting.toNat = .ok value
  | .flag value => setting.toBool = .ok value
  | .text value => setting.toText = .ok value

theorem words_read_back (origin : SettingOrigin) (words : List Text) (index : Nat) :
    Setting.toTextsFrom index (Setting.ofTomlItems origin (words.map .string)) = .ok words := by
  induction words generalizing index with
  | nil => rfl
  | cons word words ih =>
      rw [List.map_cons, Setting.ofTomlItems, Setting.toTextsFrom, ih]
      rfl

theorem value_read_back (origin : SettingOrigin) (value : SettingValue) :
    value.ReadFrom (Setting.ofToml origin value.toToml) := by
  cases value with
  | words value => exact words_read_back origin value 0
  | number value =>
      have positive : ¬ ((value : Int) < 0) := by omega
      simp [SettingValue.ReadFrom, SettingValue.toToml, Setting.ofToml, Setting.toNat, positive]
  | flag value => rfl
  | text value => rfl

def SettingType.Fits (value : SettingValue) : SettingType → Prop
  | .words => ∃ words, value = .words words
  | .number => ∃ number, value = .number number
  | .flag => ∃ flag, value = .flag flag
  | .text => ∃ text, value = .text text

theorem type_fits (value : SettingValue) : value.type.Fits value := by
  cases value <;> exact ⟨_, rfl⟩

theorem settings_of_values (values : SettingKey → SettingValue) (typed : ∀ key, (values key).type = key.type) :
    ∃ settings : Settings, settings.value = values := by
  have fits : ∀ key : SettingKey, key.type.Fits (values key) := by
    intro key
    rw [← typed key]
    exact type_fits (values key)
  have words : ∀ category, ∃ words, values (.words category) = .words words :=
    fun category => fits (.words category)
  choose lists lists_eq using words
  obtain ⟨foldable, foldable_eq⟩ := fits .foldableLength
  obtain ⟨folded, folded_eq⟩ := fits .foldedLength
  obtain ⟨on_load, on_load_eq⟩ := fits .foldOnLoad
  obtain ⟨indent, indent_eq⟩ := fits .indentUnit
  obtain ⟨tab, tab_eq⟩ := fits .tabSize
  obtain ⟨align, align_eq⟩ := fits .alignBrackets
  obtain ⟨url, url_eq⟩ := fits .urlTemplate
  refine ⟨⟨⟨lists .target, lists .operator, lists .logical, lists .unary, lists .keyword, lists .punctuationControl⟩,
    ⟨foldable, folded, on_load⟩, ⟨indent, tab, align⟩, ⟨url⟩⟩, ?_⟩
  funext key
  cases key with
  | words category => rw [lists_eq]; cases category <;> rfl
  | foldableLength => exact foldable_eq.symm
  | foldedLength => exact folded_eq.symm
  | foldOnLoad => exact on_load_eq.symm
  | indentUnit => exact indent_eq.symm
  | tabSize => exact tab_eq.symm
  | alignBrackets => exact align_eq.symm
  | urlTemplate => exact url_eq.symm

theorem find_once (entries : List (Text × Setting)) (names : List Text) (place : Nat) (key : Text) (value : Setting)
    (once : entries.filter (fun entry => names.contains entry.1) = [(key, value)]) :
    (Setting.Section.named entries).find names place = .ok (some ⟨value, .underKey key⟩) := by
  rw [Setting.Section.find, once]

theorem find_duplicate (entries rest : List (Text × Setting)) (first second : Text × Setting) (names : List Text)
    (place : Nat) (twice : entries.filter (fun entry => names.contains entry.1) = first :: second :: rest) :
    (Setting.Section.named entries).find names place =
      .error (.malformed ("duplicate field `".toList ++ names.headD [] ++ "`".toList)) := by
  rw [Setting.Section.find, twice]

theorem field_read {α : Type} (stored : Stored) (home : SettingsSection) (names : List String) (place : Nat)
    (convert : Setting → Except SettingsError α) (default value : α) (key : SettingKey)
    (only : home.keys.filter (fun other => (names.map String.toList).contains other.name) = [key])
    (alone : (stored.extra home).filter (fun entry => (names.map String.toList).contains entry.1) = [])
    (read : convert (stored.setting key) = .ok value) :
    Setting.Section.field (.named (stored.entries home)) names place convert default = .ok value := by
  have found : (stored.entries home).filter (fun entry => (names.map String.toList).contains entry.1) =
      [(key.name, stored.setting key)] := by
    rw [Stored.entries, List.filter_append, alone, List.append_nil, List.filter_map]
    exact congrArg (List.map _) only
  rw [Setting.Section.field, find_once _ _ place _ _ found]
  change (convert (stored.setting key)).mapError _ = _
  rw [read]
  rfl

theorem extra_unnamed (stored : Stored) (names : List Text) (unnamed : names.contains respelledKey = false) :
    (stored.extra .vocabulary).filter (fun entry => names.contains entry.1) = [] := by
  rw [Stored.extra]
  cases stored.respelled with
  | none => rfl
  | some setting =>
      rw [Option.toList_some, List.map_singleton, List.filter_singleton, unnamed]
      rfl

def respelledError : SettingsError :=
  .malformed "duplicate field `punctuation_control`".toList

def punctuationNames : List String :=
  ["punctuation_control", "punctuationControl", "punctuationcontrol"]

theorem punctuation_read (stored : Stored) (default words : List Text)
    (read : (stored.setting (.words .punctuationControl)).toTexts = .ok words) :
    Setting.Section.field (.named (stored.entries .vocabulary)) punctuationNames 5 Setting.toTexts default =
      if stored.respelled.isSome then .error respelledError else .ok words := by
  -- The standard settings give the list under its own name, so the second spelling makes two.
  have only : SettingsSection.vocabulary.keys.filter (fun other =>
      (punctuationNames.map String.toList).contains other.name) = [.words .punctuationControl] := by
    decide
  cases respelled : stored.respelled with
  | none =>
      have alone : stored.extra .vocabulary = [] := by
        rw [Stored.extra, respelled]
        rfl
      rw [field_read stored .vocabulary _ 5 _ default words _ only (by rw [alone]; rfl) read]
      rfl
  | some setting =>
      have extra : stored.extra .vocabulary = [(respelledKey, setting)] := by
        rw [Stored.extra, respelled]
        rfl
      have accepted : (punctuationNames.map String.toList).contains respelledKey = true := by
        decide
      have found : (stored.entries .vocabulary).filter (fun entry =>
          (punctuationNames.map String.toList).contains entry.1) =
          [((SettingKey.words .punctuationControl).name, stored.setting (.words .punctuationControl)),
            (respelledKey, setting)] := by
        rw [Stored.entries, List.filter_append, extra, List.filter_singleton, accepted, List.filter_map]
        exact congrArg (fun keys => keys.map (fun key => (key.name, stored.setting key)) ++ [(respelledKey, setting)])
          only
      rw [Setting.Section.field, find_duplicate _ _ _ _ _ 5 found]
      rfl

theorem vocabulary_read (stored : Stored) (settings : Settings)
    (read : ∀ key, (settings.value key).ReadFrom (stored.setting key)) :
    (stored.table .vocabulary).toWordLists =
      if stored.respelled.isSome then .error respelledError else .ok settings.vocabulary := by
  have words : ∀ category names place,
      SettingsSection.vocabulary.keys.filter (fun other => (names.map String.toList).contains other.name) =
        [.words category] →
      (names.map String.toList).contains respelledKey = false →
      Setting.Section.field (.named (stored.entries .vocabulary)) names place Setting.toTexts [] =
        .ok (settings.vocabulary.listOf category) := by
    intro category names place only unnamed
    exact field_read stored .vocabulary names place _ [] _ _ only (extra_unnamed stored _ unnamed)
      (read (.words category))
  have targets := words .target ["targets"] 0 (by decide) (by decide)
  have operators := words .operator ["operators"] 1 (by decide) (by decide)
  have logical := words .logical ["logical"] 2 (by decide) (by decide)
  have unary := words .unary ["unary"] 3 (by decide) (by decide)
  have keywords := words .keyword ["keywords"] 4 (by decide) (by decide)
  have punctuation := punctuation_read stored [] _ (read (.words .punctuationControl))
  rw [punctuationNames] at punctuation
  simp only [Setting.toWordLists, Stored.table, Setting.toSection, bind, Except.bind, targets, operators, logical,
    unary, keywords, punctuation]
  cases stored.respelled <;> rfl

theorem folding_read (stored : Stored) (settings : Settings)
    (read : ∀ key, (settings.value key).ReadFrom (stored.setting key)) :
    (stored.table .folding).toFoldOptions = .ok settings.folding := by
  have foldable := field_read stored .folding ["foldable_length"] 0 Setting.toNat 20 _ .foldableLength
    (by decide) rfl (read .foldableLength)
  have folded := field_read stored .folding ["folded_length"] 1 Setting.toNat 5 _ .foldedLength
    (by decide) rfl (read .foldedLength)
  have on_load := field_read stored .folding ["fold_on_load"] 2 Setting.toBool false _ .foldOnLoad
    (by decide) rfl (read .foldOnLoad)
  simp only [Setting.toFoldOptions, Stored.table, Setting.toSection, bind, Except.bind, foldable, folded, on_load]

theorem editor_read (stored : Stored) (settings : Settings)
    (read : ∀ key, (settings.value key).ReadFrom (stored.setting key)) :
    (stored.table .editor).toLayout = .ok settings.editor := by
  have indent := field_read stored .editor ["indent_unit"] 0 Setting.toNat 2 _ .indentUnit
    (by decide) rfl (read .indentUnit)
  have tab := field_read stored .editor ["tab_size"] 1 Setting.toNat 4 _ .tabSize
    (by decide) rfl (read .tabSize)
  have align := field_read stored .editor ["align_brackets"] 2 Setting.toBool false _ .alignBrackets
    (by decide) rfl (read .alignBrackets)
  simp only [Setting.toLayout, Stored.table, Setting.toSection, bind, Except.bind, indent, tab, align]

theorem help_read (stored : Stored) (settings : Settings)
    (read : ∀ key, (settings.value key).ReadFrom (stored.setting key)) :
    (stored.table .help).toHelpOptions = .ok settings.help := by
  have url := field_read stored .help ["url_template"] 0 Setting.toText ({} : HelpOptions).urlTemplate _ .urlTemplate
    (by decide) rfl (read .urlTemplate)
  simp only [Setting.toHelpOptions, Stored.table, Setting.toSection, bind, Except.bind, url]

theorem root_read (stored : Stored) (settings : Settings)
    (read : ∀ key, (settings.value key).ReadFrom (stored.setting key)) :
    stored.root.toSettings = if stored.respelled.isSome then .error respelledError else .ok settings := by
  have required : ∀ {α : Type} (home : SettingsSection) (name : String) (convert : Setting → Except SettingsError α),
      name.toList = home.name →
      stored.root.requiredSection name convert =
        (convert (stored.table home)).mapError (SettingsError.underKey home.name) := by
    intro α home name convert named
    rw [Setting.requiredSection, named, root_table]
  rw [Setting.toSettings, required .vocabulary _ _ rfl, required .folding _ _ rfl, required .editor _ _ rfl,
    required .help _ _ rfl, vocabulary_read stored settings read, folding_read stored settings read,
    editor_read stored settings read, help_read stored settings read]
  cases stored.respelled <;> rfl

end FilterAssist
