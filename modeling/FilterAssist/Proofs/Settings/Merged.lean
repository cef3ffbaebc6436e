import Mathlib
import FilterAssist.Proofs.Text.LowerCase
import FilterAssist.Settings.Loader

set_option autoImplicit false

/-!
Sections of documented keys laid over a root. The root stays a table of the four sections, in which each key has
one place and takes the value that is laid over it. The list of punctuation controls has a second spelling, which is
merged under a name of its own, beside the place of the list.

Merging is taken to count names in lower case, to let a later value win, and to merge tables key by key. What follows
rests on this through `lay_lower_case`, `lay_later_wins` and `lay_key_by_key`.
-/
namespace FilterAssist

inductive SettingsSection where
  | vocabulary
  | folding
  | editor
  | help
deriving DecidableEq, Repr

inductive SettingKey where
  | words (category : WordCategory)
  | foldableLength
  | foldedLength
  | foldOnLoad
  | indentUnit
  | tabSize
  | alignBrackets
  | urlTemplate
deriving DecidableEq, Repr

inductive SettingType where
  | words
  | number
  | flag
  | text
deriving DecidableEq, Repr

inductive SettingValue where
  | words (value : List Text)
  | number (value : Nat)
  | flag (value : Bool)
  | text (value : Text)
deriving DecidableEq, Repr

namespace SettingsSection

def all : List SettingsSection :=
  [.vocabulary, .folding, .editor, .help]

def name : SettingsSection → Text
  | .vocabulary => "vocabulary".toList
  | .folding => "folding".toList
  | .editor => "editor".toList
  | .help => "help".toList

def keys : SettingsSection → List SettingKey
  | .vocabulary => [.operator, .logical, .unary, .keyword, .punctuationControl, .target].map .words
  | .folding => [.foldableLength, .foldedLength, .foldOnLoad]
  | .editor => [.indentUnit, .tabSize, .alignBrackets]
  | .help => [.urlTemplate]

end SettingsSection

namespace SettingKey

def home : SettingKey → SettingsSection
  | .words _ => .vocabulary
  | .foldableLength | .foldedLength | .foldOnLoad => .folding
  | .indentUnit | .tabSize | .alignBrackets => .editor
  | .urlTemplate => .help

def type : SettingKey → SettingType
  | .words _ => .words
  | .foldableLength | .foldedLength | .indentUnit | .tabSize => .number
  | .foldOnLoad | .alignBrackets => .flag
  | .urlTemplate => .text

def name : SettingKey → Text
  | .words .target => "targets".toList
  | .words .operator => "operators".toList
  | .words .logical => "logical".toList
  | .words .unary => "unary".toList
  | .words .keyword => "keywords".toList
  | .words .punctuationControl => "punctuation_control".toList
  | .foldableLength => "foldable_length".toList
  | .foldedLength => "folded_length".toList
  | .foldOnLoad => "fold_on_load".toList
  | .indentUnit => "indent_unit".toList
  | .tabSize => "tab_size".toList
  | .alignBrackets => "align_brackets".toList
  | .urlTemplate => "url_template".toList

end SettingKey

namespace SettingValue

def type : SettingValue → SettingType
  | .words _ => .words
  | .number _ => .number
  | .flag _ => .flag
  | .text _ => .text

def toToml : SettingValue → Toml
  | .words value => .array false (value.map .string)
  | .number value => .integer value
  | .flag value => .boolean value
  | .text value => .string value

end SettingValue

def respelledName : Text :=
  "punctuationControl".toList

def respelledKey : Text :=
  "punctuationcontrol".toList

-- A documented key with a value of its type. Only the punctuation controls have a second spelling.
structure Assignment where
  key : SettingKey
  value : SettingValue
  respelled : Bool
  typed : value.type = key.type
  spelled : respelled = true → key = .words .punctuationControl

def Assignment.name (assignment : Assignment) : Text :=
  if assignment.respelled then respelledName else assignment.key.name

structure SectionPart where
  home : SettingsSection
  form : Toml.TableForm
  assignments : List Assignment
  inside : ∀ assignment ∈ assignments, assignment.key.home = home

def SectionPart.entry (part : SectionPart) : Text × Toml :=
  (part.home.name, .table part.form (part.assignments.map fun assignment => (assignment.name, assignment.value.toToml)))

-- What the merged root holds: a setting for each key, and one under the second spelling if a layer used it.
structure Stored where
  setting : SettingKey → Setting
  respelled : Option Setting

namespace Stored

def extra (stored : Stored) : SettingsSection → List (Text × Setting)
  | .vocabulary => stored.respelled.toList.map (Prod.mk respelledKey)
  | _ => []

def entries (stored : Stored) (home : SettingsSection) : List (Text × Setting) :=
  (home.keys.map fun key => (key.name, stored.setting key)) ++ stored.extra home

def table (stored : Stored) (home : SettingsSection) : Setting :=
  .table .memory (stored.entries home)

def root (stored : Stored) : Setting :=
  .table .memory (SettingsSection.all.map fun home => (home.name, stored.table home))

def assign (origin : SettingOrigin) (stored : Stored) (assignment : Assignment) : Stored :=
  let given := Setting.ofToml origin assignment.value.toToml
  if assignment.respelled then { stored with respelled := some given }
  else { stored with setting := Function.update stored.setting assignment.key given }

end Stored

theorem key_name_lower (key : SettingKey) : lowerCase key.name = key.name := by
  cases key with
  | words category => cases category <;> decide
  | _ => decide

theorem respelled_lower : lowerCase respelledName = respelledKey := by
  decide

theorem section_name_lower (home : SettingsSection) : lowerCase home.name = home.name := by
  cases home <;> decide

theorem section_path (home : SettingsSection) : SettingPath.ofText? home.name = some ⟨home.name, []⟩ := by
  cases home <;> decide

theorem key_listed (key : SettingKey) : key ∈ key.home.keys := by
  cases key with
  | words category => cases category <;> decide
  | _ => decide

theorem section_listed (home : SettingsSection) : home ∈ SettingsSection.all := by
  cases home <;> decide

theorem section_names_apart : (SettingsSection.all.map SettingsSection.name).Nodup := by
  decide

theorem key_names_apart (home : SettingsSection) : (home.keys.map SettingKey.name).Nodup := by
  cases home <;> decide

theorem respelled_apart (home : SettingsSection) : respelledKey ∉ home.keys.map SettingKey.name := by
  cases home <;> decide

theorem map_update_absent {α : Type} [DecidableEq α] (keys : List α) (name : α → Text) (values : α → Setting) (key : α)
    (value : Setting) (absent : key ∉ keys) :
    (keys.map fun other => (name other, Function.update values key value other)) =
      keys.map fun other => (name other, values other) := by
  refine List.map_congr_left fun other member => ?_
  have different : other ≠ key := by
    rintro rfl
    exact absent member
  rw [Function.update_of_ne different]

theorem put_entry_listed {α : Type} [DecidableEq α] (keys : List α) (name : α → Text) (values : α → Setting)
    (tail : List (Text × Setting)) (key : α) (value : Setting) (apart : (keys.map name).Nodup) (member : key ∈ keys) :
    Setting.putEntry (name key) value ((keys.map fun other => (name other, values other)) ++ tail) =
      (keys.map fun other => (name other, Function.update values key value other)) ++ tail := by
  induction keys with
  | nil => cases member
  | cons first keys ih =>
      rw [List.map_cons, List.nodup_cons] at apart
      by_cases same : first = key
      · subst same
        have absent : first ∉ keys := fun later => apart.1 (List.mem_map_of_mem later)
        rw [List.map_cons, List.cons_append, Setting.putEntry, if_pos rfl, List.map_cons,
          map_update_absent keys name values first value absent, Function.update_self, List.cons_append]
      · have later := (List.mem_cons.mp member).resolve_left (Ne.symm same)
        have different : name first ≠ name key := by
          intro equal
          exact apart.1 (by rw [equal]; exact List.mem_map_of_mem later)
        rw [List.map_cons, List.cons_append, Setting.putEntry, if_neg different, ih apart.2 later, List.map_cons,
          Function.update_of_ne same, List.cons_append]

theorem lookup_listed {α : Type} (keys : List α) (name : α → Text) (values : α → Setting) (key : α)
    (apart : (keys.map name).Nodup) (member : key ∈ keys) :
    (keys.map fun other => (name other, values other)).lookup (name key) = some (values key) := by
  induction keys with
  | nil => cases member
  | cons first keys ih =>
      rw [List.map_cons, List.nodup_cons] at apart
      rcases List.mem_cons.mp member with rfl | later
      · rw [List.map_cons, List.lookup_cons_self]
      · have different : (name key == name first) = false := by
          rw [beq_eq_false_iff_ne]
          intro equal
          exact apart.1 (equal ▸ List.mem_map_of_mem later)
        rw [List.map_cons, List.lookup_cons, different]
        exact ih apart.2 later

theorem put_entry_after (key : Text) (value : Setting) (entries tail : List (Text × Setting))
    (absent : key ∉ entries.map Prod.fst) :
    Setting.putEntry key value (entries ++ tail) = entries ++ Setting.putEntry key value tail := by
  induction entries with
  | nil => rfl
  | cons entry entries ih =>
      rw [List.map_cons, List.mem_cons, not_or] at absent
      rw [List.cons_append, Setting.putEntry, if_neg (Ne.symm absent.1), ih absent.2, List.cons_append]

theorem lay_plain (target : Setting) (key : Text) (value : Setting) (plain : value.isTable = false) :
    target.lay key value = target.put key value := by
  cases value with
  | scalar origin value => rw [Setting.lay]
  | array origin items => rw [Setting.lay]
  | table origin entries => cases plain

theorem lay_lower_case (target : Setting) (key : Text) (value : Setting) :
    target.lay key value = target.lay (lowerCase key) value := by
  have put (value : Setting) : target.put key value = target.put (lowerCase key) value := by
    cases target <;> simp only [Setting.put, lower_case_final]
  cases value with
  | scalar origin value => rw [Setting.lay, Setting.lay, put]
  | array origin items => rw [Setting.lay, Setting.lay, put]
  | table origin entries => rw [Setting.lay, Setting.lay, put, lower_case_final]

theorem lay_later_wins {α : Type} [DecidableEq α] (origin : SettingOrigin) (keys : List α) (name : α → Text)
    (values : α → Setting) (tail : List (Text × Setting)) (key : α) (value : Setting) (apart : (keys.map name).Nodup)
    (lower : lowerCase (name key) = name key) (member : key ∈ keys) (plain : value.isTable = false) :
    (Setting.table origin ((keys.map fun other => (name other, values other)) ++ tail)).lay (name key) value =
      .table origin ((keys.map fun other => (name other, Function.update values key value other)) ++ tail) := by
  rw [lay_plain _ _ value plain, Setting.put, lower, put_entry_listed keys name values tail key value apart member]

theorem lay_key_by_key {α : Type} [DecidableEq α] (origin under : SettingOrigin) (keys : List α) (name : α → Text)
    (values : α → Setting) (key : α) (entries : List (Text × Setting)) (apart : (keys.map name).Nodup)
    (lower : lowerCase (name key) = name key) (member : key ∈ keys) :
    (Setting.table origin (keys.map fun other => (name other, values other))).lay (name key) (.table under entries) =
      .table origin (keys.map fun other =>
        (name other, Function.update values key ((values key).layEntries entries) other)) := by
  have there : (Setting.table origin (keys.map fun other => (name other, values other))).asTable.get? (name key) =
      some (values key) :=
    lookup_listed keys name values key apart member
  have placed := put_entry_listed keys name values [] key ((values key).layEntries entries) apart member
  rw [List.append_nil, List.append_nil] at placed
  rw [Setting.lay, lower, there, Option.getD_some, Setting.put, lower, placed]

theorem toml_value_plain (origin : SettingOrigin) (value : SettingValue) :
    (Setting.ofToml origin value.toToml).isTable = false := by
  cases value <;> simp [SettingValue.toToml, Setting.ofToml, Setting.isTable]

theorem lay_respelled (stored : Stored) (value : Setting) (plain : value.isTable = false) :
    (stored.table .vocabulary).lay respelledName value =
      { stored with respelled := some value : Stored }.table .vocabulary := by
  have absent : respelledKey ∉
      (SettingsSection.vocabulary.keys.map fun key => (key.name, stored.setting key)).map Prod.fst := by
    rw [List.map_map]
    exact respelled_apart .vocabulary
  have lower : lowerCase respelledKey = respelledKey := by
    rw [← respelled_lower, lower_case_final]
  rw [lay_lower_case, respelled_lower, lay_plain _ _ value plain, Stored.table, Stored.entries, Setting.put, lower,
    put_entry_after _ _ _ _ absent, Stored.table, Stored.entries, Stored.extra, Stored.extra]
  cases stored.respelled with
  | none => rfl
  | some old => simp [Setting.putEntry]

theorem lay_assignment (origin : SettingOrigin) (stored : Stored) (assignment : Assignment) :
    (stored.table assignment.key.home).lay assignment.name (Setting.ofToml origin assignment.value.toToml) =
      (stored.assign origin assignment).table assignment.key.home := by
  have plain := toml_value_plain origin assignment.value
  rw [Assignment.name, Stored.assign]
  cases respelled : assignment.respelled with
  | true =>
      have home : assignment.key.home = .vocabulary := by
        rw [assignment.spelled respelled]
        rfl
      rw [if_pos rfl, if_pos rfl, home, lay_respelled stored _ plain]
  | false =>
      rw [if_neg Bool.false_ne_true, if_neg Bool.false_ne_true, Stored.table, Stored.entries,
        lay_later_wins .memory _ SettingKey.name stored.setting _ _ _ (key_names_apart _) (key_name_lower _)
          (key_listed assignment.key) plain]
      rfl

theorem lay_assignments (origin : SettingOrigin) (home : SettingsSection) (assignments : List Assignment)
    (inside : ∀ assignment ∈ assignments, assignment.key.home = home) (stored : Stored) :
    (stored.table home).layEntries (Setting.ofTomlEntries origin
        (assignments.map fun assignment => (assignment.name, assignment.value.toToml))) =
      (assignments.foldl (Stored.assign origin) stored).table home := by
  induction assignments generalizing stored with
  | nil => rfl
  | cons assignment assignments ih =>
      have here := inside assignment List.mem_cons_self
      subst here
      rw [List.map_cons, Setting.ofTomlEntries, Setting.layEntries, lay_assignment, List.foldl_cons,
        ih (fun other later => inside other (List.mem_cons_of_mem _ later))]

theorem listed_home (home : SettingsSection) (key : SettingKey) (member : key ∈ home.keys) : key.home = home := by
  have homes : ∀ key ∈ home.keys, key.home = home := by
    cases home <;> decide
  exact homes key member

theorem assign_elsewhere (origin : SettingOrigin) (stored : Stored) (assignment : Assignment) (home : SettingsSection)
    (elsewhere : assignment.key.home ≠ home) :
    (stored.assign origin assignment).table home = stored.table home := by
  rw [Stored.assign]
  cases respelled : assignment.respelled with
  | true =>
      rw [assignment.spelled respelled] at elsewhere
      cases home with
      | vocabulary => exact absurd rfl elsewhere
      | _ => rfl
  | false =>
      have absent : assignment.key ∉ home.keys := fun member => elsewhere (listed_home home _ member)
      rw [if_neg Bool.false_ne_true, Stored.table, Stored.entries, map_update_absent _ _ _ _ _ absent]
      rfl

theorem assigns_elsewhere (origin : SettingOrigin) (assignments : List Assignment) (home : SettingsSection)
    (elsewhere : ∀ assignment ∈ assignments, assignment.key.home ≠ home) (stored : Stored) :
    (assignments.foldl (Stored.assign origin) stored).table home = stored.table home := by
  induction assignments generalizing stored with
  | nil => rfl
  | cons assignment assignments ih =>
      rw [List.foldl_cons, ih (fun other later => elsewhere other (List.mem_cons_of_mem _ later)),
        assign_elsewhere origin stored assignment home (elsewhere assignment List.mem_cons_self)]

theorem root_table (stored : Stored) (home : SettingsSection) :
    stored.root.get? home.name = some (stored.table home) := by
  cases home <;> rfl

theorem lay_part (origin : SettingOrigin) (stored : Stored) (part : SectionPart) :
    stored.root.lay part.home.name (Setting.ofToml origin part.entry.2) =
      (part.assignments.foldl (Stored.assign origin) stored).root := by
  have tables : ∀ home, Function.update stored.table part.home
      ((part.assignments.foldl (Stored.assign origin) stored).table part.home) home =
        (part.assignments.foldl (Stored.assign origin) stored).table home := by
    intro home
    by_cases here : home = part.home
    · rw [here, Function.update_self]
    · rw [Function.update_of_ne here, assigns_elsewhere origin part.assignments home]
      intro assignment member same
      exact here (same.symm.trans (part.inside assignment member))
  rw [SectionPart.entry, Setting.ofToml, Stored.root, lay_key_by_key .memory origin SettingsSection.all
    SettingsSection.name stored.table part.home _ section_names_apart (section_name_lower _) (section_listed _),
    lay_assignments origin part.home part.assignments part.inside, Stored.root]
  simp only [tables]

theorem lay_parts (origin : SettingOrigin) (parts : List SectionPart) (stored : Stored) :
    stored.root.layRoot (Setting.ofTomlEntries origin (parts.map SectionPart.entry)) =
      ((parts.flatMap SectionPart.assignments).foldl (Stored.assign origin) stored).root := by
  induction parts generalizing stored with
  | nil => rfl
  | cons part parts ih =>
      have laid : stored.root.layPath ⟨part.home.name, []⟩ (Setting.ofToml origin part.entry.2) =
          (part.assignments.foldl (Stored.assign origin) stored).root :=
        lay_part origin stored part
      rw [List.map_cons, SectionPart.entry, Setting.ofTomlEntries, Setting.layRoot, section_path]
      change (stored.root.layPath ⟨part.home.name, []⟩ (Setting.ofToml origin part.entry.2)).layRoot _ = _
      rw [laid, ih, List.flatMap_cons, List.foldl_append]

end FilterAssist
