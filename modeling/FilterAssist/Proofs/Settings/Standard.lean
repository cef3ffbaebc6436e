import Mathlib
import FilterAssist.Proofs.Settings.Reading

set_option autoImplicit false

/-!
The standard settings. Their text reads as one value for every documented key, so that laying it over nothing fills
every place, and reading what it fills gives them back.
-/
namespace FilterAssist

namespace Toml

mutual

def same : Toml → Toml → Bool
  | .string value, .string other => value == other
  | .integer value, .integer other => value == other
  | .float value, .float other => decide (value = other)
  | .boolean value, .boolean other => value == other
  | .array growing items, .array others_growing others => growing == others_growing && sameItems items others
  | .table form entries, .table others_form others => decide (form = others_form) && sameEntries entries others
  | _, _ => false

def sameItems : List Toml → List Toml → Bool
  | [], [] => true
  | item :: rest, other :: others => same item other && sameItems rest others
  | _, _ => false

def sameEntries : Entries → Entries → Bool
  | [], [] => true
  | (key, value) :: rest, (name, other) :: others => key == name && same value other && sameEntries rest others
  | _, _ => false

end

mutual

theorem same_iff (value other : Toml) : value.same other = true ↔ value = other := by
  cases value <;> cases other <;> simp [same, same_items_iff, same_entries_iff]

theorem same_items_iff (items others : List Toml) : sameItems items others = true ↔ items = others := by
  cases items <;> cases others <;> simp [sameItems, same_iff, same_items_iff]

theorem same_entries_iff (entries others : Entries) : sameEntries entries others = true ↔ entries = others := by
  cases entries <;> cases others <;> simp [sameEntries, same_iff, same_entries_iff, Prod.ext_iff, and_assoc]

end

instance : DecidableEq Toml :=
  fun value other => decidable_of_iff _ (same_iff value other)

end Toml

namespace Settings

def standard : Settings where
  vocabulary := .standard
  folding := {}
  editor := {}
  help := {}

theorem value_typed (settings : Settings) (key : SettingKey) : (settings.value key).type = key.type := by
  cases key <;> rfl

def assignment (settings : Settings) (key : SettingKey) : Assignment where
  key := key
  value := settings.value key
  respelled := false
  typed := settings.value_typed key
  spelled := nofun

def part (settings : Settings) (home : SettingsSection) : SectionPart where
  home := home
  form := .headed
  assignments := home.keys.map settings.assignment
  inside := by
    intro assignment member
    obtain ⟨key, listed, rfl⟩ := List.mem_map.mp member
    exact listed_home home key listed

def parts (settings : Settings) : List SectionPart :=
  SettingsSection.all.map settings.part

def stored (settings : Settings) : Stored where
  setting key := Setting.ofToml .memory (settings.value key).toToml
  respelled := none

end Settings

theorem standard_parsed : Toml.ofText? standardToml = some (Settings.standard.parts.map SectionPart.entry) := by
  -- The pieces of the text and the words it is compared with are turned into characters first, which is what takes
  -- long to evaluate.
  simp only [standardToml, standardPieces, List.flatMap_cons, List.flatMap_nil, Settings.standard, WordLists.standard,
    wordTexts, List.map_cons, List.map_nil]
  repeat rewrite [String.toList_ofList]
  decide +kernel

theorem parts_laid (settings : Settings) :
    Setting.emptyTable.layRoot (Setting.ofTomlEntries .memory (settings.parts.map SectionPart.entry)) =
      settings.stored.root := by
  rfl

theorem standard_laid :
    SettingsLoader.layLayer .emptyTable (.text standardToml) = .ok Settings.standard.stored.root := by
  rw [SettingsLoader.layLayer, SettingsLoader.layText, standard_parsed, ← parts_laid]

theorem layers_over_standard (layers : List SettingsLayer) :
    SettingsLoader.layLayers .emptyTable (.text standardToml :: layers) =
      SettingsLoader.layLayers Settings.standard.stored.root layers := by
  rw [SettingsLoader.layLayers, standard_laid]
  rfl

theorem build_laid (layers : List SettingsLayer) (root : Setting)
    (laid : SettingsLoader.layLayers Settings.standard.stored.root layers = .ok root) :
    SettingsLoader.build { layers } = root.toSettings := by
  rw [SettingsLoader.build, SettingsLoader.merged, layers_over_standard, laid]
  rfl

theorem standard_built : SettingsLoader.build {} = .ok Settings.standard := by
  rw [build_laid [] Settings.standard.stored.root rfl]
  exact root_read _ _ fun key => value_read_back .memory (Settings.standard.value key)

end FilterAssist
