import FilterAssist.Settings.Path
import FilterAssist.Settings.Standard
import FilterAssist.Settings.Typed
import FilterAssist.Toml.Document

set_option autoImplicit false

/-!
Layers of settings over the standard ones. A later layer wins key by key and replaces arrays whole;
overrides win over every layer, whenever they were set.
-/
namespace FilterAssist

inductive SettingsLayer where
  | text (toml : Text)
  | file (content : Option Text) (required : Bool)
deriving DecidableEq, Repr

structure SettingsLoader where
  layers : List SettingsLayer := []
  overrides : List (SettingPath × Setting) := []

namespace SettingsLoader

def addLayer (loader : SettingsLoader) (layer : SettingsLayer) : SettingsLoader :=
  { loader with layers := loader.layers ++ [layer] }

def putOverride (path : SettingPath) (value : Setting) :
    List (SettingPath × Setting) → List (SettingPath × Setting)
  | [] => [(path, value)]
  | entry :: rest =>
    if entry.1 = path then (path, value) :: rest else entry :: putOverride path value rest

def setOverride (loader : SettingsLoader) (path : Text) (value : Setting) :
    Except SettingsError SettingsLoader :=
  match SettingPath.ofText? path with
  | none => .error .badPath
  | some path => .ok { loader with overrides := putOverride path value loader.overrides }

def layText (root : Setting) (origin : SettingOrigin) (toml : Text) :
    Except SettingsError Setting :=
  match Toml.ofText? toml with
  | none => .error .badSyntax
  | some entries => .ok (root.layRoot (Setting.ofTomlEntries origin entries))

def layLayer (root : Setting) : SettingsLayer → Except SettingsError Setting
  | .text toml => layText root .memory toml
  | .file (some toml) _ => layText root .file toml
  | .file none true => .error .missingFile
  | .file none false => .ok root

def layLayers (root : Setting) : List SettingsLayer → Except SettingsError Setting
  | [] => .ok root
  | layer :: rest => do
    let laid ← layLayer root layer
    layLayers laid rest

def merged (loader : SettingsLoader) : Except SettingsError Setting := do
  let root ← layLayers .emptyTable (.text standardToml :: loader.layers)
  .ok (loader.overrides.foldl (fun root entry => root.layPath entry.1 entry.2) root)

def build (loader : SettingsLoader) : Except SettingsError Settings := do
  let root ← loader.merged
  root.toSettings

end SettingsLoader

end FilterAssist
