import FilterAssist.Fold
import FilterAssist.Help
import FilterAssist.Lexer.Line
import FilterAssist.Settings.Setting
import FilterAssist.Vocabulary.Lists

set_option autoImplicit false

/-!
Settings with their types, read from untyped ones. Scalars are converted where that makes sense; an
error tells what was found, what was expected, and where.
-/
namespace FilterAssist

structure Settings where
  vocabulary : WordLists
  folding : FoldOptions
  editor : Layout
  help : HelpOptions
deriving DecidableEq, Repr

def Settings.lexer (settings : Settings) : Lexer :=
  ⟨Vocabulary.ofLists settings.vocabulary, settings.editor⟩

inductive SettingsError where
  | badPath
  | badSyntax
  | missingFile
  | mismatch (origin : SettingOrigin) (found : Text) (expected : String) (path : Text)
  | malformed (message : Text)
deriving DecidableEq, Repr

namespace SettingsError

def message : SettingsError → Text
  | .badPath => "bad path".toList
  | .badSyntax => "bad syntax".toList
  | .missingFile => "configuration file not found".toList
  | .mismatch _ found expected path =>
    "invalid type: ".toList ++ found ++ ", expected ".toList ++ expected.toList ++
      " for key `".toList ++ path ++ "`".toList
  | .malformed message => message

def underKey (key : Text) : SettingsError → SettingsError
  | .mismatch origin found expected path =>
    let dot := if path.head?.all (· == '[') then [] else ['.']
    .mismatch origin found expected (key ++ dot ++ path)
  | error => error

def underIndex (index : Nat) : SettingsError → SettingsError
  | .mismatch origin found expected path =>
    .mismatch origin found expected (['['] ++ Text.ofNat index ++ [']'] ++ path)
  | error => error

end SettingsError

namespace Scalar

def pointedText (value : Binary64) : Text :=
  let text := value.toText
  if value.isFinite && !text.contains '.' then text ++ ['.', '0'] else text

def describe : Scalar → Text
  | .null => "unit value".toList
  | .boolean value => "boolean `".toList ++ (toString value).toList ++ "`".toList
  | .integer value => "64-bit integer `".toList ++ Text.ofInt value ++ "`".toList
  | .float value => "floating point `".toList ++ value.toText ++ "`".toList
  | .text value => "string ".toList ++ quoted value

def describeShape : Scalar → Text
  | .integer value => "integer `".toList ++ Text.ofInt value ++ "`".toList
  | .float value => "floating point `".toList ++ pointedText value ++ "`".toList
  | other => other.describe

end Scalar

def trueWords : List Text := ["true".toList, "on".toList, "yes".toList]
def falseWords : List Text := ["false".toList, "off".toList, "no".toList]

def greatestNumber : Nat := Nat.pow 2 64 - 1

def readUnsigned? (text : Text) : Option Nat :=
  let digits := if text.head? = some '+' then text.drop 1 else text
  if digits = [] ∨ ¬ digits.all isDigit ∨ greatestNumber < readNat digits then none
  else some (readNat digits)

namespace Setting

def mismatch (setting : Setting) (expected : String) : SettingsError :=
  match setting with
  | .scalar origin value => .mismatch origin value.describe expected []
  | .array origin _ => .mismatch origin "sequence".toList expected []
  | .table origin _ => .mismatch origin "map".toList expected []

def toNat (setting : Setting) : Except SettingsError Nat :=
  match setting with
  | .scalar _ (.boolean value) => .ok (if value then 1 else 0)
  | .scalar origin (.integer value) =>
    if value < 0 then
      .error (.mismatch origin (Scalar.integer value).describe
        "an unsigned 64 bit or less integer" [])
    else .ok value.toNat
  | .scalar _ (.float value) => .ok (value.toNatUpTo greatestNumber)
  | .scalar _ (.text value) =>
    let word := lowerCase value
    if trueWords.contains word then .ok 1
    else if falseWords.contains word then .ok 0
    else
      match readUnsigned? value with
      | some number => .ok number
      | none => .error (setting.mismatch "an integer")
  | _ => .error (setting.mismatch "an integer")

def toBool (setting : Setting) : Except SettingsError Bool :=
  match setting with
  | .scalar _ (.boolean value) => .ok value
  | .scalar _ (.integer value) => .ok (decide (value ≠ 0))
  | .scalar _ (.float value) => .ok (!value.same (.ofInt 0))
  | .scalar origin (.text value) =>
    let word := lowerCase value
    if word = ['1'] ∨ trueWords.contains word then .ok true
    else if word = ['0'] ∨ falseWords.contains word then .ok false
    else .error (.mismatch origin (Scalar.text word).describe "a boolean" [])
  | _ => .error (setting.mismatch "a boolean")

def toText (setting : Setting) : Except SettingsError Text :=
  match setting with
  | .scalar _ (.text value) => .ok value
  | .scalar _ (.boolean value) => .ok (toString value).toList
  | .scalar _ (.integer value) => .ok (Text.ofInt value)
  | .scalar _ (.float value) => .ok value.toText
  | _ => .error (setting.mismatch "a string")

def toTextsFrom (index : Nat) : List Setting → Except SettingsError (List Text)
  | [] => .ok []
  | item :: rest => do
    let text ← item.toText.mapError (SettingsError.underIndex index)
    let texts ← toTextsFrom (index + 1) rest
    .ok (text :: texts)

def shapeError (found : Text) (expected : String) : SettingsError :=
  .malformed ("invalid type: ".toList ++ found ++ ", expected ".toList ++ expected.toList)

def toTexts (setting : Setting) : Except SettingsError (List Text) :=
  match setting with
  | .array _ items => toTextsFrom 0 items
  | .table _ _ => .error (shapeError "map".toList "a sequence")
  | .scalar _ value => .error (shapeError value.describeShape "a sequence")

structure Located where
  value : Setting
  place : SettingsError → SettingsError

inductive Section where
  | named (entries : List (Text × Setting))
  | ordered (items : List Setting)

def toSection (name : String) (setting : Setting) : Except SettingsError Section :=
  match setting with
  | .table _ entries => .ok (.named entries)
  | .array _ items => .ok (.ordered items)
  | .scalar _ value => .error (shapeError value.describeShape ("struct " ++ name))

namespace Section

def find (fields : Section) (names : List Text) (place : Nat) :
    Except SettingsError (Option Located) :=
  match fields with
  | .ordered items => .ok (items[place]?.map fun value => ⟨value, .underIndex place⟩)
  | .named entries =>
    match entries.filter fun entry => names.contains entry.1 with
    | [] => .ok none
    | [(key, value)] => .ok (some ⟨value, .underKey key⟩)
    | _ => .error (.malformed ("duplicate field `".toList ++ names.headD [] ++ "`".toList))

def field {α : Type} (fields : Section) (names : List String) (place : Nat)
    (convert : Setting → Except SettingsError α) (default : α) : Except SettingsError α := do
  match ← fields.find (names.map String.toList) place with
  | none => .ok default
  | some located => (convert located.value).mapError located.place

end Section

def toWordLists (setting : Setting) : Except SettingsError WordLists := do
  let fields ← setting.toSection "VocabularySpec"
  let targets ← fields.field ["targets"] 0 toTexts []
  let operators ← fields.field ["operators"] 1 toTexts []
  let logical ← fields.field ["logical"] 2 toTexts []
  let unary ← fields.field ["unary"] 3 toTexts []
  let keywords ← fields.field ["keywords"] 4 toTexts []
  let punctuationControl ←
    fields.field ["punctuation_control", "punctuationControl", "punctuationcontrol"] 5 toTexts []
  .ok { targets, operators, logical, unary, keywords, punctuationControl }

def toFoldOptions (setting : Setting) : Except SettingsError FoldOptions := do
  let fields ← setting.toSection "FoldOptions"
  let foldableLength ← fields.field ["foldable_length"] 0 toNat 20
  let foldedLength ← fields.field ["folded_length"] 1 toNat 5
  let foldOnLoad ← fields.field ["fold_on_load"] 2 toBool false
  .ok { foldableLength, foldedLength, foldOnLoad }

def toLayout (setting : Setting) : Except SettingsError Layout := do
  let fields ← setting.toSection "LexerOptions"
  let indentUnit ← fields.field ["indent_unit"] 0 toNat 2
  let tabSize ← fields.field ["tab_size"] 1 toNat 4
  let alignBrackets ← fields.field ["align_brackets"] 2 toBool false
  .ok { indentUnit, tabSize, alignBrackets }

def toHelpOptions (setting : Setting) : Except SettingsError HelpOptions := do
  let fields ← setting.toSection "HelpOptions"
  let urlTemplate ← fields.field ["url_template"] 0 toText ({} : HelpOptions).urlTemplate
  .ok { urlTemplate }

def requiredSection {α : Type} (root : Setting) (name : String)
    (convert : Setting → Except SettingsError α) : Except SettingsError α :=
  match root.get? name.toList with
  | some value => (convert value).mapError (SettingsError.underKey name.toList)
  | none => .error (.malformed ("missing field `".toList ++ name.toList ++ "`".toList))

def toSettings (root : Setting) : Except SettingsError Settings := do
  let vocabulary ← root.requiredSection "vocabulary" toWordLists
  let folding ← root.requiredSection "folding" toFoldOptions
  let editor ← root.requiredSection "editor" toLayout
  let help ← root.requiredSection "help" toHelpOptions
  .ok { vocabulary, folding, editor, help }

end Setting

end FilterAssist
