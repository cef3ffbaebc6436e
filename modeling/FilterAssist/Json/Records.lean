import FilterAssist.Fold
import FilterAssist.Help
import FilterAssist.Json.Basic
import FilterAssist.Lexer.Layout
import FilterAssist.Lexer.State
import FilterAssist.Vocabulary

set_option autoImplicit false

/-!
The records of the library as JSON. Options may leave fields out and have more than are known; a
state has all its fields, only the last kind may be missing.
-/
namespace FilterAssist

namespace TokenKind

def toJson (kind : Option TokenKind) : Json :=
  match kind with
  | none => .null
  | some kind => .text kind.name.toList

def ofJson? : Json → Option TokenKind
  | .text name => ofName? (String.ofList name)
  | .object [(name, .null)] => ofName? (String.ofList name)
  | _ => none

def ofNullable? : Json → Option (Option TokenKind)
  | .null => some none
  | json => (ofJson? json).map some

end TokenKind

def Token.toJson (token : Token) : Json :=
  .record [("kind", TokenKind.toJson token.kind), ("text", .text token.text),
    ("start", .ofNat token.start), ("end", .ofNat token.stop)]

namespace LexMode

def ofName? (name : Text) : Option LexMode :=
  if name = "Default".toList then some .plain
  else if name = "InComment".toList then some .inComment
  else none

def toJson : LexMode → Json
  | .plain => .text "Default".toList
  | .inComment => .text "InComment".toList
  | .inString quote => .record [("InString", .record [("quote", .text [quote])])]

def ofJson? : Json → Option LexMode
  | .text name => ofName? name
  | .object [(name, value)] =>
    if name = "InString".toList then
      match Json.recordFields? [["quote"]] value with
      | some [some quote] => quote.asChar?.map .inString
      | _ => none
    else
      match value with
      | .null => ofName? name
      | _ => none
  | _ => none

end LexMode

namespace Frame

def toJson (frame : Frame) : Json :=
  .record [("parent_indent", .ofNat frame.parentIndent.toNat), ("column", .ofNat frame.column.toNat),
    ("closing", .text [frame.closing]), ("aligned", .boolean frame.aligned)]

def ofJson? (json : Json) : Option Frame :=
  match Json.recordFields? [["parent_indent"], ["column"], ["closing"], ["aligned"]] json with
  | some [some parentIndent, some column, some closing, some aligned] => do
    let parentIndent ← parentIndent.asNat?
    let column ← column.asNat?
    let closing ← closing.asChar?
    let aligned ← aligned.asBool?
    some ⟨.ofNat parentIndent, .ofNat column, closing, aligned⟩
  | _ => none

end Frame

namespace LexState

-- The open brackets are listed outermost first.
def toJson (state : LexState) : Json :=
  .record [("tokenizer", state.mode.toJson), ("last_kind", TokenKind.toJson state.lastKind),
    ("context", .array (state.frames.reverse.map Frame.toJson)),
    ("pending_align", .boolean state.pendingAlign)]

def ofJson? (json : Json) : Option LexState :=
  match Json.recordFields? [["tokenizer"], ["last_kind"], ["context"], ["pending_align"]] json with
  | some [some mode, kind, some frames, some pendingAlign] => do
    let mode ← LexMode.ofJson? mode
    let kind ← Json.fieldOr TokenKind.ofNullable? none kind
    let frames ← frames.asItems?
    let frames ← frames.mapM Frame.ofJson?
    let pendingAlign ← pendingAlign.asBool?
    some ⟨mode, kind, frames.reverse, pendingAlign⟩
  | _ => none

end LexState

def WordLists.ofJson? (json : Json) : Option WordLists := do
  let fields ← Json.recordFields? [["targets"], ["operators"], ["logical"], ["unary"],
    ["keywords"], ["punctuation_control", "punctuationControl", "punctuationcontrol"]] json
  let lists ← fields.mapM (Json.fieldOr Json.asTexts? [])
  match lists with
  | [targets, operators, logical, unary, keywords, punctuationControl] =>
    some ⟨targets, operators, logical, unary, keywords, punctuationControl⟩
  | _ => none

def Layout.ofJson? (json : Json) : Option Layout :=
  let standard : Layout := {}
  match Json.recordFields? [["indent_unit"], ["tab_size"], ["align_brackets"]] json with
  | some [indentUnit, tabSize, alignBrackets] => do
    let indentUnit ← Json.fieldOr Json.asNat? standard.indentUnit indentUnit
    let tabSize ← Json.fieldOr Json.asNat? standard.tabSize tabSize
    let alignBrackets ← Json.fieldOr Json.asBool? standard.alignBrackets alignBrackets
    some ⟨indentUnit, tabSize, alignBrackets⟩
  | _ => none

def FoldOptions.ofJson? (json : Json) : Option FoldOptions :=
  let standard : FoldOptions := {}
  match Json.recordFields? [["foldable_length"], ["folded_length"], ["fold_on_load"]] json with
  | some [foldableLength, foldedLength, foldOnLoad] => do
    let foldableLength ← Json.fieldOr Json.asNat? standard.foldableLength foldableLength
    let foldedLength ← Json.fieldOr Json.asNat? standard.foldedLength foldedLength
    let foldOnLoad ← Json.fieldOr Json.asBool? standard.foldOnLoad foldOnLoad
    some ⟨foldableLength, foldedLength, foldOnLoad⟩
  | _ => none

def HelpOptions.ofJson? (json : Json) : Option HelpOptions :=
  let standard : HelpOptions := {}
  match Json.recordFields? [["url_template"]] json with
  | some [urlTemplate] =>
    (Json.fieldOr Json.asText? standard.urlTemplate urlTemplate).map fun text => ⟨text⟩
  | _ => none

end FilterAssist
