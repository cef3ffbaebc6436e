import FilterAssist.Buffer
import FilterAssist.Completion
import FilterAssist.Json.Pretty
import FilterAssist.Json.Records
import FilterAssist.Settings.Typed

set_option autoImplicit false

/-!
The commands: what is known of a filter, as text. Lines and columns count from one here.
-/
namespace FilterAssist

inductive CommandError where
  | lineOutOfRange (line count : Nat)
  | unknownFormat (name : Text)
deriving DecidableEq, Repr

def CommandError.message : CommandError → Text
  | .lineOutOfRange line count =>
    "line ".toList ++ Text.ofNat line ++ " is outside the document (1..=".toList ++
      Text.ofNat count ++ ")".toList
  | .unknownFormat name =>
    "format '".toList ++ name ++ "' not supported, available formats: simple, json".toList

namespace Command

def openBuffer (settings : Settings) (source : Text) : Buffer :=
  Buffer.ofText settings.lexer source

def lineIndex (buffer : Buffer) (line : Nat) : Except CommandError Nat :=
  if line = 0 ∨ buffer.rows.length < line then
    .error (.lineOutOfRange line buffer.rows.length)
  else .ok (line - 1)

def lineLabel (line : Nat) : Text :=
  let digits := Text.ofNat line
  List.replicate (4 - digits.length) ' ' ++ digits ++ [':', ' ']

def numbered (buffer : Buffer) : List (Nat × BufferLine) :=
  (List.range buffer.rows.length).zip buffer.rows |>.map fun entry => (entry.1 + 1, entry.2)

def simpleTokens (buffer : Buffer) : Text :=
  (numbered buffer).flatMap fun entry =>
    lineLabel entry.1 ++ Token.displayLine entry.2.tokens ++ ['\n']

def jsonTokens (buffer : Buffer) : Text :=
  let lines := (numbered buffer).map fun entry =>
    Json.record [("line", .ofNat entry.1), ("tokens", .array (entry.2.tokens.map Token.toJson))]
  Json.pretty 0 (.array lines) ++ ['\n']

def tokenFormats : List Text :=
  ["simple".toList, "json".toList]

def tokens (settings : Settings) (source format : Text) : Except CommandError Text :=
  let buffer := openBuffer settings source
  if format = "json".toList then .ok (jsonTokens buffer)
  else if format = "simple".toList then .ok (simpleTokens buffer)
  else .error (.unknownFormat format)

def candidateLine (candidate : Candidate) : Text :=
  match candidate.detail with
  | some detail => candidate.label ++ ['\t'] ++ detail.toList ++ ['\n']
  | none => candidate.label ++ ['\n']

def complete (settings : Settings) (source : Text) (line column : Nat) :
    Except CommandError Text := do
  let buffer := openBuffer settings source
  let index ← lineIndex buffer line
  let answer := CompletionSession.request {} buffer.document buffer.lexer.vocabulary index
    (column - 1)
  match answer.1 with
  | none => .ok []
  | some list => .ok (list.items.flatMap candidateLine)

def foldLine : FoldEvent → Text
  | .mark _ line start stop placeholder =>
    Text.ofNat (line + 1) ++ [':'] ++ Text.ofNat (start + 1) ++ ['-'] ++ Text.ofNat stop ++
      ['\t'] ++ placeholder ++ ['\n']
  | _ => []

def folds (settings : Settings) (source : Text) : Text :=
  let buffer := openBuffer settings source
  let registry : FoldRegistry := { options := { settings.folding with foldOnLoad := true } }
  (registry.load buffer.document).events.flatMap foldLine

def indent (settings : Settings) (source : Text) (line : Nat) : Except CommandError Text := do
  let buffer := openBuffer settings source
  let index ← lineIndex buffer line
  match buffer.indentFor index with
  | some width => .ok (Text.ofNat width.toNat ++ ['\n'])
  | none => .ok "none\n".toList

end Command

end FilterAssist
