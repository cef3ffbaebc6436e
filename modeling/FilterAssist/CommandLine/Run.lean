import FilterAssist.CommandLine.Arguments
import FilterAssist.CommandLine.Files
import FilterAssist.Settings.Loader
import FilterAssist.Text.Utf8

set_option autoImplicit false

/-!
A run of the program as a function of its arguments and of what its files hold. The settings are
loaded before the filter is read.
-/
namespace FilterAssist.CommandLine

structure Outcome where
  exit : Nat
  output : Text := []
  complaint : Option Text := none
deriving DecidableEq, Repr

def versionLine : Text :=
  "csdl 0.1.0\n".toList

def helpText : Text :=
  ("A tool for inspecting CSDL filters\n\n" ++
   "Usage: csdl [OPTIONS] <COMMAND>\n\n" ++
   "Commands:\n" ++
   "  tokens    Dump the tokens of every line\n" ++
   "  complete  List completion candidates at a cursor position\n" ++
   "  folds     List foldable strings with their placeholders\n" ++
   "  indent    Print the indentation hint for a line\n").toList

inductive RunError where
  | settings (error : SettingsError)
  | unreadable (path : Text) (reason : String)
  | command (error : CommandError)
deriving DecidableEq, Repr

def RunError.message : RunError → Text
  | .settings error => "failed to load configuration: ".toList ++ error.message
  | .unreadable path reason =>
    "cannot read ".toList ++ path ++ ": ".toList ++ reason.toList
  | .command error => error.message

def settingsPaths (path : Text) : List Text :=
  if path = [] then [] else [path, path ++ ".toml".toList]

def firstFile (read : Text → FileContent) : List Text → Option Text
  | [] => none
  | path :: paths =>
    match read path with
    | .bytes content => some (Toml.dropByteOrderMark (Utf8.decodeLossy content))
    | _ => firstFile read paths

def loadSettings (read : Text → FileContent) (config : Option Text) :
    Except RunError Settings :=
  let loader : SettingsLoader := match config with
    | none => {}
    | some path => { layers := [.file (firstFile read (settingsPaths path)) true] }
  loader.build.mapError .settings

def readSource (read : Text → FileContent) (path : Text) : Except RunError Text :=
  match read path with
  | .bytes content =>
    match Utf8.decode? content with
    | some text => .ok text
    | none => .error (.unreadable path "stream did not contain valid UTF-8")
  | other => .error (.unreadable path (other.complaint?.getD ""))

def perform (read : Text → FileContent) (invocation : Invocation) : Except RunError Text := do
  let settings ← loadSettings read invocation.config
  let source ← readSource read invocation.path
  match invocation.task with
  | .tokens format => (Command.tokens settings source format).mapError .command
  | .complete line column => (Command.complete settings source line column).mapError .command
  | .folds => .ok (Command.folds settings source)
  | .indent line => (Command.indent settings source line).mapError .command

def run (read : Text → FileContent) (arguments : List Text) : Outcome :=
  match readArguments arguments with
  | .error .usage => { exit := 2 }
  | .error .help => { exit := 0, output := helpText }
  | .error .version => { exit := 0, output := versionLine }
  | .ok invocation =>
    match perform read invocation with
    | .ok output => { exit := 0, output := output }
    | .error error => { exit := 1, complaint := some ("Error: ".toList ++ error.message) }

def wantedPaths (arguments : List Text) : List Text :=
  match readArguments arguments with
  | .error _ => []
  | .ok invocation => ((invocation.config.map settingsPaths).getD []) ++ [invocation.path]

end FilterAssist.CommandLine
