import FilterAssist.Command

set_option autoImplicit false

/-!
The arguments of the program. An option may stand before or after the path; a double dash ends the
options; some options may also stand before the command.
-/
namespace FilterAssist.CommandLine

inductive Flag where
  | config
  | verbose
  | help
  | version
  | line
  | column
  | format
deriving DecidableEq, Repr

inductive Level where
  | program
  | tokens
  | complete
  | folds
  | indent
deriving DecidableEq, Repr

inductive Stop where
  | usage
  | help
  | version
deriving DecidableEq, Repr

def Flag.takesValue : Flag → Bool
  | .config | .line | .column | .format => true
  | .verbose | .help | .version => false

def Flag.name : Flag → String
  | .config => "config"
  | .verbose => "verbose"
  | .help => "help"
  | .version => "version"
  | .line => "line"
  | .column => "column"
  | .format => "format"

def Flag.letter : Flag → Option Char
  | .config => some 'c'
  | .verbose => some 'v'
  | .help => some 'h'
  | .version => some 'V'
  | .line => some 'l'
  | .column => none
  | .format => some 'f'

namespace Level

def commands : List Level :=
  [.tokens, .complete, .folds, .indent]

def name : Level → String
  | .program => "csdl"
  | .tokens => "tokens"
  | .complete => "complete"
  | .folds => "folds"
  | .indent => "indent"

def ownFlags : Level → List Flag
  | .program => [.version]
  | .tokens => [.format]
  | .complete => [.line, .column]
  | .folds => []
  | .indent => [.line]

def flags (level : Level) : List Flag :=
  [.config, .verbose, .help] ++ level.ownFlags

def flagNamed (level : Level) (name : Text) : Option Flag :=
  level.flags.find? fun flag => flag.name.toList == name

def flagLettered (level : Level) (letter : Char) : Option Flag :=
  level.flags.find? fun flag => flag.letter == some letter

def command? (name : Text) : Option Level :=
  commands.find? fun level => level.name.toList == name

end Level

structure Given where
  values : List (Flag × Text) := []
  path : Option Text := none
deriving DecidableEq, Repr

namespace Given

def value? (given : Given) (flag : Flag) : Option Text :=
  given.values.lookup flag

def isValid (flag : Flag) (value : Text) : Bool :=
  match flag with
  | .line | .column => (readUnsigned? value).isSome
  | .format => Command.tokenFormats.contains value
  | _ => true

def setValue (given : Given) (flag : Flag) (value : Text) : Except Stop Given :=
  if (given.value? flag).isSome ∨ isValid flag value = false then .error .usage
  else .ok { given with values := given.values ++ [(flag, value)] }

def setFlag (given : Given) : Flag → Except Stop Given
  | .help => .error .help
  | .version => .error .version
  | _ => .ok given

end Given

-- Letters after one dash. An option with a value takes what follows its letter as that value; if
-- nothing follows, the value is still to come.
def readLetters (level : Level) (given : Given) : Text → Except Stop (Given × Option Flag)
  | [] => .ok (given, none)
  | letter :: rest =>
    match level.flagLettered letter with
    | none => .error .usage
    | some flag =>
      if flag.takesValue then
        match rest with
        | [] => .ok (given, some flag)
        | '=' :: value => (given.setValue flag value).map fun given => (given, none)
        | value => (given.setValue flag value).map fun given => (given, none)
      else do
        let given ← given.setFlag flag
        readLetters level given rest

def readLong (level : Level) (given : Given) (text : Text) : Except Stop (Given × Option Flag) :=
  let name := text.takeWhile (· != '=')
  let attached := text.drop name.length
  match level.flagNamed name with
  | none => .error .usage
  | some flag =>
    if flag.takesValue then
      match attached with
      | [] => .ok (given, some flag)
      | _ :: value => (given.setValue flag value).map fun given => (given, none)
    else if attached = [] then (given.setFlag flag).map fun given => (given, none)
    else .error .usage

def setPath (level : Level) (given : Given) (path : Text) : Except Stop Given :=
  if level = .program ∨ given.path.isSome then .error .usage
  else .ok { given with path := some path }

def helpOn (topics : List Text) : Stop :=
  match topics with
  | [] => .help
  | [topic] =>
    if topic = "help".toList ∨ (Level.command? topic).isSome then .help else .usage
  | _ => .usage

/-- The arguments of one level. The first that is no option names the command at the level of the
program, whose arguments are then left over; elsewhere it is the path. `pending` is an option that
waits for its value. -/
def readLevel (level : Level) (given : Given) (pending : Option Flag) (escaped : Bool) :
    List Text → Except Stop (Given × Option (Level × List Text))
  | [] => if pending.isSome then .error .usage else .ok (given, none)
  | argument :: rest =>
    if escaped then do
      let given ← setPath level given argument
      readLevel level given pending true rest
    else
      match argument with
      | ['-', '-'] => readLevel level given pending true rest
      | '-' :: '-' :: text => do
        if pending.isSome then .error .usage
        else
          let (given, pending) ← readLong level given text
          readLevel level given pending false rest
      | '-' :: letter :: letters => do
        if pending.isSome then .error .usage
        else
          let (given, pending) ← readLetters level given (letter :: letters)
          readLevel level given pending false rest
      | value =>
        match pending with
        | some flag => do
          let given ← given.setValue flag value
          readLevel level given none false rest
        | none =>
          if level = .program then
            if value = "help".toList then .error (helpOn rest)
            else
              match Level.command? value with
              | some command => .ok (given, some (command, rest))
              | none => .error .usage
          else do
            let given ← setPath level given value
            readLevel level given none false rest

inductive Task where
  | tokens (format : Text)
  | complete (line column : Nat)
  | folds
  | indent (line : Nat)
deriving DecidableEq, Repr

structure Invocation where
  task : Task
  path : Text
  config : Option Text
deriving DecidableEq, Repr

def requiredNumber (given : Given) (flag : Flag) : Except Stop Nat :=
  match (given.value? flag).bind readUnsigned? with
  | some number => .ok number
  | none => .error .usage

def readTask (level : Level) (given : Given) : Except Stop Task :=
  match level with
  | .program => .error .usage
  | .tokens => .ok (.tokens ((given.value? .format).getD "simple".toList))
  | .complete => do
    let line ← requiredNumber given .line
    let column ← requiredNumber given .column
    .ok (.complete line column)
  | .folds => .ok .folds
  | .indent => do
    let line ← requiredNumber given .line
    .ok (.indent line)

def readArguments (arguments : List Text) : Except Stop Invocation := do
  let (outer, command) ← readLevel .program {} none false arguments
  match command with
  | none => .error .usage
  | some (level, rest) => do
    let (inner, _) ← readLevel level {} none false rest
    let task ← readTask level inner
    match inner.path with
    | none => .error .usage
    | some path => .ok ⟨task, path, (inner.value? .config).or (outer.value? .config)⟩

end FilterAssist.CommandLine
