import ModalEditor.Files
import ModalEditor.Text.Decimal

namespace ModalEditor

/-!
# Options of the command line

Arguments are read from left to right, and the first one that is wrong stops the
run.  A file with a key script is read as soon as it is named, so its keys stand
where it was named.
-/

/-- Why a run stops early. -/
inductive CommandError where
  | missingValue (option : String)
  | unreadableScript (path : Path)
  | badTabSize (typed : Text)
  | unknownOption (typed : Text)
  | unexpectedArgument (typed : Text)
  | noFile
  | unreadableSettings (path : Path)
  | badSettings (path : Path)
  | cannotOpen (path : Path)
  | cannotWrite (path : Path)
  | cannotSave (path : Path)
  deriving DecidableEq, Repr, Inhabited

namespace CommandError

/-- How a run is meant to be started. -/
def usage : String := "usage: modal-edit [--keys SCRIPT] [--output PATH] FILE"

/-- What is said about an error. -/
def message : CommandError → String
  | .missingValue option => option ++ " expects a value"
  | .unreadableScript path => "reading key script " ++ String.ofList path
  | .badTabSize typed => "bad tab size " ++ String.ofList typed
  | .unknownOption typed => "unknown option " ++ String.ofList typed
  | .unexpectedArgument typed => "unexpected argument " ++ String.ofList typed
  | .noFile => usage
  | .unreadableSettings path => "reading config " ++ String.ofList path
  | .badSettings path => "parsing config " ++ String.ofList path
  | .cannotOpen path => "opening " ++ String.ofList path
  | .cannotWrite path => "writing " ++ String.ofList path
  | .cannotSave path => "saving " ++ String.ofList path

end CommandError

/-- What the arguments of a run ask for. -/
structure Options where
  file : Option Path
  /-- The key script to run. -/
  script : Text
  settings : Option Path
  tabSize : Option Nat
  output : Option Path
  /-- Whether a report is printed. -/
  reports : Bool
  deriving DecidableEq, Repr, Inhabited

namespace Options

/-- Nothing is asked for. -/
def empty : Options := ⟨none, [], none, none, none, false⟩

/-- Options that take a value. -/
inductive Valued where
  | keys
  | keysFile
  | settings
  | tabSize
  | output
  deriving DecidableEq, Repr, Inhabited

/-- How an option with a value is typed. -/
def Valued.spelling : Valued → String
  | .keys => "--keys"
  | .keysFile => "--keys-file"
  | .settings => "--config"
  | .tabSize => "--tab-size"
  | .output => "--output"

/-- The option with a value that an argument spells. -/
def Valued.ofSpelling? (argument : Text) : Option Valued :=
  [.keys, .keysFile, .settings, .tabSize, .output].find? fun option =>
    option.spelling.toList == argument

/-- A script without the line feeds at its end. -/
def trimScript (script : Text) : Text :=
  (script.reverse.dropWhile (· == lineFeed)).reverse

/-- Takes the value of an option. -/
def take (files : Files) (options : Options) (option : Valued) (value : Text) :
    Except CommandError Options :=
  match option with
  | .keys => .ok { options with script := options.script ++ value }
  | .keysFile => do
      let script ← (files.readText value).mapError fun _ => .unreadableScript value
      return { options with script := options.script ++ trimScript script }
  | .settings => .ok { options with settings := some value }
  | .tabSize =>
      match readNumber? value with
      | none => .error (.badTabSize value)
      | some size => .ok { options with tabSize := some size }
  | .output => .ok { options with output := some value }

/-- Takes an argument that is not an option with a value.  The switch for the
system clipboard is accepted, but there is no clipboard to copy to. -/
def takeAlone (options : Options) (argument : Text) : Except CommandError Options :=
  if argument = "--report".toList then .ok { options with reports := true }
  else if argument = "--clipboard".toList then .ok options
  else if ['-', '-'].isPrefixOf argument then .error (.unknownOption argument)
  else if options.file.isNone then .ok { options with file := some argument }
  else .error (.unexpectedArgument argument)

/-- Reads arguments after those that gave `options`. -/
def readMore (files : Files) : Options → List Text → Except CommandError Options
  | options, [] => .ok options
  | options, argument :: rest =>
      match Valued.ofSpelling? argument, rest with
      | none, rest => do readMore files (← options.takeAlone argument) rest
      | some option, [] => .error (.missingValue option.spelling)
      | some option, value :: rest => do
          readMore files (← options.take files option value) rest

/-- Reads the arguments of a run. -/
def read (files : Files) (arguments : List Text) : Except CommandError Options :=
  readMore files empty arguments

end Options

end ModalEditor
