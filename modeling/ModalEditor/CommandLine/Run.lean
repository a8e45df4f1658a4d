import ModalEditor.CommandLine.Options
import ModalEditor.CommandLine.Report
import ModalEditor.Session.Press

namespace ModalEditor

/-!
# Running a key script on a file

A run opens a file, presses the keys of a script and stores the text: in the file
that was named for it, or else in the file it came from, if keys changed the text
since it was saved last.
-/

/-- What a run leaves behind. -/
structure Ending where
  files : Files
  /-- The report that was asked for, or the error that stopped the run. -/
  result : Except CommandError (Option Report)

namespace Options

/-- The settings of a run.  A tab size among the arguments goes before the one in
the settings file. -/
def readSettings (options : Options) (files : Files) : Except CommandError Settings := do
  let settings ←
    match options.settings with
    | none => .ok Settings.default
    | some path => do
        let document ← (files.readText path).mapError fun _ => .unreadableSettings path
        (Settings.read document).mapError fun _ => .badSettings path
  return { settings with tabSize := options.tabSize.getD settings.tabSize }

/-- The session that a run starts with. -/
def openSession (parser : Parser) (options : Options) (files : Files) :
    Except CommandError Session :=
  match options.file with
  | none => .error .noFile
  | some path => do
      let session := Session.ofSettings (← options.readSettings files) files
      (session.openFile parser path).mapError fun _ => .cannotOpen path

/-- Presses the keys of the script and brings the tree up to date.  All keys are
pressed at one instant. -/
def edit (parser : Parser) (options : Options) (session : Session) :
    Session × Option ReparseKind :=
  (session.feed options.script 0).1.flush parser

/-- Stores the text of a session where the options say. -/
def store (options : Options) (session : Session) : Except CommandError Session :=
  match options.output with
  | some path => (session.saveAs path).mapError fun _ => .cannotWrite path
  | none =>
      if session.isModified then
        session.save.mapError fun _ => .cannotSave (options.file.getD [])
      else .ok session

/-- Runs what the options ask for. -/
def run (parser : Parser) (options : Options) (files : Files) : Ending :=
  match options.openSession parser files with
  | .error error => ⟨files, .error error⟩
  | .ok opened =>
      let (session, reparse) := options.edit parser opened
      match options.store session with
      | .error error => ⟨session.files, .error error⟩
      | .ok stored =>
          ⟨stored.files,
            .ok (if options.reports then some (Report.ofSession stored reparse) else none)⟩

end Options

/-- Runs the program with some arguments. -/
def runArguments (parser : Parser) (arguments : List Text) (files : Files) : Ending :=
  match Options.read files arguments with
  | .error error => ⟨files, .error error⟩
  | .ok options => options.run parser files

end ModalEditor
