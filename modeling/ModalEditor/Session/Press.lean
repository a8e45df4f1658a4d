import ModalEditor.Session.Basic

namespace ModalEditor

/-!
# Keys of a session

The modal engine says what a key means; the session carries out what goes beyond
the buffer.  Each change of the text is recorded as the splice between the texts
before and after the key, and the group that collects it ends as soon as a key
leaves the engine outside Insert mode.
-/

namespace Session

/-- What the engine is told of the session. -/
def surroundings (session : Session) : Surroundings :=
  ⟨session.viewport.geometry, session.search.found⟩

/-- What follows a change of the text by a key. -/
def noteChange (session : Session) (now : Nat) : Session :=
  { session with
    isModified := true
    search := session.search.refresh session.text
    debounce := session.debounce.schedule now session.lineCount session.cadence.lastInterval }

/-- Applies splices from the history and moves the cursor.  If they do not fit,
the history is of no use any more. -/
def restore (session : Session) (restoration : Restoration) : Session × Bool :=
  match Splice.applyAll session.text restoration.splices with
  | none => ({ session with history := session.history.clear }, false)
  | some text =>
      let buffer := session.work.buffer.replaceText text
      let offset := min restoration.cursor.offset buffer.text.length
      let buffer := buffer.moveTo (Position.ofOffset text offset)
      ({ session with work := { session.work with buffer } }, true)

/-- Takes a step in the history.  The second component says whether the text was
restored. -/
def travel (session : Session) (step : History × Option Restoration) : Session × Bool :=
  let session := { session with history := step.1 }
  match step.2 with
  | none => (session, false)
  | some restoration => session.restore restoration

/-- Takes back the last change. -/
def undo (session : Session) : Session × Bool :=
  session.travel session.history.undo

/-- Does the change again that was taken back last. -/
def redo (session : Session) : Session × Bool :=
  session.travel session.history.redo

/-- The session after the key for undoing or redoing, which ends the group being
recorded. -/
def travelByKey (session : Session) (travel : Session → Session × Bool) (now : Nat) : Session :=
  let (session, restored) := travel { session with history := session.history.commit }
  if restored then session.noteChange now else session

/-- Searches for a pattern that was typed and goes to the next match.  The empty
pattern repeats the last search. -/
def runSearch (session : Session) (pattern : Text) : Session :=
  let text := session.text
  let search :=
    if pattern.isEmpty then session.search.refresh text
    else session.search.setQuery pattern text
  let session := { session with search }
  match search.nextAfter session.cursor.offset with
  | none => session
  | some found => { session with work := session.work.moveTo (Position.ofOffset text found.start) }

/-- The commands that can be typed. -/
inductive TypedCommand where
  | write
  | hideMatches
  deriving DecidableEq, Repr, Inhabited

/-- The command with a name. -/
def TypedCommand.ofName? (name : Text) : Option TypedCommand :=
  let names : List (String × TypedCommand) :=
    [("w", .write), ("write", .write), ("noh", .hideMatches), ("nohlsearch", .hideMatches)]
  names.lookup (String.ofList name)

/-- Runs a command that was typed.  One that means nothing is ignored, and so is
a file that cannot be written. -/
def runCommand (session : Session) (command : Text) : Session :=
  match TypedCommand.ofName? command with
  | some .write =>
      match session.save with
      | .ok saved => saved
      | .error _ => session
  | some .hideMatches => { session with search := session.search.clear }
  | none => session

/-- Carries out what the engine leaves to the session. -/
def carryOut (session : Session) : KeyOutcome → Session
  | .search pattern => session.runSearch pattern
  | .exCommand command => session.runCommand command
  | _ => session

/-- Records the change from the buffer `before`, if the text is another one. -/
def recordChange (session : Session) (before : Buffer) (now : Nat) : Session :=
  match Splice.between before.text session.text with
  | none => session
  | some splice =>
      { session with history := session.history.record splice before.cursor }.noteChange now

/-- Tells the history where the cursor is, and ends the group being recorded
unless an insert session goes on. -/
def endCommand (session : Session) : Session :=
  let history := session.history.setCursorAfter session.cursor
  { session with history := if session.mode = .insert then history else history.commit }

/-- One key at an instant. -/
def press (session : Session) (key : Key) (now : Nat) : Session × KeyOutcome :=
  let before := session.work.buffer
  let (work, outcome) := session.work.press session.surroundings key
  let session := { session with work, cadence := (session.cadence.record now).1 }
  match outcome with
  | .undo => (session.travelByKey undo now, outcome)
  | .redo => (session.travelByKey redo now, outcome)
  | _ => (((session.carryOut outcome).recordChange before now).endCommand, outcome)

/-- Several keys, all at one instant. -/
def pressAll (session : Session) (now : Nat) : List Key → Session × List KeyOutcome
  | [] => (session, [])
  | key :: keys =>
      let (session, outcome) := session.press key now
      let (session, outcomes) := session.pressAll now keys
      (session, outcome :: outcomes)

/-- The keys of a script, all at one instant. -/
def feed (session : Session) (script : Text) (now : Nat) : Session × List KeyOutcome :=
  session.pressAll now (Key.parseScript script)

end Session

end ModalEditor
