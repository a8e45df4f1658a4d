import ModalEditor.Buffer
import ModalEditor.Key
import ModalEditor.Motion.Basic
import ModalEditor.Operator

namespace ModalEditor

/-!
# The state of modal editing

What a key does depends on what was typed before it.  The state says that in
full: in which mode the engine is, and what that mode holds.  An anchor exists
only in Visual mode, a prompt only while a command is typed, an insert session
only in Insert mode, and an operator or a replacement waits only in Normal
mode, since each belongs to one constructor.

The grammar of Normal mode is

* a count and a motion,
* a count, an operator, a count and a motion, where the counts multiply,
* a count and an operator typed twice, for whole lines,
* a count and `x`, `D`, `C` or `r` with a character,
* `.`, `u` and Control with `r`.
-/

/-- The mode shown to the user. -/
inductive Mode where
  | normal
  | insert
  | visual
  | commandLine
  deriving DecidableEq, Repr, Inhabited

/-- The name of a mode. -/
def Mode.name : Mode → String
  | .normal => "NORMAL"
  | .insert => "INSERT"
  | .visual => "VISUAL"
  | .commandLine => "COMMAND"

/-- What a key did. -/
inductive KeyOutcome where
  /-- The key is part of a longer command, and nothing ran yet. -/
  | pending
  | moved
  | edited
  | modeChanged (mode : Mode)
  /-- The last change is to be undone. -/
  | undo
  /-- The last change that was undone is to be done again. -/
  | redo
  /-- A command was typed that is not a line number. -/
  | exCommand (command : Text)
  /-- A pattern was typed.  The empty one repeats the last search. -/
  | search (pattern : Text)
  /-- Pending input was discarded. -/
  | cancelled
  | ignored
  deriving DecidableEq, Repr, Inhabited

/-- The ways into Insert mode that have a key of their own. -/
inductive InsertEntry where
  | beforeCursor
  | afterCursor
  | lineStart
  | lineEnd
  | openBelow
  | openAbove
  deriving DecidableEq, Repr, Inhabited

/-- The way into Insert mode that a key takes. -/
def InsertEntry.ofKey? : Char → Option InsertEntry
  | 'i' => some .beforeCursor
  | 'a' => some .afterCursor
  | 'I' => some .lineStart
  | 'A' => some .lineEnd
  | 'o' => some .openBelow
  | 'O' => some .openAbove
  | _ => none

/-- A command that can be repeated. -/
inductive Repeatable where
  | operate (operator : Operator) (motion : Motion) (count : Count)
  /-- A change and the text typed after it. -/
  | change (motion : Motion) (count : Count) (typed : Text)
  | replace (fill : Char) (count : Nat)
  /-- An insert session and the text typed in it. -/
  | insert (entry : InsertEntry) (typed : Text)
  deriving DecidableEq, Repr, Inhabited

/-- A command whose text is still being typed. -/
inductive Recording where
  | change (motion : Motion) (count : Count)
  | insert (entry : InsertEntry)
  deriving DecidableEq, Repr, Inhabited

/-- The finished command, once the text is known. -/
def Recording.finish (typed : Text) : Recording → Repeatable
  | .change motion count => .change motion count typed
  | .insert entry => .insert entry typed

/-- The prompts of the command line. -/
inductive Prompt where
  | command
  | search
  deriving DecidableEq, Repr, Inhabited

namespace Prompt

/-- The prompt that a key opens. -/
def ofKey? : Char → Option Prompt
  | ':' => some .command
  | '/' => some .search
  | _ => none

/-- The key of a prompt, which is also what it shows. -/
def key : Prompt → Char
  | .command => ':'
  | .search => '/'

end Prompt

/-- Keys of a command of Normal mode that wait for more. -/
structure PendingCommand where
  /-- The count typed first. -/
  count : Option Nat
  operator : Option Operator
  /-- The count typed after the operator. -/
  operatorCount : Option Nat
  /-- Whether `g` was typed last. -/
  afterG : Bool
  deriving DecidableEq, Repr, Inhabited

namespace PendingCommand

/-- Nothing is pending. -/
def none : PendingCommand := ⟨Option.none, Option.none, Option.none, false⟩

/-- Whether anything is pending. -/
def isPending (pending : PendingCommand) : Bool :=
  pending.count.isSome || pending.operator.isSome || pending.operatorCount.isSome ||
    pending.afterG

end PendingCommand

/-- What Normal mode waits for. -/
inductive NormalInput where
  /-- The rest of a command. -/
  | command (pending : PendingCommand)
  /-- The character that takes the place of others. -/
  | replacement (count : Option Nat)
  deriving DecidableEq, Repr, Inhabited

/-- The state of the engine within its mode. -/
inductive ModeState where
  | normal (input : NormalInput)
  /-- A selection from the anchor to the cursor. -/
  | visual (anchor : Position) (count : Option Nat) (afterG : Bool)
  /-- An insert session with the text typed in it so far. -/
  | insert (recording : Option Recording) (typed : Text)
  /-- A command or a pattern being typed. -/
  | prompt (kind : Prompt) (typed : Text)
  deriving DecidableEq, Repr, Inhabited

namespace ModeState

/-- Normal mode with nothing pending. -/
def idle : ModeState := .normal (.command PendingCommand.none)

/-- The mode of a state. -/
def mode : ModeState → Mode
  | .normal _ => .normal
  | .visual .. => .visual
  | .insert .. => .insert
  | .prompt .. => .commandLine

/-- Whether part of a command waits for more keys. -/
def isPending : ModeState → Bool
  | .normal (.command pending) => pending.isPending
  | .normal (.replacement _) => true
  | .visual _ count afterG => count.isSome || afterG
  | .insert .. | .prompt .. => false

/-- The operator that waits for a motion. -/
def pendingOperator : ModeState → Option Operator
  | .normal (.command pending) => pending.operator
  | _ => none

/-- Where the selection was started. -/
def anchor : ModeState → Option Position
  | .visual anchor .. => some anchor
  | _ => none

/-- The command line as shown, the prompt in front. -/
def commandLine : ModeState → Option Text
  | .prompt kind typed => some (kind.key :: typed)
  | _ => none

end ModeState

/-- The modal engine of one buffer. -/
structure Engine where
  state : ModeState
  /-- The column kept by vertical motions. -/
  goal : Option GoalColumn
  lastCommand : Option Repeatable
  deriving DecidableEq, Repr, Inhabited

namespace Engine

/-- The engine before the first key. -/
def fresh : Engine := ⟨ModeState.idle, none, none⟩

/-- The mode of the engine. -/
def mode (engine : Engine) : Mode := engine.state.mode

end Engine

/-- A buffer being edited: its engine, its text and its register. -/
structure Workspace where
  engine : Engine
  buffer : Buffer
  register : Register
  deriving DecidableEq, Repr, Inhabited

namespace Workspace

/-- A workspace before the first key. -/
def ofBuffer (buffer : Buffer) : Workspace :=
  ⟨Engine.fresh, buffer, Register.empty⟩

/-- Puts the engine into a state. -/
def enter (work : Workspace) (state : ModeState) : Workspace :=
  { work with engine := { work.engine with state } }

/-- Sets the column kept by vertical motions. -/
def setGoal (work : Workspace) (goal : Option GoalColumn) : Workspace :=
  { work with engine := { work.engine with goal } }

/-- Makes a command the one to be repeated. -/
def remember (work : Workspace) (command : Repeatable) : Workspace :=
  { work with engine := { work.engine with lastCommand := some command } }

/-- Moves the cursor. -/
def moveTo (work : Workspace) (cursor : Position) : Workspace :=
  { work with buffer := work.buffer.moveTo cursor }

/-- Replaces the text and moves the cursor to an offset in the new one. -/
def rewrite (work : Workspace) (text : Text) (cursor : Nat) : Workspace :=
  { work with
    buffer := (work.buffer.replaceText text).moveTo (Position.ofOffset text cursor) }

/-- Carries out what an operator does. -/
def perform (work : Workspace) (outcome : OperatorOutcome) : Workspace :=
  let (buffer, register) := outcome.applyTo work.buffer work.register
  { work with buffer, register }

/-- Puts a cursor past the end of its line back on the last character. -/
def clampCursor (work : Workspace) : Workspace :=
  let cursor := work.buffer.cursor
  let lines := work.buffer.lines
  let length := lineLength lines cursor.line
  if cursor.column > 0 ∧ length > 0 ∧ cursor.column ≥ length then
    work.moveTo (Position.ofLineColumn lines cursor.line (length - 1))
  else work

end Workspace

end ModalEditor
