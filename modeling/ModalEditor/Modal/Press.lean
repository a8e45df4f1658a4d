import ModalEditor.Modal.Command
import ModalEditor.Text.Decimal

namespace ModalEditor

/-!
# Keys

`Workspace.press` is what one key does.  Input that does not lead to a command
is discarded.
-/

/-- The largest count.  Larger ones are taken for it. -/
def maxCount : Nat := 99999

/-- A count with one more digit.  A zero does not start a count. -/
def extendCount? (count : Option Nat) (digit : Nat) : Option Nat :=
  if digit = 0 ∧ count.isNone then none
  else some (min (count.getD 0 * 10 + digit) maxCount)

namespace PendingCommand

/-- How often the command is to run.  The count before the operator and the one
after it multiply. -/
def total (pending : PendingCommand) : Count :=
  { value := max 1 (min (pending.count.getD 1 * pending.operatorCount.getD 1) maxCount)
    typed := pending.count.isSome || pending.operatorCount.isSome }

/-- The pending command with one more digit, unless the key is not one. -/
def withDigit? (pending : PendingCommand) (c : Char) : Option PendingCommand :=
  (digitValue? c).bind fun digit =>
    if pending.operator.isSome then
      (extendCount? pending.operatorCount digit).map fun count =>
        { pending with operatorCount := some count }
    else
      (extendCount? pending.count digit).map fun count =>
        { pending with count := some count }

end PendingCommand

namespace Workspace

/-- Goes back to Normal mode without a command.  The key was ignored if nothing
was pending. -/
def discard (work : Workspace) (wasPending : Bool) : Workspace × KeyOutcome :=
  (work.enter ModeState.idle, if wasPending then .cancelled else .ignored)

/-- Keeps waiting in Normal mode. -/
def await (work : Workspace) (input : NormalInput) : Workspace × KeyOutcome :=
  (work.enter (.normal input), .pending)

/-- Opens the command line. -/
def openPrompt (work : Workspace) (prompt : Prompt) : Workspace × KeyOutcome :=
  (work.enter (.prompt prompt []), .modeChanged .commandLine)

/-- Runs a motion, or the pending operator over it. -/
def complete (work : Workspace) (surroundings : Surroundings) (pending : PendingCommand)
    (motion : Motion) : Workspace × KeyOutcome :=
  let work := work.enter ModeState.idle
  match pending.operator with
  | some operator => work.operate surroundings operator motion pending.total
  | none => (work.move surroundings motion pending.total, .moved)

/-- A key that starts a command of Normal mode or is one by itself, other than
a motion or an operator. -/
def pressCommand (work : Workspace) (surroundings : Surroundings) (pending : PendingCommand)
    (c : Char) : Workspace × KeyOutcome :=
  let ready := work.enter ModeState.idle
  match c with
  | 'x' => ready.operate surroundings .delete .right pending.total
  | 'D' => ready.operate surroundings .delete .lineEnd pending.total
  | 'C' => ready.operate surroundings .change .lineEnd pending.total
  | 'r' => work.await (.replacement pending.count)
  | 'v' => (work.enter (.visual work.buffer.cursor none false), .modeChanged .visual)
  | '.' => ready.repeatLast surroundings pending.total
  | 'u' => (ready, .undo)
  | _ =>
      match Prompt.ofKey? c, InsertEntry.ofKey? c with
      | some prompt, _ => work.openPrompt prompt
      | none, some entry => (work.enterInsert entry, .modeChanged .insert)
      | none, none => work.discard pending.isPending

/-- A character in Normal mode, after those that are pending. -/
def pressNormalChar (work : Workspace) (surroundings : Surroundings)
    (pending : PendingCommand) (c : Char) : Workspace × KeyOutcome :=
  if pending.afterG then
    let pending := { pending with afterG := false }
    if c = 'g' then work.complete surroundings pending .fileStart
    else work.discard pending.isPending
  else
    match pending.withDigit? c with
    | some pending => work.await (.command pending)
    | none =>
        if c = 'g' then work.await (.command { pending with afterG := true })
        else
          match pending.operator, Motion.ofKey? c, Operator.ofKey? c with
          | some operator, motion, _ =>
              if c = operator.key then work.complete surroundings pending .currentLine
              else
                match motion with
                | some motion => work.complete surroundings pending motion
                | none => work.discard pending.isPending
          | none, some motion, _ => work.complete surroundings pending motion
          | none, none, some operator =>
              work.await (.command { pending with operator := some operator })
          | none, none, none => work.pressCommand surroundings pending c

/-- A key in Normal mode. -/
def pressNormal (work : Workspace) (surroundings : Surroundings) :
    NormalInput → Key → Workspace × KeyOutcome
  | input, .escape => work.discard (ModeState.normal input).isPending
  | .command pending, .char c => work.pressNormalChar surroundings pending c
  | .command pending, key =>
      if key = .ctrl 'r' ∧ !pending.isPending then (work, .redo)
      else work.discard pending.isPending
  | .replacement count, key =>
      let total := { PendingCommand.none with count }.total.value
      let ready := work.enter ModeState.idle
      match key with
      | .char fill => ready.replaceChars fill total
      | .enter => ready.replaceChars lineFeed total
      | _ => work.discard count.isSome

/-- Keeps selecting in Visual mode with nothing pending. -/
def stayVisual (work : Workspace) (anchor : Position) : Workspace :=
  work.enter (.visual anchor none false)

/-- A key of Visual mode that leads to no command. -/
def discardVisual (work : Workspace) (anchor : Position) (wasPending : Bool) :
    Workspace × KeyOutcome :=
  (work.stayVisual anchor, if wasPending then .cancelled else .ignored)

/-- A character in Visual mode. -/
def pressVisualChar (work : Workspace) (surroundings : Surroundings) (anchor : Position)
    (count : Option Nat) (afterG : Bool) (c : Char) : Workspace × KeyOutcome :=
  let total := { PendingCommand.none with count }.total
  let moveBy (motion : Motion) : Workspace × KeyOutcome :=
    ((work.stayVisual anchor).move surroundings motion total, .moved)
  if afterG then
    if c = 'g' then moveBy .fileStart else work.discardVisual anchor count.isSome
  else
    match (digitValue? c).bind (extendCount? count) with
    | some count => (work.enter (.visual anchor (some count) false), .pending)
    | none =>
        if c = 'g' then (work.enter (.visual anchor count true), .pending)
        else
          match Motion.ofKey? c, Operator.ofKey? c, Prompt.ofKey? c with
          | some motion, _, _ => moveBy motion
          | none, some operator, _ => work.operateOnSelection anchor operator
          | none, none, some prompt => work.openPrompt prompt
          | none, none, none =>
              if c = 'v' then (work.enter ModeState.idle, .modeChanged .normal)
              else if c = 'x' then work.operateOnSelection anchor .delete
              else work.discardVisual anchor count.isSome

/-- A key in Visual mode. -/
def pressVisual (work : Workspace) (surroundings : Surroundings) (anchor : Position)
    (count : Option Nat) (afterG : Bool) : Key → Workspace × KeyOutcome
  | .escape => (work.enter ModeState.idle, .modeChanged .normal)
  | .char c => work.pressVisualChar surroundings anchor count afterG c
  | _ => work.discardVisual anchor (count.isSome || afterG)

/-- Runs a command typed at the prompt.  A number is a line to go to. -/
def runTyped (work : Workspace) (typed : Text) : Workspace × KeyOutcome :=
  let command := trimBlanks typed
  if command.isEmpty then (work, .cancelled)
  else
    match readNumber? command with
    | none => (work, .exCommand command)
    | some number =>
        let target := Motion.firstNonBlankOf work.buffer.lines (number - 1)
        ((work.moveTo target).setGoal none, .moved)

/-- A key on the command line. -/
def pressPrompt (work : Workspace) (kind : Prompt) (typed : Text) :
    Key → Workspace × KeyOutcome
  | .escape => (work.enter ModeState.idle, .modeChanged .normal)
  | .backspace =>
      if typed.isEmpty then (work.enter ModeState.idle, .modeChanged .normal)
      else (work.enter (.prompt kind typed.dropLast), .pending)
  | .char c => (work.enter (.prompt kind (typed ++ [c])), .pending)
  | .enter =>
      let closed := work.enter ModeState.idle
      match kind with
      | .search => (closed, .search typed)
      | .command => closed.runTyped typed
  | .ctrl _ => (work, .ignored)

/-- What follows every key of Normal and Visual mode: while still in one of
them, the cursor stands on a character. -/
def settle (result : Workspace × KeyOutcome) : Workspace × KeyOutcome :=
  match result.1.engine.mode with
  | .normal | .visual => (result.1.clampCursor, result.2)
  | .insert | .commandLine => result

/-- One key. -/
def press (work : Workspace) (surroundings : Surroundings) (key : Key) :
    Workspace × KeyOutcome :=
  match work.engine.state with
  | .normal input => settle (work.pressNormal surroundings input key)
  | .visual anchor count afterG =>
      settle (work.pressVisual surroundings anchor count afterG key)
  | .insert recording typed => work.pressInsert recording typed key
  | .prompt kind typed => work.pressPrompt kind typed key

end Workspace

end ModalEditor
