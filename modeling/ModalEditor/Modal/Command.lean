import ModalEditor.Modal.Insert
import ModalEditor.Motion.Target

namespace ModalEditor

/-!
# Commands

Commands are what complete input of Normal and Visual mode runs.  Running an
operator and putting a text in are separate from remembering the command, so
that repeating a command runs the same steps and remembers nothing.
-/

namespace Workspace

/-- Moves the cursor by a motion.  Only vertical motions keep to a column, and
after going to the end of a line they keep to the ends of lines. -/
def move (work : Workspace) (surroundings : Surroundings) (motion : Motion)
    (count : Count) : Workspace :=
  let cursor := work.buffer.cursor
  let kept :=
    if motion.isVertical then
      some (work.engine.goal.getD (.column cursor.column))
    else none
  let span := motion.span work.buffer.lines cursor count ⟨false, kept, surroundings⟩
  let goal := if motion = .lineEnd then some .lineEnd else kept
  (work.setGoal goal).moveTo span.stop

/-- The span that an operator acts on with a motion from the cursor.  There is
none for a vertical motion that cannot leave its line.  From a character that
is not blank, `cw` ends with the word. -/
def operatorSpan? (buffer : Buffer) (surroundings : Surroundings) (operator : Operator)
    (motion : Motion) (count : Count) : Option Span :=
  let onWord := (buffer.text[buffer.cursor.offset]?).any fun c => !isBlank c
  if operator = .change ∧ motion = .wordForward ∧ onWord then
    some (Motion.changeWordSpan buffer.lines buffer.cursor count.value)
  else
    let span := motion.span buffer.lines buffer.cursor count ⟨true, none, surroundings⟩
    if motion.isVertical && !span.linewise then none else some span

/-- What became of running an operator. -/
inductive OperatorRun where
  /-- The motion had nowhere to go. -/
  | blocked
  /-- There was nothing to do. -/
  | idle
  /-- The operator did something and left the text alone. -/
  | copied
  | edited
  deriving DecidableEq, Repr

/-- The outcome of a key that runs an operator. -/
def OperatorRun.outcome : OperatorRun → KeyOutcome
  | .blocked => .cancelled
  | .idle => .ignored
  | .copied => .moved
  | .edited => .edited

/-- Runs an operator over a motion from the cursor. -/
def runOperator (work : Workspace) (surroundings : Surroundings) (operator : Operator)
    (motion : Motion) (count : Count) : Workspace × OperatorRun :=
  let buffer := work.buffer.settled
  let work := work.setGoal none
  match operatorSpan? buffer surroundings operator motion count with
  | none => (work, .blocked)
  | some span =>
      match operator.apply buffer span count.value with
      | none => (work, .idle)
      | some outcome =>
          (work.perform outcome, if outcome.text.isSome then .edited else .copied)

/-- Runs an operator and remembers the command.  After a change the text that
replaces the old one is typed. -/
def operate (work : Workspace) (surroundings : Surroundings) (operator : Operator)
    (motion : Motion) (count : Count) : Workspace × KeyOutcome :=
  let (next, run) := work.runOperator surroundings operator motion count
  if run = .blocked then (next, run.outcome)
  else if operator.entersInsert then
    (next.beginInsert (some (.change motion count)), .modeChanged .insert)
  else if run ≠ .idle ∧ operator.isRepeatable then
    (next.remember (.operate operator motion count), run.outcome)
  else (next, run.outcome)

/-- Runs an operator on the selection and leaves Visual mode.  Indentation is
changed of all lines that the selection touches. -/
def operateOnSelection (work : Workspace) (anchor : Position) (operator : Operator) :
    Workspace × KeyOutcome :=
  let buffer := work.buffer.settled
  let linewise := operator = .indent ∨ operator = .outdent
  let span : Span := ⟨anchor, buffer.cursor, !linewise, linewise⟩
  let next :=
    (operator.apply buffer span 1).elim work work.perform
  if operator.entersInsert then (next.beginInsert none, .modeChanged .insert)
  else (next.enter ModeState.idle, .modeChanged .normal)

/-- Overwrites characters from the cursor on, if there are enough of them. -/
def overwrite? (work : Workspace) (fill : Char) (count : Nat) : Option Workspace :=
  let buffer := work.buffer.settled
  ((Operator.replace fill).apply buffer (Span.empty buffer.cursor) count).map work.perform

/-- Overwrites characters and remembers the command. -/
def replaceChars (work : Workspace) (fill : Char) (count : Nat) : Workspace × KeyOutcome :=
  match work.overwrite? fill count with
  | some next => (next.remember (.replace fill count), .edited)
  | none => (work, .ignored)

/-- Runs the last command again.  A count typed now takes the place of the one
typed then. -/
def repeatLast (work : Workspace) (surroundings : Surroundings) (count : Count) :
    Workspace × KeyOutcome :=
  let countOr (recorded : Count) : Count := if count.typed then count else recorded
  match work.engine.lastCommand with
  | none => (work, .ignored)
  | some (.operate operator motion recorded) =>
      let (next, run) := work.runOperator surroundings operator motion (countOr recorded)
      (next, run.outcome)
  | some (.change motion recorded typed) =>
      let (next, run) := work.runOperator surroundings .change motion (countOr recorded)
      if run = .blocked then (next, run.outcome)
      else ((next.insertText typed).leaveInsert, .edited)
  | some (.replace fill recorded) =>
      match work.overwrite? fill (if count.typed then count.value else recorded) with
      | some next => (next, .edited)
      | none => (work, .ignored)
  | some (.insert entry typed) =>
      ((((work.setGoal none).goToEntry entry).insertText typed).leaveInsert, .edited)

end Workspace

end ModalEditor
