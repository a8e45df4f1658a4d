import ModalEditor.Modal.Press

namespace ModalEditor

/-!
# An engine of slots

The state of an engine says in full what its mode holds, so nothing can be left over from
another mode.  Here the same engine is kept in slots that stand side by side, any of which
could be full in any mode.  A key writes into the slots one by one: it takes the counts,
takes the operator, clears what was pending, opens and closes the command line, and runs
the last command again by running the handlers of the keys themselves.  Nothing in these
definitions keeps the slots in agreement, which makes it worth a proof that they are.
-/

/-- What an engine holds, one slot beside the other. -/
structure Slots where
  mode : Mode
  /-- The count typed first. -/
  count : Option Nat
  /-- The count typed after an operator. -/
  operatorCount : Option Nat
  operator : Option Operator
  /-- Whether `g` was typed last. -/
  afterG : Bool
  /-- Whether the next character takes the place of others. -/
  awaitsReplacement : Bool
  /-- Where the selection was started. -/
  anchor : Option Position
  prompt : Option Prompt
  /-- What was typed at the prompt. -/
  command : Text
  /-- The column kept by vertical motions. -/
  goal : Option GoalColumn
  lastCommand : Option Repeatable
  /-- The command whose text is still being typed. -/
  recording : Option Recording
  /-- The text typed in the insert session. -/
  typed : Text
  /-- Whether the last command is being run again. -/
  repeats : Bool
  deriving DecidableEq, Repr

namespace Slots

/-- The slots before the first key. -/
def fresh : Slots :=
  { mode := .normal, count := none, operatorCount := none, operator := none, afterG := false,
    awaitsReplacement := false, anchor := none, prompt := none, command := [], goal := none,
    lastCommand := none, recording := none, typed := [], repeats := false }

/-- Whether part of a command waits for more keys. -/
def isPending (slots : Slots) : Bool :=
  slots.count.isSome || slots.operatorCount.isSome || slots.operator.isSome ||
    slots.afterG || slots.awaitsReplacement

/-- The slots with nothing pending. -/
def clearPending (slots : Slots) : Slots :=
  { slots with
    count := none, operatorCount := none, operator := none, afterG := false,
    awaitsReplacement := false }

/-- Both counts multiplied. -/
def total (slots : Slots) : Count :=
  ⟨max 1 (min (slots.count.getD 1 * slots.operatorCount.getD 1) maxCount),
    slots.count.isSome || slots.operatorCount.isSome⟩

/-- The slots with both counts taken. -/
def clearCounts (slots : Slots) : Slots :=
  { slots with count := none, operatorCount := none }

/-- The slots with one more digit, unless the key is not one.  It goes to the count of the
operator, once there is an operator. -/
def withDigit? (slots : Slots) (c : Char) : Option Slots :=
  (digitValue? c).bind fun digit =>
    if slots.operator.isSome then
      (extendCount? slots.operatorCount digit).map fun count =>
        { slots with operatorCount := some count }
    else
      (extendCount? slots.count digit).map fun count => { slots with count := some count }

/-- Leaves Visual mode. -/
def endSelection (slots : Slots) : Slots :=
  { slots with anchor := none, mode := .normal }

/-- Leaves the command line. -/
def closePrompt (slots : Slots) : Slots :=
  { slots with prompt := none, command := [], mode := .normal }

/-- Starts an insert session.  Nothing is recorded while a command is run again. -/
def beginInsert (slots : Slots) (recording : Option Recording) : Slots :=
  { slots with
    mode := .insert, typed := [], recording := if slots.repeats then none else recording }

/-- Ends an insert session.  If a command was recorded, it is the one to be repeated. -/
def finishInsert (slots : Slots) : Slots :=
  { slots with
    lastCommand :=
      slots.recording.elim slots.lastCommand fun command => some (command.finish slots.typed)
    recording := none, typed := [], mode := .normal }

/-- Makes a command the one to be repeated, unless it is one that is run again. -/
def remember (slots : Slots) (command : Repeatable) : Slots :=
  if slots.repeats then slots else { slots with lastCommand := some command }

end Slots

/-- A buffer edited by an engine of slots, with its register. -/
structure Board where
  slots : Slots
  buffer : Buffer
  register : Register
  deriving DecidableEq, Repr

namespace Board

/-- A board before the first key. -/
def ofBuffer (buffer : Buffer) : Board :=
  ⟨Slots.fresh, buffer, Register.empty⟩

/-- The board as a workspace whose engine keeps the goal column only.  This is what
motions, operators and insertions need. -/
def desk (board : Board) : Workspace :=
  ⟨⟨ModeState.idle, board.slots.goal, none⟩, board.buffer, board.register⟩

/-- Takes over what was done at the desk. -/
def adopt (board : Board) (work : Workspace) : Board :=
  ⟨{ board.slots with goal := work.engine.goal }, work.buffer, work.register⟩

/-- Does something at the desk. -/
def edit (board : Board) (change : Workspace → Workspace) : Board :=
  board.adopt (change board.desk)

/-- Writes into slots. -/
def update (board : Board) (write : Slots → Slots) : Board :=
  { board with slots := write board.slots }

/-! ## Commands -/

/-- Goes on without a command. -/
def cancel (board : Board) : Board × KeyOutcome :=
  if board.slots.isPending then (board.update Slots.clearPending, .cancelled)
  else (board, .ignored)

/-- Escape outside of insert sessions and of the command line. -/
def escape (board : Board) : Board × KeyOutcome :=
  let cleared := board.update Slots.clearPending
  if board.slots.mode = .visual then (cleared.update Slots.endSelection, .modeChanged .normal)
  else (cleared, if board.slots.isPending then .cancelled else .ignored)

/-- Ends an insert session and steps back. -/
def finishInsert (board : Board) : Board :=
  (board.update Slots.finishInsert).edit Workspace.stepBack

/-- Runs an operator over a motion.  After a change the text that replaces the old one is
typed. -/
def runOperator (board : Board) (surroundings : Surroundings) (operator : Operator)
    (motion : Motion) (count : Count) : Board × KeyOutcome :=
  let (work, run) := board.desk.runOperator surroundings operator motion count
  let board := board.adopt work
  if run = .blocked then (board, run.outcome)
  else if operator.entersInsert then
    (board.update (·.beginInsert (some (.change motion count))), .modeChanged .insert)
  else if run ≠ .idle ∧ operator.isRepeatable then
    (board.update (·.remember (.operate operator motion count)), run.outcome)
  else (board, run.outcome)

/-- Runs a motion, or the operator that waits for it. -/
def runMotion (board : Board) (surroundings : Surroundings) (motion : Motion) :
    Board × KeyOutcome :=
  let count := board.slots.total
  let cleared := board.update Slots.clearPending
  match board.slots.operator with
  | some operator => cleared.runOperator surroundings operator motion count
  | none => (cleared.edit (·.move surroundings motion count), .moved)

/-- Runs an operator over a motion that has a key together with it. -/
def runShorthand (board : Board) (surroundings : Surroundings) (operator : Operator)
    (motion : Motion) : Board × KeyOutcome :=
  (board.update Slots.clearPending).runOperator surroundings operator motion board.slots.total

/-- Runs an operator on the selection and leaves Visual mode. -/
def runSelected (board : Board) (operator : Operator) : Board × KeyOutcome :=
  let anchor := board.slots.anchor.getD board.buffer.settled.cursor
  let board := (board.update Slots.clearPending).update Slots.endSelection
  let board := board.edit fun work => (work.operateOnSelection anchor operator).1
  if operator.entersInsert then (board.update (·.beginInsert none), .modeChanged .insert)
  else (board, .modeChanged .normal)

/-- Overwrites characters. -/
def runReplace (board : Board) (fill : Char) (count : Nat) : Board × KeyOutcome :=
  match board.desk.overwrite? fill count with
  | none => (board, .ignored)
  | some work => ((board.adopt work).update (·.remember (.replace fill count)), .edited)

/-- Starts the insert session of an entry. -/
def enterInsert (board : Board) (entry : InsertEntry) : Board × KeyOutcome :=
  let board := board.edit fun work => (work.setGoal none).goToEntry entry
  (board.update (·.beginInsert (some (.insert entry))), .modeChanged .insert)

/-- Types the text of a change that is run again, if it started an insert session. -/
def typeAgain (result : Board × KeyOutcome) (text : Text) : Board × KeyOutcome :=
  if result.1.slots.mode = .insert then
    ((result.1.edit (·.insertText text)).finishInsert, .edited)
  else result

/-- Runs a command again.  A count typed now takes the place of the one typed then. -/
def replay (board : Board) (surroundings : Surroundings) (count : Count) :
    Repeatable → Board × KeyOutcome
  | .operate operator motion recorded =>
      typeAgain (board.runOperator surroundings operator motion
        (if count.typed then count else recorded)) []
  | .change motion recorded typed =>
      typeAgain (board.runOperator surroundings .change motion
        (if count.typed then count else recorded)) typed
  | .replace fill recorded => board.runReplace fill (if count.typed then count.value else recorded)
  | .insert entry typed =>
      (((board.enterInsert entry).1.edit (·.insertText typed)).finishInsert, .edited)

/-- Runs the last command again. -/
def repeatLast (board : Board) (surroundings : Surroundings) : Board × KeyOutcome :=
  let count := board.slots.total
  let board := board.update Slots.clearPending
  match board.slots.lastCommand with
  | none => (board, .ignored)
  | some command =>
      let (after, outcome) :=
        (board.update ({ · with repeats := true })).replay surroundings count command
      (after.update ({ · with repeats := false }), outcome)

/-- Opens the command line. -/
def openPrompt (board : Board) (prompt : Prompt) : Board × KeyOutcome :=
  (board.update fun slots =>
      { slots.clearPending with
        anchor := none, prompt := some prompt, command := [], mode := .commandLine },
    .modeChanged .commandLine)

/-! ## Keys -/

/-- A key in Insert mode. -/
def pressInsert (board : Board) : Key → Board × KeyOutcome
  | .escape => (board.finishInsert, .modeChanged .normal)
  | .char c =>
      ((board.update fun slots => { slots with typed := slots.typed ++ [c] }).edit
        (·.insertText [c]), .edited)
  | .enter =>
      ((board.update fun slots => { slots with typed := slots.typed ++ [lineFeed] }).edit
        (·.insertText [lineFeed]), .edited)
  | .backspace =>
      match board.desk.deleteBefore? with
      | none => (board, .ignored)
      | some work =>
          ((board.adopt work).update fun slots => { slots with typed := slots.typed.dropLast },
            .edited)
  | .ctrl _ => (board, .ignored)

/-- A key on the command line. -/
def pressPrompt (board : Board) : Key → Board × KeyOutcome
  | .escape => (board.update Slots.closePrompt, .modeChanged .normal)
  | .backspace =>
      if board.slots.command.isEmpty then
        (board.update Slots.closePrompt, .modeChanged .normal)
      else
        (board.update fun slots => { slots with command := slots.command.dropLast }, .pending)
  | .char c => (board.update fun slots => { slots with command := slots.command ++ [c] }, .pending)
  | .enter =>
      let text := board.slots.command
      let closed := board.update Slots.closePrompt
      match board.slots.prompt with
      | some .search => (closed, .search text)
      | _ =>
          let (work, outcome) := closed.desk.runTyped text
          (closed.adopt work, outcome)
  | .ctrl _ => (board, .ignored)

/-- A character of Visual mode that is no digit, no motion and no operator. -/
def pressSelecting (board : Board) (c : Char) : Board × KeyOutcome :=
  if c = 'v' then
    ((board.update Slots.clearPending).update Slots.endSelection, .modeChanged .normal)
  else if c = 'x' then board.runSelected .delete
  else
    match Prompt.ofKey? c with
    | some prompt => board.openPrompt prompt
    | none => board.cancel

/-- A character of Normal mode that is no digit, no motion and no operator. -/
def pressCommand (board : Board) (surroundings : Surroundings) (c : Char) : Board × KeyOutcome :=
  match c with
  | 'x' => board.runShorthand surroundings .delete .right
  | 'D' => board.runShorthand surroundings .delete .lineEnd
  | 'C' => board.runShorthand surroundings .change .lineEnd
  | 'r' => (board.update ({ · with awaitsReplacement := true }), .pending)
  | 'v' =>
      (board.update fun slots =>
          { slots.clearPending with anchor := some board.buffer.cursor, mode := .visual },
        .modeChanged .visual)
  | '.' => board.repeatLast surroundings
  | 'u' => (board.update Slots.clearPending, .undo)
  | _ =>
      match Prompt.ofKey? c, InsertEntry.ofKey? c with
      | some prompt, _ => board.openPrompt prompt
      | none, some entry => (board.update Slots.clearPending).enterInsert entry
      | none, none => board.cancel

/-- A character in Normal and Visual mode. -/
def pressChar (board : Board) (surroundings : Surroundings) (c : Char) : Board × KeyOutcome :=
  if board.slots.afterG then
    let board := board.update ({ · with afterG := false })
    if c = 'g' then board.runMotion surroundings .fileStart else board.cancel
  else
    match board.slots.withDigit? c with
    | some slots => ({ board with slots }, .pending)
    | none =>
        if c = 'g' then (board.update ({ · with afterG := true }), .pending)
        else
          match board.slots.operator, Motion.ofKey? c, Operator.ofKey? c with
          | some operator, motion, _ =>
              if c = operator.key then board.runMotion surroundings .currentLine
              else
                match motion with
                | some motion => board.runMotion surroundings motion
                | none => board.cancel
          | none, some motion, _ => board.runMotion surroundings motion
          | none, none, some operator =>
              if board.slots.mode = .visual then board.runSelected operator
              else (board.update ({ · with operator := some operator }), .pending)
          | none, none, none =>
              if board.slots.mode = .visual then board.pressSelecting c
              else board.pressCommand surroundings c

/-- The character that takes the place of others. -/
def pressReplacement (board : Board) (fill : Char) : Board × KeyOutcome :=
  (board.update Slots.clearCounts).runReplace fill board.slots.total.value

/-- A key in Normal and Visual mode. -/
def pressNormal (board : Board) (surroundings : Surroundings) (key : Key) : Board × KeyOutcome :=
  if key = .escape then board.escape
  else if board.slots.awaitsReplacement then
    let board := board.update ({ · with awaitsReplacement := false })
    match key with
    | .char c => board.pressReplacement c
    | .enter => board.pressReplacement lineFeed
    | _ => board.cancel
  else
    match key with
    | .char c => board.pressChar surroundings c
    | key =>
        if key = .ctrl 'r' ∧ board.slots.mode = .normal ∧ !board.slots.isPending then
          (board, .redo)
        else board.cancel

/-- Puts the cursor on a character, as long as the mode is Normal or Visual. -/
def settle (result : Board × KeyOutcome) : Board × KeyOutcome :=
  match result.1.slots.mode with
  | .normal | .visual => (result.1.edit Workspace.clampCursor, result.2)
  | .insert | .commandLine => result

/-- One key. -/
def press (board : Board) (surroundings : Surroundings) (key : Key) : Board × KeyOutcome :=
  match board.slots.mode with
  | .insert => board.pressInsert key
  | .commandLine => board.pressPrompt key
  | .normal | .visual => settle (board.pressNormal surroundings key)

/-- Keys in order, each in its own surroundings. -/
def pressAll (board : Board) (keys : List (Surroundings × Key)) : Board :=
  keys.foldl (fun board key => (board.press key.1 key.2).1) board

end Board

end ModalEditor
