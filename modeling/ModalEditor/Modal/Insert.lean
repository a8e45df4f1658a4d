import ModalEditor.Modal.Basic

namespace ModalEditor

/-!
# Insert sessions

An insert session starts with an entry or after a change, goes on while text is
typed or taken back, and ends with Escape.  The text typed in it is kept, so
that the command can be repeated.
-/

namespace Workspace

/-- Puts a text in at an offset and moves the cursor to another. -/
def spliceIn (work : Workspace) (offset : Nat) (text : Text) (cursor : Nat) : Workspace :=
  let old := work.buffer.text
  work.rewrite (old.take offset ++ text ++ old.drop offset) cursor

/-- Puts a text in at the cursor, which ends up after it. -/
def insertText (work : Workspace) (text : Text) : Workspace :=
  if text.isEmpty then work
  else
    let offset := work.buffer.cursor.offset
    work.spliceIn offset text (offset + text.length)

/-- Deletes the character before the cursor, if there is one. -/
def deleteBefore? (work : Workspace) : Option Workspace :=
  let offset := work.buffer.cursor.offset
  if offset = 0 then none
  else
    let old := work.buffer.text
    some (work.rewrite (old.take (offset - 1) ++ old.drop offset) (offset - 1))

/-- Starts an insert session. -/
def beginInsert (work : Workspace) (recording : Option Recording) : Workspace :=
  work.enter (.insert recording [])

/-- Moves the cursor to where an entry starts, opening a line if it has to. -/
def goToEntry (work : Workspace) (entry : InsertEntry) : Workspace :=
  let lines := work.buffer.lines
  let cursor := work.buffer.cursor
  let line := min cursor.line (lastLine lines)
  match entry with
  | .beforeCursor => work
  | .afterCursor => work.moveTo (Position.ofLineColumn lines line (cursor.column + 1))
  | .lineStart =>
      work.moveTo (Position.ofLineColumn lines line (firstNonBlankColumn (lineAt lines line)))
  | .lineEnd => work.moveTo (Position.ofLineColumn lines line (lineLength lines line))
  | .openBelow =>
      let offset := offsetAt lines line (lineLength lines line)
      work.spliceIn offset [lineFeed] (offset + 1)
  | .openAbove =>
      let offset := offsetAt lines line 0
      work.spliceIn offset [lineFeed] offset

/-- Starts the insert session of an entry. -/
def enterInsert (work : Workspace) (entry : InsertEntry) : Workspace :=
  ((work.setGoal none).goToEntry entry).beginInsert (some (.insert entry))

/-- Moves the cursor back by one column, as the end of an insert session
does. -/
def stepBack (work : Workspace) : Workspace :=
  let cursor := work.buffer.cursor
  if cursor.column > 0 then
    work.moveTo (Position.ofLineColumn work.buffer.lines cursor.line (cursor.column - 1))
  else work

/-- Ends an insert session without keeping what was typed. -/
def leaveInsert (work : Workspace) : Workspace :=
  (work.enter ModeState.idle).stepBack

/-- Ends an insert session.  The command recorded in it is the one to be
repeated from now on. -/
def finishInsert (work : Workspace) (recording : Option Recording) (typed : Text) :
    Workspace :=
  (recording.elim work fun command => work.remember (command.finish typed)).leaveInsert

/-- A key in Insert mode. -/
def pressInsert (work : Workspace) (recording : Option Recording) (typed : Text) :
    Key → Workspace × KeyOutcome
  | .escape => (work.finishInsert recording typed, .modeChanged .normal)
  | .char c => ((work.enter (.insert recording (typed ++ [c]))).insertText [c], .edited)
  | .enter =>
      ((work.enter (.insert recording (typed ++ [lineFeed]))).insertText [lineFeed], .edited)
  | .backspace =>
      match work.deleteBefore? with
      | some next => (next.enter (.insert recording typed.dropLast), .edited)
      | none => (work, .ignored)
  | .ctrl _ => (work, .ignored)

end Workspace

end ModalEditor
