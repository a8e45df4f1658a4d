import ModalEditor.Motion.Basic
import ModalEditor.Motion.Span
import ModalEditor.Motion.Word

namespace ModalEditor

/-!
# Where motions lead

`Motion.span` computes the span that a motion passes over from a cursor.  It
depends only on the lines of the text, the count and the circumstances, and it
changes nothing.
-/

/-- What else a motion may go by. -/
structure Circumstances where
  /-- Whether an operator waits for the motion. -/
  operatorPending : Bool
  /-- The column that vertical motions try to keep to, if it is not that of the
  cursor. -/
  goal : Option GoalColumn
  surroundings : Surroundings
  deriving DecidableEq, Repr, Inhabited

namespace Motion

/-- Number of visible lines assumed when nothing is known of the screen. -/
def defaultScreenLines : Nat := 40

/-- The first character of a line that is not blank, the line taken to be the
last one if there are fewer. -/
def firstNonBlankOf (lines : List Text) (line : Nat) : Position :=
  let line := min line (lastLine lines)
  Position.ofLineColumn lines line (firstNonBlankColumn (lineAt lines line))

/-- Down or up to a line, as close to the goal column as the line allows. -/
def verticalTarget (lines : List Text) (cursor : Position) (goal : Option GoalColumn)
    (line : Nat) : Position :=
  match goal with
  | none => Position.ofLineColumn lines line cursor.column
  | some (.column n) => Position.ofLineColumn lines line n
  | some .lineEnd =>
      Position.ofLineColumn lines line (lineLength lines (min line (lastLine lines)))

/-- First and last visible line. -/
def screenLines (lines : List Text) (screen : Option Geometry) : Nat × Nat :=
  let geometry := screen.getD ⟨0, defaultScreenLines⟩
  let top := min geometry.topLine (lastLine lines)
  (top, min (top + (max geometry.visibleLines 1 - 1)) (lastLine lines))

/-- The start of the word `count` words on.  An operator does not cross the end
of the line that the last of them is on. -/
def wordForwardTarget (lines : List Text) (cursor : Position) (count : Nat)
    (operatorPending : Bool) : Position :=
  let text := joinLines lines
  let target :=
    Position.ofOffsetInLines lines
      (wordsForward text count (min cursor.offset text.length))
  if operatorPending && target.line > cursor.line &&
      target.column ≤ firstNonBlankColumn (lineAt lines target.line) then
    Position.ofLineColumn lines (target.line - 1) (lineLength lines (target.line - 1))
  else target

/-- The start of the word `count` words back. -/
def wordBackwardTarget (lines : List Text) (cursor : Position) (count : Nat) : Position :=
  let text := joinLines lines
  Position.ofOffsetInLines lines
    (wordsBackward text count (min cursor.offset text.length))

/-- The end of the word `count` word ends on. -/
def wordEndTarget (lines : List Text) (cursor : Position) (count : Nat) : Position :=
  let text := joinLines lines
  Position.ofOffsetInLines lines
    (wordEndsForward text count (min cursor.offset text.length))

/-- Goes from match to match with `next`, starting at an offset. -/
def followMatches (next : Nat → Option Match) : Nat → Nat → Nat
  | 0, offset => offset
  | count + 1, offset =>
      match next offset with
      | none => offset
      | some found => followMatches next count found.start

/-- The start of the match `count` matches on or back. -/
def matchTarget (lines : List Text) (cursor : Position) (found : List Match)
    (next : List Match → Nat → Option Match) (count : Nat) : Position :=
  if found.isEmpty then cursor
  else Position.ofOffsetInLines lines (followMatches (next found) count cursor.offset)

/-- Whether the lines are those of the empty text. -/
def isEmptyText (lines : List Text) : Bool :=
  lines.all (·.isEmpty) && lines.length ≤ 1

/-- The place a motion leads to.  There is none for an operator that waits for
a vertical motion which cannot leave its line. -/
def target? (motion : Motion) (lines : List Text) (cursor : Position) (count : Count)
    (circumstances : Circumstances) : Option Position :=
  let n := max count.value 1
  let extra := if count.typed then n - 1 else 0
  let screen := screenLines lines circumstances.surroundings.screen
  let toLine (line : Nat) : Option Position :=
    if line = cursor.line ∧ circumstances.operatorPending then none
    else some (verticalTarget lines cursor circumstances.goal line)
  match motion with
  | .left => some (Position.ofLineColumn lines cursor.line (cursor.column - n))
  | .right =>
      some (Position.ofLineColumn lines cursor.line
        (min (cursor.column + n) (lineLength lines cursor.line)))
  | .down => toLine (min (cursor.line + n) (lastLine lines))
  | .up => toLine (cursor.line - n)
  | .wordForward =>
      some (wordForwardTarget lines cursor n circumstances.operatorPending)
  | .wordBackward => some (wordBackwardTarget lines cursor n)
  | .wordEnd => some (wordEndTarget lines cursor n)
  | .lineStart => some (Position.ofLineColumn lines cursor.line 0)
  | .firstNonBlank =>
      some (Position.ofLineColumn lines cursor.line
        (firstNonBlankColumn (lineAt lines cursor.line)))
  | .lineEnd =>
      let line := min (cursor.line + n - 1) (lastLine lines)
      some (Position.ofLineColumn lines line (lineLength lines line - 1))
  | .fileStart => some (firstNonBlankOf lines extra)
  | .fileEnd =>
      some (firstNonBlankOf lines (if count.typed then n - 1 else lastLine lines))
  | .screenTop => some (firstNonBlankOf lines (min (screen.1 + extra) screen.2))
  | .screenMiddle =>
      some (firstNonBlankOf lines (screen.1 + (screen.2 - screen.1) / 2))
  | .screenBottom => some (firstNonBlankOf lines (max (screen.2 - extra) screen.1))
  | .currentLine =>
      some (Position.ofLineColumn lines (min (cursor.line + n - 1) (lastLine lines))
        cursor.column)
  | .nextMatch =>
      some (matchTarget lines cursor circumstances.surroundings.found Match.nextAfter n)
  | .previousMatch =>
      some (matchTarget lines cursor circumstances.surroundings.found Match.previousBefore n)

/-- The span that a motion passes over.  In an empty text, and where the motion
leads nowhere, it is the empty span at the cursor. -/
def span (motion : Motion) (lines : List Text) (cursor : Position) (count : Count)
    (circumstances : Circumstances) : Span :=
  if isEmptyText lines then Span.empty cursor
  else
    match motion.target? lines cursor count circumstances with
    | none => Span.empty cursor
    | some target =>
        { start :=
            if motion = .currentLine then
              Position.ofLineColumn lines cursor.line cursor.column
            else cursor
          stop := target
          inclusive := motion.isInclusive && lineLength lines target.line > 0
          linewise := motion.isLinewise }

/-- The span that `cw` changes from a character that is not blank: to the end
of the word under the cursor, and on over `count - 1` further word ends. -/
def changeWordSpan (lines : List Text) (cursor : Position) (count : Nat) : Span :=
  let text := joinLines lines
  let start := min cursor.offset text.length
  let stop := wordEndsForward text (max count 1 - 1) (currentWordEnd text start)
  ⟨cursor, Position.ofOffsetInLines lines stop, true, false⟩

end Motion

end ModalEditor
