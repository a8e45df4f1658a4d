import ModalEditor.Buffer
import ModalEditor.Motion.Span
import ModalEditor.Register
import ModalEditor.Text.Blank

namespace ModalEditor

/-!
# Operators

An operator acts on a span of a buffer.  Running one is a computation: it
yields the new text, the new cursor and what goes to the register, and only
`OperatorOutcome.applyTo` puts them into place.
-/

/-- An operator. -/
inductive Operator where
  | delete
  | yank
  | change
  | indent
  | outdent
  /-- Overwrite characters with the given one. -/
  | replace (fill : Char)
  deriving DecidableEq, Repr, Inhabited

namespace Operator

/-- The operator that a key starts.  Replacing is not among them, since it
takes a character and no motion. -/
def ofKey? : Char → Option Operator
  | 'd' => some .delete
  | 'y' => some .yank
  | 'c' => some .change
  | '>' => some .indent
  | '<' => some .outdent
  | _ => none

/-- The key of an operator.  Typed twice it acts on the current line. -/
def key : Operator → Char
  | .delete => 'd'
  | .yank => 'y'
  | .change => 'c'
  | .indent => '>'
  | .outdent => '<'
  | .replace _ => 'r'

/-- Whether the operator can be repeated. -/
def isRepeatable : Operator → Bool
  | .yank => false
  | _ => true

/-- Whether text is typed after the operator. -/
def entersInsert : Operator → Bool
  | .change => true
  | _ => false

end Operator

/-- What an operator does. -/
structure OperatorOutcome where
  /-- The new text, none when the text stays as it is. -/
  text : Option Text
  cursor : Position
  write : Option RegisterWrite
  deriving DecidableEq, Repr, Inhabited

namespace OperatorOutcome

/-- Carries an outcome out on a buffer and a register. -/
def applyTo (outcome : OperatorOutcome) (buffer : Buffer) (register : Register) :
    Buffer × Register :=
  let buffer := outcome.text.elim buffer buffer.replaceText
  (buffer.moveTo outcome.cursor, outcome.write.elim register register.write)

end OperatorOutcome

namespace Operator

/-- Offsets of the first character of a characterwise span and of the one after
its last. -/
def charSpan (text : Text) (span : Span) : Nat × Nat :=
  let (first, last) := span.ordered
  (first.offset, min (last.offset + if span.inclusive then 1 else 0) text.length)

/-- First and last line of a linewise span, cut at the last line. -/
def lineSpan (lines : List Text) (span : Span) : Nat × Nat :=
  let (first, last) := span.lines
  (min first (lastLine lines), min last (lastLine lines))

/-- The characters from one offset up to another. -/
def slice (text : Text) (first stop : Nat) : Text :=
  (text.take stop).drop first

/-- The lines of a linewise span, as they go to the register. -/
def linesWrite (lines : List Text) (first last : Nat) : RegisterWrite :=
  ⟨wholeLinesText ((lines.take (last + 1)).drop first), true⟩

/-- Deletes characters. -/
def deleteChars (buffer : Buffer) (span : Span) : Option OperatorOutcome :=
  let (first, stop) := charSpan buffer.text span
  if first ≥ stop then none
  else
    let text := buffer.text.take first ++ buffer.text.drop stop
    some
      { text := some text
        cursor := Position.ofOffset text first
        write := some ⟨slice buffer.text first stop, false⟩ }

/-- Deletes whole lines and puts the lines `left` in their place. -/
def deleteLines (buffer : Buffer) (span : Span) (left : List Text) : OperatorOutcome :=
  let lines := buffer.lines
  let (first, last) := lineSpan lines span
  let remaining := lines.take first ++ left ++ lines.drop (last + 1)
  let write := some (linesWrite lines first last)
  if remaining.isEmpty then ⟨some [], Position.origin, write⟩
  else
    let line := min first (lastLine remaining)
    ⟨some (joinLines remaining), ⟨line, 0, lineStart remaining line⟩, write⟩

/-- Copies a span to the register.  The cursor goes to the end of the span that
comes first. -/
def yankSpan (buffer : Buffer) (span : Span) : Option OperatorOutcome :=
  let cursor := span.ordered.1
  if span.linewise then
    let lines := buffer.lines
    let (first, last) := lineSpan lines span
    some ⟨none, cursor, some (linesWrite lines first last)⟩
  else
    let (first, stop) := charSpan buffer.text span
    if first ≥ stop then none
    else some ⟨none, cursor, some ⟨slice buffer.text first stop, false⟩⟩

/-- A line without one level of indentation: a tab, or as many leading spaces
as there are up to the width of a tab stop. -/
def outdentLine (tabSize : Nat) : Text → Text
  | '\t' :: rest => rest
  | line => line.drop ((line.take tabSize).takeWhile (· == ' ')).length

/-- A line with one more level of indentation. -/
def indentLine (tabSize : Nat) (line : Text) : Text :=
  List.replicate tabSize ' ' ++ line

/-- Changes the indentation of the lines of a span.  There is no outcome when
no line changes. -/
def shiftLines (buffer : Buffer) (span : Span) (shift : Text → Text) :
    Option OperatorOutcome :=
  let lines := buffer.lines
  let (first, last) := lineSpan lines span
  let shifted :=
    lines.mapIdx fun i line => if first ≤ i ∧ i ≤ last then shift line else line
  if shifted = lines then none
  else
    some
      { text := some (joinLines shifted)
        cursor :=
          Position.ofLineColumn shifted first (firstNonBlankColumn (lineAt shifted first))
        write := none }

/-- Overwrites `count` characters from a position on.  They have to be on its
line.  A line feed takes the place of all of them together. -/
def replaceChars (buffer : Buffer) (start : Position) (count : Nat) (fill : Char) :
    Option OperatorOutcome :=
  let remaining := lineLength buffer.lines start.line - start.column
  if start.offset ≥ buffer.text.length ∨ remaining = 0 ∨ count > remaining then none
  else
    let filling := if fill = lineFeed then [lineFeed] else List.replicate count fill
    let text :=
      buffer.text.take start.offset ++ filling ++ buffer.text.drop (start.offset + count)
    let cursor := if fill = lineFeed then start.offset + 1 else start.offset + count - 1
    some
      { text := some text
        cursor := Position.ofOffset text cursor
        write := some ⟨slice buffer.text start.offset (start.offset + count), false⟩ }

/-- Runs an operator on a span of a buffer.  There is no outcome when nothing
is to be done. -/
def apply (operator : Operator) (buffer : Buffer) (span : Span) (count : Nat) :
    Option OperatorOutcome :=
  if buffer.text.isEmpty then none
  else
    match operator with
    | .delete =>
        if span.linewise then some (deleteLines buffer span []) else deleteChars buffer span
    | .change =>
        if span.linewise then some (deleteLines buffer span [[]])
        else deleteChars buffer span
    | .yank => yankSpan buffer span
    | .indent =>
        if span.linewise then shiftLines buffer span (indentLine buffer.tabSize) else none
    | .outdent =>
        if span.linewise then shiftLines buffer span (outdentLine buffer.tabSize) else none
    | .replace fill =>
        if span.linewise then none
        else replaceChars buffer span.ordered.1 (max count 1) fill

end Operator

end ModalEditor
