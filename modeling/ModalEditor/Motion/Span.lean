import ModalEditor.Text.Position

namespace ModalEditor

/-!
# Spans

A span is what a motion passes over and what an operator acts on: the stretch
between two positions, which may come in either order.
-/

/-- The stretch from `start` to `stop`. -/
structure Span where
  start : Position
  stop : Position
  /-- Whether the character under the farther end belongs to the span. -/
  inclusive : Bool
  /-- Whether the span stands for all lines it touches. -/
  linewise : Bool
  deriving DecidableEq, Repr, Inhabited

namespace Span

/-- The empty span at a position. -/
def empty (position : Position) : Span :=
  ⟨position, position, false, false⟩

/-- The two ends in the order of their offsets. -/
def ordered (span : Span) : Position × Position :=
  if span.start.offset ≤ span.stop.offset then (span.start, span.stop)
  else (span.stop, span.start)

/-- First and last line that the span touches. -/
def lines (span : Span) : Nat × Nat :=
  (min span.start.line span.stop.line, max span.start.line span.stop.line)

end Span

end ModalEditor
