import ModalEditor.Proofs.Motion.Target

namespace ModalEditor

/-!
# Offsets and coordinates name the same places

An offset is counted along the text, a line and a column along its lines.  Going from
either to the other and back changes nothing, and both put the places of a text in the
same order: one that comes first by its offset is on an earlier line, or on the same line
in an earlier column.  So the two ends of a span are in order by offset exactly if they
are by line and column.
-/

/-- Whether a point comes before another one or is the same, by row first and then by
column. -/
def Point.Precedes (p q : Point) : Prop :=
  p.row < q.row ∨ p.row = q.row ∧ p.column ≤ q.column

/-- A line ends before every later line starts. -/
theorem lineStart_add_lineLength_lt {lines : List Text} {number later : Nat}
    (h : number < later) (hLater : later < lines.length) :
    lineStart lines number + lineLength lines number < lineStart lines later := by
  induction later with
  | zero => omega
  | succ later ih =>
      have hNext := lineStart_succ (show later < lines.length by omega)
      rcases Nat.lt_or_ge number later with hBefore | hSame
      · have hEnds := ih hBefore (by omega)
        omega
      · obtain rfl : number = later := by omega
        omega

namespace Position

variable {text : Text} {p q : Position}

/-- The line and the column of a position. -/
def point (p : Position) : Point := ⟨p.line, p.column⟩

/-- The offset of a position is that of its line and column. -/
theorem IsIn.offsetAt_eq (h : p.IsIn text) :
    offsetAt (splitLines text) p.line p.column = p.offset := by
  obtain ⟨hLine, hColumn, hOffset⟩ := isIn_iff.mp h
  rw [offsetAt_of_le hLine hColumn, hOffset]

/-- A line and a column that exist have the position of their offset. -/
theorem ofLineColumn_eq_ofOffset {number column : Nat}
    (hNumber : number < (splitLines text).length)
    (hColumn : column ≤ lineLength (splitLines text) number) :
    ofLineColumn (splitLines text) number column =
      ofOffset text (lineStart (splitLines text) number + column) := by
  have hIn := isIn_ofLineColumn text number column
  have hOffset : (ofLineColumn (splitLines text) number column).offset =
      lineStart (splitLines text) number + column := by
    rw [ofLineColumn, min_lastLine_of_lt hNumber, Nat.min_eq_left hColumn]
    exact offsetAt_of_le hNumber hColumn
  rwa [IsIn, hOffset] at hIn

/-- Positions of a text are in the same order by offset as by line and column. -/
theorem IsIn.offset_le_offset_iff (hp : p.IsIn text) (hq : q.IsIn text) :
    p.offset ≤ q.offset ↔ p.point.Precedes q.point := by
  obtain ⟨hpLine, hpColumn, hpOffset⟩ := isIn_iff.mp hp
  obtain ⟨hqLine, hqColumn, hqOffset⟩ := isIn_iff.mp hq
  simp only [Point.Precedes, point]
  rcases Nat.lt_trichotomy p.line q.line with hBefore | hSame | hAfter
  · have hEnds := lineStart_add_lineLength_lt hBefore hqLine
    omega
  · rw [hSame] at hpOffset
    omega
  · have hEnds := lineStart_add_lineLength_lt hAfter hpLine
    omega

/-- From an offset of the text to its point and back. -/
theorem offsetAt_pointAt {offset : Nat} (h : offset ≤ text.length) :
    offsetAt (splitLines text) (pointAt text offset).row (pointAt text offset).column =
      offset := by
  have hIn := (isIn_ofOffset text offset).offsetAt_eq
  rwa [ofOffset_offset, Nat.min_eq_left h] at hIn

/-- Offsets of the text are in the same order as their points. -/
theorem le_iff_pointAt_precedes {first second : Nat} (hFirst : first ≤ text.length)
    (hSecond : second ≤ text.length) :
    first ≤ second ↔ (pointAt text first).Precedes (pointAt text second) := by
  have hOrder := (isIn_ofOffset text first).offset_le_offset_iff (isIn_ofOffset text second)
  rwa [ofOffset_offset, ofOffset_offset, Nat.min_eq_left hFirst, Nat.min_eq_left hSecond]
    at hOrder

end Position

namespace Span

variable {text : Text} {span : Span}

/-- Of the two ends of a span, the one with the lesser offset comes first by line and
column. -/
theorem IsIn.ordered_precedes (h : span.IsIn text) :
    span.ordered.1.point.Precedes span.ordered.2.point := by
  rw [ordered]
  by_cases hOrder : span.start.offset ≤ span.stop.offset
  · rw [if_pos hOrder]
    exact (h.start.offset_le_offset_iff h.stop).mp hOrder
  · rw [if_neg hOrder]
    exact (h.stop.offset_le_offset_iff h.start).mp (Nat.le_of_not_le hOrder)

/-- The first and the last line of a span are those of its ends, ordered by offset. -/
theorem IsIn.lines_eq (h : span.IsIn text) :
    span.lines = (span.ordered.1.line, span.ordered.2.line) := by
  have hPoints := h.ordered_precedes
  have hLine : span.ordered.1.line ≤ span.ordered.2.line := by
    simp only [Point.Precedes, Position.point] at hPoints
    omega
  rw [lines]
  rw [ordered] at hLine ⊢
  by_cases hOrder : span.start.offset ≤ span.stop.offset
  · rw [if_pos hOrder] at hLine ⊢
    rw [Nat.min_eq_left hLine, Nat.max_eq_right hLine]
  · rw [if_neg hOrder] at hLine ⊢
    rw [Nat.min_eq_right hLine, Nat.max_eq_left hLine]

end Span

/-- The point of an offset leads back to the offset.  The position of a line and a column,
however large, is that of its offset.  Offsets are in the same order as their points, so a
span between two of them has the end that comes first by offset on its first line, and the
other end on its last. -/
theorem offsets_and_coordinates_correspond (text : Text) :
    (∀ offset ≤ text.length,
        offsetAt (splitLines text) (pointAt text offset).row (pointAt text offset).column =
          offset) ∧
      (∀ line column,
        let p := Position.ofLineColumn (splitLines text) line column
        Position.ofOffset text p.offset = p) ∧
      (∀ first ≤ text.length, ∀ second ≤ text.length,
        first ≤ second ↔ (pointAt text first).Precedes (pointAt text second)) ∧
      ∀ start ≤ text.length, ∀ stop ≤ text.length, ∀ inclusive linewise,
        let span : Span :=
          ⟨Position.ofOffset text start, Position.ofOffset text stop, inclusive, linewise⟩
        span.lines = (span.ordered.1.line, span.ordered.2.line) ∧
          span.ordered.1.point.Precedes span.ordered.2.point := by
  refine ⟨fun offset h => Position.offsetAt_pointAt h, ?_, ?_, ?_⟩
  · intro line column
    exact (Position.isIn_ofLineColumn text line column).symm
  · intro first hFirst second hSecond
    exact Position.le_iff_pointAt_precedes hFirst hSecond
  · intro start _ stop _ inclusive linewise span
    have hSpan : span.IsIn text :=
      ⟨Position.isIn_ofOffset text start, Position.isIn_ofOffset text stop⟩
    exact ⟨hSpan.lines_eq, hSpan.ordered_precedes⟩

end ModalEditor
