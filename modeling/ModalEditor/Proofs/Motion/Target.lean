import ModalEditor.Motion.Target
import ModalEditor.Proofs.Text.Position

namespace ModalEditor

/-!
# Motions stay in the text

Whatever the count, the screen, the matches and the goal column are, a motion
from a position of a text leads to a position of that text.
-/

/-- Whether both ends of a span are positions of a text. -/
structure Span.IsIn (span : Span) (text : Text) : Prop where
  start : span.start.IsIn text
  stop : span.stop.IsIn text

namespace Span

theorem isIn_empty {position : Position} {text : Text} (h : position.IsIn text) :
    (empty position).IsIn text := ⟨h, h⟩

/-- The end that comes first is one of the two. -/
theorem IsIn.ordered_fst {span : Span} {text : Text} (h : span.IsIn text) :
    span.ordered.1.IsIn text := by
  rw [ordered]
  split
  · exact h.start
  · exact h.stop

end Span

namespace Motion

variable {text : Text} {cursor : Position}

/-- A text with characters has not just one empty line. -/
theorem isEmptyText_splitLines {text : Text} (h : text ≠ []) :
    isEmptyText (splitLines text) = false := by
  have hJoined := joinLines_splitLines text
  have hSome := splitLines_ne_nil text
  match hLines : splitLines text with
  | [] => exact absurd hLines hSome
  | [line] =>
      have hLine : line ≠ [] := by
        rintro rfl
        rw [hLines] at hJoined
        exact h hJoined.symm
      simp [isEmptyText, hLine]
  | first :: second :: rest => simp [isEmptyText]

theorem isIn_verticalTarget (goal : Option GoalColumn) (line : Nat) :
    (verticalTarget (splitLines text) cursor goal line).IsIn text := by
  cases goal with
  | none => exact Position.isIn_ofLineColumn _ _ _
  | some goal =>
      cases goal with
      | column n => exact Position.isIn_ofLineColumn _ _ _
      | lineEnd => exact Position.isIn_ofLineColumn _ _ _

@[simp]
theorem isIn_firstNonBlankOf (line : Nat) :
    (firstNonBlankOf (splitLines text) line).IsIn text :=
  Position.isIn_ofLineColumn _ _ _

theorem isIn_wordForwardTarget (count : Nat) (operatorPending : Bool) :
    (wordForwardTarget (splitLines text) cursor count operatorPending).IsIn text := by
  simp only [wordForwardTarget]
  split
  · exact Position.isIn_ofLineColumn _ _ _
  · exact Position.isIn_ofOffsetInLines _ _

theorem isIn_matchTarget (h : cursor.IsIn text) (found : List Match)
    (next : List Match → Nat → Option Match) (count : Nat) :
    (matchTarget (splitLines text) cursor found next count).IsIn text := by
  rw [matchTarget]
  split
  · exact h
  · exact Position.isIn_ofOffsetInLines _ _

/-- The place a motion leads to is a position of the text. -/
theorem isIn_of_target? {motion : Motion} {count : Count} {circumstances : Circumstances}
    {target : Position} (h : cursor.IsIn text)
    (hTarget : motion.target? (splitLines text) cursor count circumstances = some target) :
    target.IsIn text := by
  -- Going up and going down differ in the line only.
  have hVertical {line : Nat} :
      (if line = cursor.line ∧ circumstances.operatorPending = true then none
        else some (verticalTarget (splitLines text) cursor circumstances.goal line)) =
          some target → target.IsIn text := by
    intro hLine
    split at hLine
    · cases hLine
    · cases hLine
      exact isIn_verticalTarget circumstances.goal line
  cases motion with
  | down => exact hVertical hTarget
  | up => exact hVertical hTarget
  | left | right | lineStart | firstNonBlank | lineEnd | currentLine =>
      cases hTarget
      exact Position.isIn_ofLineColumn _ _ _
  | fileStart | fileEnd | screenTop | screenMiddle | screenBottom =>
      cases hTarget
      exact isIn_firstNonBlankOf _
  | wordForward =>
      cases hTarget
      exact isIn_wordForwardTarget _ _
  | wordBackward | wordEnd =>
      cases hTarget
      exact Position.isIn_ofOffsetInLines _ _
  | nextMatch | previousMatch =>
      cases hTarget
      exact isIn_matchTarget h _ _ _

/-- The span of a motion lies in the text. -/
theorem isIn_span (h : cursor.IsIn text) (motion : Motion) (count : Count)
    (circumstances : Circumstances) :
    (motion.span (splitLines text) cursor count circumstances).IsIn text := by
  rw [span]
  split
  · exact Span.isIn_empty h
  · cases hTarget : motion.target? (splitLines text) cursor count circumstances with
    | none => exact Span.isIn_empty h
    | some target =>
        refine ⟨?_, isIn_of_target? h hTarget⟩
        show Position.IsIn (if motion = .currentLine then _ else cursor) text
        split
        · exact Position.isIn_ofLineColumn _ _ _
        · exact h

theorem isIn_changeWordSpan (h : cursor.IsIn text) (count : Nat) :
    (changeWordSpan (splitLines text) cursor count).IsIn text :=
  ⟨h, Position.isIn_ofOffsetInLines _ _⟩

end Motion

end ModalEditor
