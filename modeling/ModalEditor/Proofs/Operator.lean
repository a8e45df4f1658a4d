import ModalEditor.Operator
import ModalEditor.Proofs.Buffer
import ModalEditor.Proofs.Motion.Target

namespace ModalEditor

/-!
# Operators leave the cursor in the text

The cursor of an outcome is a position of the text that the outcome leaves, when
the span that the operator acted on was one of the old text.
-/

/-- Whether the cursor of an outcome is a position of the text after it, where
`old` is the text before. -/
def OperatorOutcome.Coherent (outcome : OperatorOutcome) (old : Text) : Prop :=
  outcome.cursor.IsIn (outcome.text.getD old)

theorem OperatorOutcome.coherent_applyTo {outcome : OperatorOutcome} {buffer : Buffer}
    (h : outcome.Coherent buffer.text) (register : Register) :
    (outcome.applyTo buffer register).1.Coherent := by
  obtain ⟨text, cursor, write⟩ := outcome
  cases text with
  | none => exact h
  | some text =>
      show Position.IsIn cursor (buffer.replaceText text).text
      rw [Buffer.replaceText_text]
      exact h

namespace Operator

variable {buffer : Buffer} {span : Span}

theorem coherent_of_deleteChars {outcome : OperatorOutcome}
    (h : deleteChars buffer span = some outcome) : outcome.Coherent buffer.text := by
  simp only [deleteChars] at h
  split at h
  · cases h
  · cases h
    exact Position.isIn_ofOffset _ _

/-- What is left of the lines when those from one to another give way to others. -/
def remainingLines (lines : List Text) (first last : Nat) (left : List Text) : List Text :=
  lines.take first ++ left ++ lines.drop (last + 1)

/-- Where any lines remain, they are lines of the text and those put in their place. -/
theorem areLines_remainingLines (text : Text) (first last : Nat) {left : List Text}
    (hLeft : ∀ line ∈ left, lineFeed ∉ line)
    (hSome : remainingLines (splitLines text) first last left ≠ []) :
    AreLines (remainingLines (splitLines text) first last left) := by
  refine ⟨hSome, fun line hLine => ?_⟩
  have hOld := (areLines_splitLines text).noFeed
  rw [remainingLines, List.mem_append, List.mem_append] at hLine
  rcases hLine with (hAbove | hOpen) | hBelow
  · exact hOld line (List.mem_of_mem_take hAbove)
  · exact hLeft line hOpen
  · exact hOld line (List.mem_of_mem_drop hBelow)

/-- Deleting lines leaves the cursor at the start of a line that is left. -/
theorem coherent_deleteLines (span : Span) {left : List Text}
    (hLeft : ∀ line ∈ left, lineFeed ∉ line) :
    (deleteLines buffer span left).Coherent buffer.text := by
  simp only [deleteLines, ← remainingLines.eq_1]
  split
  · exact Position.isIn_origin []
  · next hSome =>
      have hRemaining := areLines_remainingLines buffer.text (lineSpan buffer.lines span).1
        (lineSpan buffer.lines span).2 hLeft fun hNil => hSome (List.isEmpty_iff.mpr hNil)
      exact Position.isIn_lineStart hRemaining
        (Position.min_lastLine_lt hRemaining.ne_nil _)

theorem coherent_of_yankSpan (hSpan : span.IsIn buffer.text) {outcome : OperatorOutcome}
    (h : yankSpan buffer span = some outcome) : outcome.Coherent buffer.text := by
  simp only [yankSpan] at h
  split at h
  · cases h
    exact hSpan.ordered_fst
  · split at h
    · cases h
    · cases h
      exact hSpan.ordered_fst

theorem noFeed_indentLine (tabSize : Nat) {line : Text} (h : lineFeed ∉ line) :
    lineFeed ∉ indentLine tabSize line := by
  intro hFeed
  rcases List.mem_append.mp hFeed with hPad | hLine
  · exact absurd (List.eq_of_mem_replicate hPad) (by decide)
  · exact h hLine

theorem noFeed_outdentLine (tabSize : Nat) {line : Text} (h : lineFeed ∉ line) :
    lineFeed ∉ outdentLine tabSize line := by
  rw [outdentLine.eq_def]
  split
  · exact List.not_mem_of_not_mem_cons h
  · exact fun hFeed => h (List.mem_of_mem_drop hFeed)

/-- The lines with those from one to another shifted. -/
def shiftedLines (lines : List Text) (first last : Nat) (shift : Text → Text) : List Text :=
  lines.mapIdx fun i line => if first ≤ i ∧ i ≤ last then shift line else line

/-- Shifting lines leaves lines, if shifting one makes no line feed. -/
theorem areLines_shiftedLines (text : Text) (first last : Nat) {shift : Text → Text}
    (hShift : ∀ line, lineFeed ∉ line → lineFeed ∉ shift line) :
    AreLines (shiftedLines (splitLines text) first last shift) := by
  have hText := areLines_splitLines text
  refine ⟨fun hNil => hText.ne_nil (List.mapIdx_eq_nil_iff.mp hNil), fun line hLine => ?_⟩
  obtain ⟨i, hIndex, rfl⟩ := List.mem_mapIdx.mp hLine
  have hOld := hText.noFeed _ (List.getElem_mem hIndex)
  split
  · exact hShift _ hOld
  · exact hOld

theorem coherent_of_shiftLines {shift : Text → Text}
    (hShift : ∀ line, lineFeed ∉ line → lineFeed ∉ shift line) {outcome : OperatorOutcome}
    (h : shiftLines buffer span shift = some outcome) : outcome.Coherent buffer.text := by
  simp only [shiftLines, ← shiftedLines.eq_1] at h
  split at h
  · cases h
  · cases h
    exact Position.isIn_ofLineColumn_joinLines (areLines_shiftedLines buffer.text _ _ hShift) _ _

theorem coherent_of_replaceChars {start : Position} {count : Nat} {fill : Char}
    {outcome : OperatorOutcome} (h : replaceChars buffer start count fill = some outcome) :
    outcome.Coherent buffer.text := by
  simp only [replaceChars] at h
  split at h
  · cases h
  · cases h
    exact Position.isIn_ofOffset _ _

/-- Whatever an operator does to a span of the text, the cursor ends up in the
text. -/
theorem coherent_of_apply {operator : Operator} {count : Nat} {outcome : OperatorOutcome}
    (hSpan : span.IsIn buffer.text) (h : operator.apply buffer span count = some outcome) :
    outcome.Coherent buffer.text := by
  rw [apply.eq_def] at h
  split at h
  · cases h
  -- Each operator has a case for whole lines and one for characters.
  · cases operator with
    | delete =>
        simp only at h
        split at h
        · cases h
          exact coherent_deleteLines span (by simp)
        · exact coherent_of_deleteChars h
    | change =>
        simp only at h
        split at h
        · cases h
          exact coherent_deleteLines span (by simp)
        · exact coherent_of_deleteChars h
    | yank => exact coherent_of_yankSpan hSpan h
    | indent =>
        simp only at h
        split at h
        · exact coherent_of_shiftLines (fun _ => noFeed_indentLine _) h
        · cases h
    | outdent =>
        simp only at h
        split at h
        · exact coherent_of_shiftLines (fun _ => noFeed_outdentLine _) h
        · cases h
    | replace fill =>
        simp only at h
        split at h
        · cases h
        · exact coherent_of_replaceChars h

end Operator

end ModalEditor
