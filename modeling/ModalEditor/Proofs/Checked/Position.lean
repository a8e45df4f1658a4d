import ModalEditor.Proofs.Checked.Basic
import ModalEditor.Proofs.Text.Position

namespace ModalEditor

/-!
# Converting places step by step

The conversions between offsets and positions, with every sum, difference, index and slice
checked.  A text that fits in memory is converted without a fault, whatever place is asked
for.
-/

namespace Checked

/-- Number of characters of lines, a line feed after each. -/
def lengthOfLines (lines : List Text) : Checked Nat :=
  lines.foldlM (fun sum line => do
    let length ← add line.length 1
    add sum length) 0

/-- Character offset of a line and a column, both cut where they end. -/
def offsetAt (lines : List Text) (line column : Nat) : Checked Nat :=
  if lines.isEmpty then pure 0
  else do
    let line := min line (lastLine lines)
    let above ← slice lines 0 line
    let before ← lengthOfLines above
    let text ← nth lines line
    add before (min column text.length)

/-- The position of a line and a column. -/
def ofLineColumn (lines : List Text) (line column : Nat) : Checked Position := do
  let line := min line (lastLine lines)
  let column := min column (lineLength lines line)
  let offset ← offsetAt lines line column
  pure ⟨line, column, offset⟩

/-- The place after one more character. -/
def stepPoint (p : Point) (c : Char) : Checked Point :=
  if c = lineFeed then do
    let row ← add p.row 1
    pure ⟨row, 0⟩
  else do
    let column ← add p.column 1
    pure ⟨p.row, column⟩

/-- The position of a character offset. -/
def ofOffset (text : Text) (offset : Nat) : Checked Position := do
  let point ← (text.take offset).foldlM stepPoint Point.origin
  pure ⟨point.row, point.column, min offset text.length⟩

/-- Walks down the lines to the one that holds an offset, and stops at the end of the text. -/
def walkLines (all : List Text) (offset : Nat) : List Text → Nat → Nat → Checked Position
  | [], _, _ => do
      let line := lastLine all
      let column := lineLength all line
      let offset ← offsetAt all line column
      pure ⟨line, column, offset⟩
  | text :: rest, line, remaining =>
      if remaining ≤ text.length then pure ⟨line, remaining, offset⟩
      else do
        let length ← add text.length 1
        let left ← sub remaining length
        walkLines all offset rest (line + 1) left

/-- The position of a character offset in a text given by its lines. -/
def ofOffsetInLines (lines : List Text) (offset : Nat) : Checked Position :=
  walkLines lines offset lines 0 offset

variable {lines : List Text} {text : Text}

/-- The lines above a line can be added up, if the sum is a number of the machine. -/
theorem foldlM_lengths {number sum : Nat} (h : sum + lineStart lines number < wordSize) :
    (lines.take number).foldlM (fun sum line => do
      let length ← add line.length 1
      add sum length) sum = .ok (sum + lineStart lines number) := by
  induction lines generalizing number sum with
  | nil => cases number <;> rfl
  | cons line lines ih =>
      cases number with
      | zero => rfl
      | succ number =>
          rw [lineStart] at h
          rw [List.take_succ_cons, List.foldlM_cons, add_eq (by omega), ok_bind, add_eq (by omega),
            ok_bind, ih (by omega), lineStart, Nat.add_assoc]

theorem lengthOfLines_take {number : Nat} (h : lineStart lines number < wordSize) :
    lengthOfLines (lines.take number) = .ok (lineStart lines number) := by
  have hSum := foldlM_lengths (show 0 + lineStart lines number < wordSize by omega)
  rwa [Nat.zero_add] at hSum

theorem nth_lineAt {line : Nat} (h : line < lines.length) :
    nth lines line = .ok (lineAt lines line) := by
  rw [lineAt_eq_getElem h]
  exact nth_eq (List.getElem?_eq_getElem h)

/-- The offset of a column can be found, if that of the end of its line can. -/
theorem offsetAt_eq (hLines : lines ≠ []) {line : Nat}
    (h : lineStart lines (min line (lastLine lines)) +
      lineLength lines (min line (lastLine lines)) < wordSize) (column : Nat) :
    offsetAt lines line column = .ok (ModalEditor.offsetAt lines line column) := by
  have hSome : lines.isEmpty = false := List.isEmpty_eq_false_iff.mpr hLines
  have hLess := Position.min_lastLine_lt hLines line
  simp only [offsetAt, ModalEditor.offsetAt, hSome, Bool.false_eq_true, if_false]
  rw [slice_eq (Nat.zero_le _) (Nat.le_of_lt hLess), List.drop_zero, ok_bind,
    lengthOfLines_take (by omega), ok_bind, nth_lineAt hLess, ok_bind]
  refine add_eq ?_
  have hColumn := Nat.min_le_right column (lineAt lines (min line (lastLine lines))).length
  rw [lineLength] at h
  omega

theorem ofLineColumn_eq (hLines : lines ≠ []) {line : Nat}
    (h : lineStart lines (min line (lastLine lines)) +
      lineLength lines (min line (lastLine lines)) < wordSize) (column : Nat) :
    ofLineColumn lines line column = .ok (Position.ofLineColumn lines line column) := by
  have hSame : min (min line (lastLine lines)) (lastLine lines) = min line (lastLine lines) :=
    Nat.min_eq_left (Nat.min_le_right _ _)
  simp only [ofLineColumn, offsetAt_eq hLines (hSame.symm ▸ h), ok_bind, pure_eq,
    Position.ofLineColumn]

/-- On a line of a text every column can be found. -/
theorem ofLineColumn_splitLines (h : text.length < wordSize) (line column : Nat) :
    ofLineColumn (splitLines text) line column =
      .ok (Position.ofLineColumn (splitLines text) line column) := by
  have hLines := splitLines_ne_nil text
  have hEnd := lineStart_add_le (Position.min_lastLine_lt hLines line) (Nat.le_refl _)
  rw [joinLines_splitLines] at hEnd
  exact ofLineColumn_eq hLines (by omega) column

/-- No row and no column is further than there are characters before it. -/
theorem foldlM_stepPoint {p : Point} (hRow : p.row + text.length < wordSize)
    (hColumn : p.column + text.length < wordSize) :
    text.foldlM stepPoint p = .ok (text.foldl (Point.step 1) p) := by
  induction text generalizing p with
  | nil => rfl
  | cons c text ih =>
      rw [List.length_cons] at hRow hColumn
      have hStep : stepPoint p c = .ok (p.step 1 c) := by
        rw [stepPoint, Point.step, add_eq (by omega), add_eq (by omega)]
        split <;> rfl
      rw [List.foldlM_cons, hStep, ok_bind, List.foldl_cons]
      have hNext : (p.step 1 c).row ≤ p.row + 1 ∧ (p.step 1 c).column ≤ p.column + 1 := by
        rw [Point.step]
        split <;> simp
      exact ih (by omega) (by omega)

theorem ofOffset_eq (h : text.length < wordSize) (offset : Nat) :
    ofOffset text offset = .ok (Position.ofOffset text offset) := by
  have hTaken : (text.take offset).length < wordSize := by
    rw [List.length_take]
    omega
  rw [ofOffset, foldlM_stepPoint (by simpa [Point.origin] using hTaken)
    (by simpa [Point.origin] using hTaken)]
  rfl

theorem walkLines_eq {all rest : List Text} (hAll : all ≠ [])
    (hEnd : lineStart all (lastLine all) + lineLength all (lastLine all) < wordSize)
    (hRest : ∀ line ∈ rest, line.length + 1 < wordSize) (offset line remaining : Nat) :
    walkLines all offset rest line remaining =
      .ok (Position.walkLines all offset rest line remaining) := by
  induction rest generalizing line remaining with
  | nil =>
      have hLast : min (lastLine all) (lastLine all) = lastLine all := Nat.min_self _
      simp only [walkLines, Position.walkLines,
        offsetAt_eq hAll (hLast.symm ▸ hEnd), ok_bind, pure_eq]
  | cons text rest ih =>
      rw [walkLines, Position.walkLines]
      by_cases hHere : remaining ≤ text.length
      · rw [if_pos hHere, if_pos hHere, pure_eq]
      · rw [if_neg hHere, if_neg hHere, add_eq (hRest text List.mem_cons_self), ok_bind,
          sub_eq (by omega), ok_bind,
          ih fun other hOther => hRest other (List.mem_cons_of_mem text hOther)]

/-- No line of a text has more characters than the text. -/
theorem length_le_of_mem_splitLines {line : Text} (h : line ∈ splitLines text) :
    line.length ≤ text.length := by
  obtain ⟨number, hNumber, rfl⟩ := List.getElem_of_mem h
  have hEnd := lineStart_add_le hNumber (Nat.le_refl _)
  rw [joinLines_splitLines, lineLength, lineAt_eq_getElem hNumber] at hEnd
  omega

/-- Every offset can be found in the lines of a text, also one past its end. -/
theorem ofOffsetInLines_splitLines (h : text.length + 1 < wordSize) (offset : Nat) :
    ofOffsetInLines (splitLines text) offset =
      .ok (Position.ofOffsetInLines (splitLines text) offset) := by
  have hEnd := lineStart_lastLine_add (splitLines_ne_nil text)
  rw [joinLines_splitLines] at hEnd
  refine walkLines_eq (splitLines_ne_nil text) (by omega) (fun line hLine => ?_) offset 0 offset
  have hLength := length_le_of_mem_splitLines hLine
  omega

end Checked

end ModalEditor
