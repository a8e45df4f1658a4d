import Mathlib.Tactic.ByContra
import ModalEditor.Proofs.Text.Position

namespace ModalEditor

/-!
# The characters on a line

A character of a text is one of a line, or the line feed after a line.  The lines are
counted by those line feeds, so a text that loses no line feed keeps its number of lines.
-/

/-- A text has one line more than line feeds. -/
theorem length_splitLines (text : Text) : (splitLines text).length = text.count lineFeed + 1 := by
  induction text with
  | nil => rfl
  | cons c rest ih =>
      simp only [splitLines]
      by_cases hFeed : c = lineFeed
      · simp [hFeed, ih]
      · rw [if_neg hFeed, List.count_cons_of_ne hFeed, ← ih]
        cases hLines : splitLines rest with
        | nil => exact absurd hLines (splitLines_ne_nil rest)
        | cons line lines => rfl

/-- No line of a text holds a line feed. -/
theorem noFeed_lineAt (text : Text) (number : Nat) :
    lineFeed ∉ lineAt (splitLines text) number := by
  rcases Nat.lt_or_ge number (splitLines text).length with hLine | hPast
  · rw [lineAt_eq_getElem hLine]
    exact (areLines_splitLines text).noFeed _ (List.getElem_mem hLine)
  · simp [lineAt, List.getElem?_eq_none hPast]

/-- The character at a column that a line has. -/
theorem getElem?_lineStart_add {lines : List Text} {number column : Nat}
    (hColumn : column < lineLength lines number) :
    (joinLines lines)[lineStart lines number + column]? = (lineAt lines number)[column]? := by
  induction lines generalizing number with
  | nil => simp [lineLength, lineAt] at hColumn
  | cons line lines ih =>
      cases number with
      | zero =>
          have hLine : column < line.length := hColumn
          cases lines with
          | nil => simp [lineStart, joinLines, lineAt]
          | cons next lines =>
              rw [joinLines_cons_cons line (List.cons_ne_nil next lines)]
              simp [lineStart, lineAt, List.getElem?_append_left hLine]
      | succ number =>
          have hRest : column < lineLength lines number := hColumn
          have hLines : lines ≠ [] := by
            rintro rfl
            simp [lineLength, lineAt] at hRest
          have hSkip : lineStart (line :: lines) (number + 1) + column =
              line.length + 1 + (lineStart lines number + column) := by
            simp only [lineStart]
            omega
          have hPast : line.length ≤ line.length + 1 + (lineStart lines number + column) := by
            omega
          rw [joinLines_cons_cons line hLines, hSkip, List.getElem?_append_right hPast,
            show line.length + 1 + (lineStart lines number + column) - line.length =
              lineStart lines number + column + 1 by omega, List.getElem?_cons_succ, ih hRest]
          rfl

/-- After each line but the last comes a line feed. -/
theorem getElem?_lineEnd {lines : List Text} {number : Nat} (h : number + 1 < lines.length) :
    (joinLines lines)[lineStart lines number + lineLength lines number]? = some lineFeed := by
  induction lines generalizing number with
  | nil => simp at h
  | cons line lines ih =>
      have hLines : lines ≠ [] := by
        rintro rfl
        simp at h
      rw [joinLines_cons_cons line hLines]
      cases number with
      | zero => simp [lineStart]
      | succ number =>
          have hRest : number + 1 < lines.length := by simpa using h
          have hSkip : lineStart (line :: lines) (number + 1) +
                lineLength (line :: lines) (number + 1) =
              line.length + (lineStart lines number + lineLength lines number + 1) := by
            simp only [lineStart, lineLength_cons_succ]
            omega
          rw [hSkip, List.getElem?_append_right (Nat.le_add_right _ _), Nat.add_sub_cancel_left,
            List.getElem?_cons_succ, ih hRest]

/-- At the end of the last line the text ends, too. -/
theorem lineStart_add_lineLength_of_last {text : Text} {number : Nat}
    (h : number + 1 = (splitLines text).length) :
    lineStart (splitLines text) number + lineLength (splitLines text) number = text.length := by
  have hEnd := lineStart_lastLine_add (splitLines_ne_nil text)
  rwa [lastLine, ← h, Nat.add_sub_cancel, joinLines_splitLines] at hEnd

namespace Position

variable {text : Text} {p : Position} {c : Char}

/-- The character at a position that is not at the end of its line. -/
theorem IsIn.getElem?_eq (h : p.IsIn text)
    (hColumn : p.column < lineLength (splitLines text) p.line) :
    text[p.offset]? = (lineAt (splitLines text) p.line)[p.column]? := by
  have hChar := getElem?_lineStart_add hColumn
  rwa [joinLines_splitLines, ← (isIn_iff.mp h).2.2] at hChar

/-- At the end of a line that is not the last one stands a line feed. -/
theorem IsIn.getElem?_eq_lineFeed (h : p.IsIn text)
    (hColumn : p.column = lineLength (splitLines text) p.line)
    (hLine : p.line + 1 < (splitLines text).length) : text[p.offset]? = some lineFeed := by
  have hChar := getElem?_lineEnd hLine
  rwa [joinLines_splitLines, ← hColumn, ← (isIn_iff.mp h).2.2] at hChar

/-- A character other than a line feed is one of its line. -/
theorem IsIn.column_lt (h : p.IsIn text) (hChar : text[p.offset]? = some c)
    (hNoFeed : c ≠ lineFeed) : p.column < lineLength (splitLines text) p.line := by
  obtain ⟨hLine, hColumn, hOffset⟩ := isIn_iff.mp h
  refine Nat.lt_of_le_of_ne hColumn fun hEnd => ?_
  by_cases hLast : p.line + 1 < (splitLines text).length
  · rw [h.getElem?_eq_lineFeed hEnd hLast] at hChar
    cases hChar
    exact hNoFeed rfl
  · have hText := lineStart_add_lineLength_of_last
      (show p.line + 1 = (splitLines text).length by omega)
    rw [← hEnd, ← hOffset] at hText
    simp [hText] at hChar

/-- At the end of a line there is nothing but a line feed. -/
theorem IsIn.eq_lineFeed (h : p.IsIn text)
    (hEnd : p.column = lineLength (splitLines text) p.line) (hChar : text[p.offset]? = some c) :
    c = lineFeed := by
  by_contra hNoFeed
  have hInside := h.column_lt hChar hNoFeed
  omega

end Position

end ModalEditor
