import ModalEditor.Text.Position

namespace ModalEditor

/-!
# The lines of a text

Splitting and joining are inverse to each other on lists that can be the lines
of a text.  Every offset of the text lies on exactly one of its lines, at the
start of that line plus a column.
-/

/-- Whether a list can be the lines of a text: it has at least one line, and no
line holds a line feed. -/
structure AreLines (lines : List Text) : Prop where
  ne_nil : lines ≠ []
  noFeed : ∀ line ∈ lines, lineFeed ∉ line

theorem AreLines.tail {line : Text} {lines : List Text} (h : AreLines (line :: lines))
    (hLines : lines ≠ []) : AreLines lines :=
  ⟨hLines, fun other hOther => h.noFeed other (List.mem_cons_of_mem line hOther)⟩

theorem splitLines_of_noFeed {line : Text} (h : lineFeed ∉ line) :
    splitLines line = [line] := by
  induction line with
  | nil => rfl
  | cons c line ih =>
      have hFirst := List.ne_of_not_mem_cons h
      have hRest := List.not_mem_of_not_mem_cons h
      rw [splitLines, if_neg (Ne.symm hFirst), ih hRest]

theorem splitLines_append_feed {line : Text} (h : lineFeed ∉ line) (rest : Text) :
    splitLines (line ++ lineFeed :: rest) = line :: splitLines rest := by
  induction line with
  | nil => simp [splitLines]
  | cons c line ih =>
      have hFirst := List.ne_of_not_mem_cons h
      have hRest := List.not_mem_of_not_mem_cons h
      rw [List.cons_append, splitLines, if_neg (Ne.symm hFirst), ih hRest]

/-- Joining lines loses nothing. -/
theorem splitLines_joinLines {lines : List Text} (h : AreLines lines) :
    splitLines (joinLines lines) = lines := by
  induction lines with
  | nil => exact absurd rfl h.ne_nil
  | cons line lines ih =>
      have hLine : lineFeed ∉ line := h.noFeed line List.mem_cons_self
      by_cases hNil : lines = []
      · subst hNil
        exact splitLines_of_noFeed hLine
      · rw [joinLines_cons_cons line hNil, splitLines_append_feed hLine, ih (h.tail hNil)]

/-- The lines of a text are such a list. -/
theorem areLines_splitLines (text : Text) : AreLines (splitLines text) := by
  refine ⟨splitLines_ne_nil text, ?_⟩
  induction text with
  | nil => simp [splitLines]
  | cons c rest ih =>
      simp only [splitLines]
      by_cases hFeed : c = lineFeed
      · rw [if_pos hFeed]
        intro line hLine
        rcases List.mem_cons.mp hLine with rfl | hLine
        · exact List.not_mem_nil
        · exact ih line hLine
      · rw [if_neg hFeed]
        -- Any other character goes on the first of the lines that follow.
        cases hLines : splitLines rest with
        | nil => exact absurd hLines (splitLines_ne_nil rest)
        | cons first lines =>
            rw [hLines] at ih
            intro line hLine
            rcases List.mem_cons.mp hLine with rfl | hLine
            · exact List.not_mem_cons_of_ne_of_not_mem (Ne.symm hFeed)
                (ih first List.mem_cons_self)
            · exact ih line (List.mem_cons_of_mem first hLine)

/-- The text of lines starts with those above a line, a line feed after each. -/
theorem joinLines_append_left (above : List Text) {lines : List Text} (h : lines ≠ []) :
    joinLines (above ++ lines) = above.flatMap (· ++ [lineFeed]) ++ joinLines lines := by
  induction above with
  | nil => rfl
  | cons line above ih =>
      rw [List.cons_append, joinLines_cons_cons line (List.append_ne_nil_of_right_ne_nil _ h), ih,
        List.flatMap_cons]
      simp

/-- It goes on with those below a line, a line feed before each. -/
theorem joinLines_cons (line : Text) (below : List Text) :
    joinLines (line :: below) = line ++ below.flatMap (lineFeed :: ·) := by
  induction below generalizing line with
  | nil => simp [joinLines]
  | cons next below ih =>
      rw [joinLines_cons_cons line (List.cons_ne_nil next below), ih, List.flatMap_cons,
        List.cons_append]

/-- The line after some others starts where those end. -/
theorem lineStart_append_length (above : List Text) {lines : List Text} (h : lines ≠ []) :
    lineStart (above ++ lines) above.length = (above.flatMap (· ++ [lineFeed])).length := by
  induction above with
  | nil =>
      obtain ⟨line, lines, rfl⟩ := List.exists_cons_of_ne_nil h
      rfl
  | cons line above ih =>
      rw [List.cons_append, List.length_cons, lineStart, ih, List.flatMap_cons,
        List.length_append, List.length_append, List.length_singleton]

/-- Only the lines above it tell where a line starts. -/
theorem lineStart_take {lines : List Text} {number first : Nat} (h : number ≤ first) :
    lineStart (lines.take first) number = lineStart lines number := by
  induction lines generalizing number first with
  | nil => rw [List.take_nil]
  | cons line lines ih =>
      cases first with
      | zero =>
          obtain rfl : number = 0 := by omega
          rfl
      | succ first =>
          cases number with
          | zero => rfl
          | succ number => rw [List.take_succ_cons, lineStart, lineStart, ih (by omega)]

theorem lineAt_eq_getElem {lines : List Text} {number : Nat} (h : number < lines.length) :
    lineAt lines number = lines[number] := by
  rw [lineAt, List.getD_eq_getElem?_getD, List.getElem?_eq_getElem h, Option.getD_some]

@[simp]
theorem lineLength_cons_zero (line : Text) (lines : List Text) :
    lineLength (line :: lines) 0 = line.length := rfl

@[simp]
theorem lineLength_cons_succ (line : Text) (lines : List Text) (number : Nat) :
    lineLength (line :: lines) (number + 1) = lineLength lines number := rfl

/-- A line starts after the one before and its line feed. -/
theorem lineStart_succ {lines : List Text} {number : Nat} (h : number < lines.length) :
    lineStart lines (number + 1) = lineStart lines number + lineLength lines number + 1 := by
  induction lines generalizing number with
  | nil => simp at h
  | cons line lines ih =>
      cases number with
      | zero =>
          cases lines <;> simp [lineStart]
      | succ number =>
          have hNumber : number < lines.length := by simpa using h
          rw [lineStart, lineStart, lineLength_cons_succ, ih hNumber]
          omega

/-- The last line ends where the text does. -/
theorem lineStart_lastLine_add {lines : List Text} (h : lines ≠ []) :
    lineStart lines (lastLine lines) + lineLength lines (lastLine lines) =
      (joinLines lines).length := by
  induction lines with
  | nil => exact absurd rfl h
  | cons line lines ih =>
      cases lines with
      | nil => simp [lastLine, lineStart, joinLines]
      | cons next lines =>
          have hRest := ih (List.cons_ne_nil next lines)
          rw [joinLines_cons_cons line (List.cons_ne_nil next lines)]
          simp only [lastLine, List.length_cons, Nat.add_sub_cancel] at hRest ⊢
          rw [lineStart, lineLength_cons_succ, List.length_append, List.length_cons, ← hRest]
          omega

/-- Nothing on a line lies past the end of the text. -/
theorem lineStart_add_le {lines : List Text} {number column : Nat}
    (hNumber : number < lines.length) (hColumn : column ≤ lineLength lines number) :
    lineStart lines number + column ≤ (joinLines lines).length := by
  induction lines generalizing number with
  | nil => simp at hNumber
  | cons line lines ih =>
      cases number with
      | zero =>
          cases lines with
          | nil => simpa [lineStart, joinLines] using hColumn
          | cons next lines =>
              rw [joinLines_cons_cons line (List.cons_ne_nil next lines)]
              simp only [lineStart, lineLength_cons_zero, List.length_append] at hColumn ⊢
              omega
      | succ number =>
          have hLength : number < lines.length := by simpa using hNumber
          have hLines : lines ≠ [] := List.ne_nil_of_length_pos (by omega)
          have hRest := ih hLength (by simpa using hColumn)
          rw [joinLines_cons_cons line hLines, List.length_append, List.length_cons, lineStart]
          omega

/-- Every offset lies on some line. -/
theorem exists_lineStart_add {lines : List Text} (h : lines ≠ []) {offset : Nat}
    (hOffset : offset ≤ (joinLines lines).length) :
    ∃ number column, number < lines.length ∧ column ≤ lineLength lines number ∧
      offset = lineStart lines number + column := by
  induction lines generalizing offset with
  | nil => exact absurd rfl h
  | cons line lines ih =>
      by_cases hFirst : offset ≤ line.length
      -- On the first line, or counted on from behind its line feed.
      · exact ⟨0, offset, by simp, by simpa using hFirst, by simp [lineStart]⟩
      · by_cases hNil : lines = []
        · subst hNil
          exact absurd hOffset hFirst
        · rw [joinLines_cons_cons line hNil, List.length_append, List.length_cons] at hOffset
          have hRest : offset - (line.length + 1) ≤ (joinLines lines).length := by omega
          obtain ⟨number, column, hNumber, hColumn, hSum⟩ := ih hNil hRest
          refine ⟨number + 1, column, by simpa using hNumber, by simpa using hColumn, ?_⟩
          rw [lineStart]
          omega

end ModalEditor
