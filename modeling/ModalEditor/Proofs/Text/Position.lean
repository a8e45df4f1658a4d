import ModalEditor.Proofs.Text.Lines
import ModalEditor.Text.Blank

namespace ModalEditor

/-!
# Positions of a text

A position names its place twice, by line and column and by offset.  It is a
position of a text when both names agree there.  Every conversion yields such a
position, however far past the end the place it is asked for.
-/

/-- A line without line feeds only adds columns. -/
theorem foldl_step_of_noFeed {line : Text} (h : lineFeed ∉ line) (p : Point) :
    line.foldl (Point.step 1) p = ⟨p.row, p.column + line.length⟩ := by
  induction line generalizing p with
  | nil => rfl
  | cons c line ih =>
      have hFirst := List.ne_of_not_mem_cons h
      rw [List.foldl_cons, ih (List.not_mem_of_not_mem_cons h), Point.step,
        if_neg (Ne.symm hFirst), List.length_cons]
      simp only [Nat.add_assoc, Nat.add_comm 1]

/-- Walking to a column of a line, from the start of some row, counts the line
feeds and then the column. -/
theorem foldl_step_take_joinLines {lines : List Text}
    (h : ∀ line ∈ lines, lineFeed ∉ line) {number column : Nat}
    (hNumber : number < lines.length) (hColumn : column ≤ lineLength lines number)
    (row : Nat) :
    ((joinLines lines).take (lineStart lines number + column)).foldl (Point.step 1)
      ⟨row, 0⟩ = ⟨row + number, column⟩ := by
  induction lines generalizing number row with
  | nil => simp at hNumber
  | cons line lines ih =>
      have hLine : lineFeed ∉ line := h line List.mem_cons_self
      cases number with
      | zero =>
          -- Nothing of the lines below is walked over.
          have hTake : (joinLines (line :: lines)).take column = line.take column := by
            cases lines with
            | nil => rfl
            | cons next lines =>
                rw [joinLines_cons_cons line (List.cons_ne_nil next lines)]
                exact List.take_append_of_le_length (by simpa using hColumn)
          have hTaken : lineFeed ∉ line.take column :=
            fun hFeed => hLine (List.mem_of_mem_take hFeed)
          have hLength : (line.take column).length = column :=
            List.length_take_of_le (by simpa using hColumn)
          rw [lineStart, Nat.zero_add, hTake, foldl_step_of_noFeed hTaken, hLength]
          simp
      | succ number =>
          have hRest : number < lines.length := by simpa using hNumber
          have hLines : lines ≠ [] := List.ne_nil_of_length_pos (by omega)
          -- The walk goes over the whole first line, its line feed and the rest.
          have hSplit :
              (joinLines (line :: lines)).take
                  (lineStart (line :: lines) (number + 1) + column) =
                line ++ lineFeed ::
                  (joinLines lines).take (lineStart lines number + column) := by
            rw [joinLines_cons_cons line hLines, lineStart,
              show line.length + 1 + lineStart lines number + column =
                line.length + (lineStart lines number + column + 1) by omega,
              List.take_length_add_append, List.take_succ_cons]
          rw [hSplit, List.foldl_append, foldl_step_of_noFeed hLine, List.foldl_cons,
            Point.step, if_pos rfl,
            ih (fun other hOther => h other (List.mem_cons_of_mem line hOther)) hRest
              (by simpa using hColumn) (row + 1)]
          simp only [Nat.add_assoc, Nat.add_comm 1]

/-- The point of a place on a line is that line and that column. -/
theorem pointAt_lineStart_add {lines : List Text} (h : AreLines lines)
    {number column : Nat} (hNumber : number < lines.length)
    (hColumn : column ≤ lineLength lines number) :
    pointAt (joinLines lines) (lineStart lines number + column) = ⟨number, column⟩ := by
  have hFold := foldl_step_take_joinLines h.noFeed hNumber hColumn 0
  rwa [Nat.zero_add] at hFold

namespace Position

/-- Whether a position is one of a text: line and column are those of the
offset. -/
def IsIn (p : Position) (text : Text) : Prop :=
  p = Position.ofOffset text p.offset

theorem ofOffset_min (text : Text) (offset : Nat) :
    ofOffset text (min offset text.length) = ofOffset text offset := by
  have hTake : text.take (min offset text.length) = text.take offset := by
    rw [← List.take_take, List.take_length]
  simp [ofOffset, pointAt, hTake]

@[simp]
theorem ofOffset_offset (text : Text) (offset : Nat) :
    (ofOffset text offset).offset = min offset text.length := rfl

@[simp]
theorem isIn_ofOffset (text : Text) (offset : Nat) : (ofOffset text offset).IsIn text :=
  (ofOffset_min text offset).symm

@[simp]
theorem isIn_origin (text : Text) : origin.IsIn text := by
  simp [IsIn, ofOffset, origin, pointAt, Point.origin]

theorem IsIn.offset_le {p : Position} {text : Text} (h : p.IsIn text) :
    p.offset ≤ text.length := by
  have hOffset : p.offset = min p.offset text.length := congrArg Position.offset h
  omega

/-- Two positions of a text with one offset are the same. -/
theorem IsIn.eq_of_offset_eq {p q : Position} {text : Text} (hp : p.IsIn text)
    (hq : q.IsIn text) (h : p.offset = q.offset) : p = q := by
  calc
    p = ofOffset text p.offset := hp
    _ = ofOffset text q.offset := by rw [h]
    _ = q := hq.symm

/-- The positions of a text are its lines with their columns, the end of each
line included. -/
theorem isIn_joinLines_iff {lines : List Text} (h : AreLines lines) {p : Position} :
    p.IsIn (joinLines lines) ↔
      p.line < lines.length ∧ p.column ≤ lineLength lines p.line ∧
        p.offset = lineStart lines p.line + p.column := by
  constructor
  · intro hIn
    obtain ⟨number, column, hNumber, hColumn, hOffset⟩ :=
      exists_lineStart_add h.ne_nil hIn.offset_le
    have hPoint := pointAt_lineStart_add h hNumber hColumn
    rw [← hOffset] at hPoint
    have hLine : p.line = number := by
      rw [hIn, ofOffset, hPoint]
    have hColumnEq : p.column = column := by
      rw [hIn, ofOffset, hPoint]
    rw [hLine, hColumnEq]
    exact ⟨hNumber, hColumn, hOffset⟩
  · rintro ⟨hLine, hColumn, hOffset⟩
    have hPoint := pointAt_lineStart_add h hLine hColumn
    have hEnd := lineStart_add_le hLine hColumn
    rw [← hOffset] at hPoint hEnd
    rw [IsIn, ofOffset, hPoint, Nat.min_eq_left hEnd]

theorem isIn_iff {text : Text} {p : Position} :
    p.IsIn text ↔
      p.line < (splitLines text).length ∧ p.column ≤ lineLength (splitLines text) p.line ∧
        p.offset = lineStart (splitLines text) p.line + p.column := by
  have h := isIn_joinLines_iff (p := p) (areLines_splitLines text)
  rwa [joinLines_splitLines] at h

theorem min_lastLine_of_lt {lines : List Text} {number : Nat} (h : number < lines.length) :
    min number (lastLine lines) = number := by
  rw [lastLine]
  omega

theorem min_lastLine_lt {lines : List Text} (h : lines ≠ []) (number : Nat) :
    min number (lastLine lines) < lines.length := by
  have hLength := List.length_pos_iff.mpr h
  rw [lastLine]
  omega

/-- A line and a column that exist keep their place. -/
theorem offsetAt_of_le {lines : List Text} {number column : Nat}
    (hNumber : number < lines.length) (hColumn : column ≤ lineLength lines number) :
    offsetAt lines number column = lineStart lines number + column := by
  have hLines : lines.isEmpty = false := by
    cases lines with
    | nil => simp at hNumber
    | cons line lines => rfl
  simp [offsetAt, hLines, min_lastLine_of_lt hNumber, Nat.min_eq_left hColumn]

/-- Any line and any column lead to a position of the text. -/
theorem isIn_ofLineColumn_joinLines {lines : List Text} (h : AreLines lines)
    (number column : Nat) : (ofLineColumn lines number column).IsIn (joinLines lines) := by
  have hNumber := min_lastLine_lt h.ne_nil number
  have hColumn := Nat.min_le_right column (lineLength lines (min number (lastLine lines)))
  exact (isIn_joinLines_iff h).mpr ⟨hNumber, hColumn, offsetAt_of_le hNumber hColumn⟩

@[simp]
theorem isIn_ofLineColumn (text : Text) (number column : Nat) :
    (ofLineColumn (splitLines text) number column).IsIn text := by
  have h := isIn_ofLineColumn_joinLines (areLines_splitLines text) number column
  rwa [joinLines_splitLines] at h

/-- The start of a line that exists. -/
theorem isIn_lineStart {lines : List Text} (h : AreLines lines) {number : Nat}
    (hNumber : number < lines.length) :
    (⟨number, 0, lineStart lines number⟩ : Position).IsIn (joinLines lines) :=
  (isIn_joinLines_iff h).mpr ⟨hNumber, Nat.zero_le _, rfl⟩

/-- Walking down from a line that exists, or from past the last one, ends where
the offset lies. -/
theorem walkLines_eq_ofOffset {all rest : List Text} (h : AreLines all) {number offset
    remaining : Nat} (hRest : all.drop number = rest) (hNumber : number ≤ all.length)
    (hOffset : lineStart all number + remaining = offset) :
    walkLines all offset rest number remaining = ofOffset (joinLines all) offset := by
  induction rest generalizing number remaining with
  | nil =>
      -- Past the last line the walk turns back to its end, as the offset does.
      have hLength : number = lastLine all + 1 := by
        have hDrop := congrArg List.length hRest
        have hAll := List.length_pos_iff.mpr h.ne_nil
        rw [List.length_drop, List.length_nil] at hDrop
        rw [lastLine]
        omega
      have hLast : lastLine all < all.length := by
        omega
      have hEnd := lineStart_lastLine_add h.ne_nil
      have hStart := lineStart_succ hLast
      rw [← hLength] at hStart
      have hIn : (⟨lastLine all, lineLength all (lastLine all),
          offsetAt all (lastLine all) (lineLength all (lastLine all))⟩ : Position).IsIn
            (joinLines all) :=
        (isIn_joinLines_iff h).mpr ⟨hLast, Nat.le_refl _, offsetAt_of_le hLast (Nat.le_refl _)⟩
      rw [walkLines]
      refine hIn.eq_of_offset_eq (isIn_ofOffset _ _) ?_
      rw [ofOffset_offset]
      simp only [offsetAt_of_le hLast (Nat.le_refl _)]
      omega
  | cons line rest ih =>
      have hLess : number < all.length := by
        have hDrop := congrArg List.length hRest
        rw [List.length_drop, List.length_cons] at hDrop
        omega
      have hLine : lineLength all number = line.length := by
        rw [List.drop_eq_getElem_cons hLess, List.cons.injEq] at hRest
        rw [lineLength, lineAt_eq_getElem hLess, hRest.1]
      rw [walkLines]
      by_cases hHere : remaining ≤ line.length
      · rw [if_pos hHere]
        have hIn : (⟨number, remaining, offset⟩ : Position).IsIn (joinLines all) :=
          (isIn_joinLines_iff h).mpr ⟨hLess, hLine ▸ hHere, hOffset.symm⟩
        exact hIn
      · rw [if_neg hHere]
        have hStart := lineStart_succ hLess
        refine ih ?_ hLess (by omega)
        rw [List.drop_eq_getElem_cons hLess, List.cons.injEq] at hRest
        exact hRest.2

/-- Offsets mean the same whether counted along the text or along its lines. -/
theorem ofOffsetInLines_splitLines (text : Text) (offset : Nat) :
    ofOffsetInLines (splitLines text) offset = ofOffset text offset := by
  have hStart : lineStart (splitLines text) 0 + offset = offset := by
    cases splitLines text <;> simp [lineStart]
  have hWalk := walkLines_eq_ofOffset (areLines_splitLines text) rfl (Nat.zero_le _) hStart
  rwa [joinLines_splitLines] at hWalk

@[simp]
theorem isIn_ofOffsetInLines (text : Text) (offset : Nat) :
    (ofOffsetInLines (splitLines text) offset).IsIn text := by
  rw [ofOffsetInLines_splitLines]
  exact isIn_ofOffset text offset

end Position

end ModalEditor
