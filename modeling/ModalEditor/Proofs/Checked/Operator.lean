import ModalEditor.Proofs.Checked.Motion
import ModalEditor.Proofs.Operator.Indentation
import ModalEditor.Proofs.Text.Bytes

namespace ModalEditor

/-!
# Operators step by step

What `Operator.apply` computes, with every index, slice, sum and difference checked.  Slices
of the text are taken at bytes, as are the slices of a line that loses its indentation.  Room
for the texts that are put together is taken for granted, except for the padding of a line,
whose width is given from outside.
-/

namespace Checked

/-! ## Spans -/

/-- Offsets of the first character of a characterwise span and of the one after its last. -/
def charSpan (text : Text) (span : Span) : Checked (Nat × Nat) := do
  let stop ← add span.ordered.2.offset (if span.inclusive then 1 else 0)
  pure (span.ordered.1.offset, min stop text.length)

/-- First and last line of a linewise span, cut at the last line. -/
def lineSpan (lines : List Text) (span : Span) : Checked (Nat × Nat) := do
  let last ← sub lines.length 1
  pure (min span.lines.1 last, min span.lines.2 last)

/-- The characters between two offsets, found at their bytes. -/
def sliceChars (text : Text) (first stop : Nat) : Checked Text :=
  sliceBytes text (byteOffset text first) (byteOffset text stop)

/-- The lines of a linewise span, as they go to the register. -/
def linesWrite (lines : List Text) (first last : Nat) : Checked RegisterWrite := do
  let stop ← add last 1
  let taken ← slice lines first stop
  pure ⟨wholeLinesText taken, true⟩

/-! ## Deleting and copying -/

/-- Deletes characters. -/
def deleteChars (buffer : Buffer) (span : Span) : Checked (Option OperatorOutcome) := do
  let text := buffer.text
  let (first, stop) ← charSpan text span
  if first ≥ stop then pure none
  else do
    let removed ← sliceChars text first stop
    let _ ← sub (byteLength text) (byteLength removed)
    let before ← sliceBytes text 0 (byteOffset text first)
    let after ← sliceBytes text (byteOffset text stop) (byteLength text)
    let cursor ← ofOffset (before ++ after) first
    pure (some ⟨some (before ++ after), cursor, some ⟨removed, false⟩⟩)

/-- Deletes whole lines and puts the lines `left` in their place. -/
def deleteLines (buffer : Buffer) (span : Span) (left : List Text) :
    Checked OperatorOutcome := do
  let lines := buffer.lines
  let (first, last) ← lineSpan lines span
  let write ← linesWrite lines first last
  let above ← slice lines 0 first
  let stop ← add last 1
  let below ← slice lines stop lines.length
  let remaining := above ++ left ++ below
  if remaining.isEmpty then pure ⟨some [], Position.origin, some write⟩
  else do
    let bottom ← sub remaining.length 1
    let line := min first bottom
    let before ← slice remaining 0 line
    let offset ← lengthOfLines before
    pure ⟨some (joinLines remaining), ⟨line, 0, offset⟩, some write⟩

/-- Copies a span to the register. -/
def yankSpan (buffer : Buffer) (span : Span) : Checked (Option OperatorOutcome) := do
  let cursor := span.ordered.1
  if span.linewise then do
    let (first, last) ← lineSpan buffer.lines span
    let write ← linesWrite buffer.lines first last
    pure (some ⟨none, cursor, some write⟩)
  else do
    let (first, stop) ← charSpan buffer.text span
    if first ≥ stop then pure none
    else do
      let taken ← sliceChars buffer.text first stop
      pure (some ⟨none, cursor, some ⟨taken, false⟩⟩)

/-! ## Indentation -/

/-- As many spaces as a tab stop is wide, if they fit in memory. -/
def padding (tabSize : Nat) : Checked Text :=
  if tabSize ≤ maxBytes then pure (List.replicate tabSize ' ') else throw .capacity

/-- A line without one level of indentation. -/
def outdentLine (tabSize : Nat) : Text → Checked Text
  | '\t' :: rest => pure rest
  | line =>
      sliceBytes line ((line.take tabSize).takeWhile (· == ' ')).length (byteLength line)

/-- A line that is indented or outdented, and whether that changed it. -/
def shiftLine (indents : Bool) (tabSize : Nat) (pad line : Text) : Checked (Text × Bool) :=
  if indents then pure (pad ++ line, true)
  else do
    let stripped ← outdentLine tabSize line
    pure (stripped, byteLength stripped != byteLength line)

/-- Lines, from number `i` on, with those from one to another shifted, and whether that changed
any. -/
def shiftEach (shift : Text → Checked (Text × Bool)) (first last : Nat) :
    Nat → List Text → Checked (List Text × Bool)
  | _, [] => pure ([], false)
  | i, line :: lines => do
      let (shifted, changed) ←
        if i < first ∨ i > last then pure (line, false) else shift line
      let (rest, more) ← shiftEach shift first last (i + 1) lines
      pure (shifted :: rest, changed || more)

/-- Indents or outdents the lines of a span. -/
def shiftLines (buffer : Buffer) (span : Span) (indents : Bool) :
    Checked (Option OperatorOutcome) :=
  if buffer.tabSize = 0 ∧ indents then pure none
  else do
    let (first, last) ← lineSpan buffer.lines span
    let pad ← padding buffer.tabSize
    let (shifted, changed) ←
      shiftEach (shiftLine indents buffer.tabSize pad) first last 0 buffer.lines
    if changed then do
      let line ← nth shifted first
      let cursor ← ofLineColumn shifted first (firstNonBlankColumn line)
      pure (some ⟨some (joinLines shifted), cursor, none⟩)
    else pure none

/-! ## Replacing -/

/-- Overwrites `count` characters from a position on. -/
def replaceChars (buffer : Buffer) (start : Position) (count : Nat) (fill : Char) :
    Checked (Option OperatorOutcome) :=
  let text := buffer.text
  if start.offset ≥ text.length then pure none
  else do
    let line ← nth buffer.lines start.line
    let remaining := line.length - start.column
    if remaining = 0 ∨ count > remaining then pure none
    else do
      let stop ← add start.offset count
      let overwritten ← sliceChars text start.offset stop
      let filling := if fill = lineFeed then [lineFeed] else List.replicate count fill
      let _ ← add (byteLength text) (byteLength filling)
      let before ← sliceBytes text 0 (byteOffset text start.offset)
      let after ← sliceBytes text (byteOffset text stop) (byteLength text)
      let offset ←
        if fill = lineFeed then add start.offset 1
        else do
          let after ← add start.offset count
          sub after 1
      let cursor ← ofOffset (before ++ filling ++ after) offset
      pure (some ⟨some (before ++ filling ++ after), cursor, some ⟨overwritten, false⟩⟩)

/-! ## Operators -/

/-- Runs an operator on a span of a buffer. -/
def apply (operator : Operator) (buffer : Buffer) (span : Span) (count : Nat) :
    Checked (Option OperatorOutcome) :=
  if buffer.text.isEmpty then pure none
  else
    match operator with
    | .delete =>
        if span.linewise then some <$> deleteLines buffer span []
        else deleteChars buffer span
    | .change =>
        if span.linewise then some <$> deleteLines buffer span [[]]
        else deleteChars buffer span
    | .yank => yankSpan buffer span
    | .indent => if span.linewise then shiftLines buffer span true else pure none
    | .outdent => if span.linewise then shiftLines buffer span false else pure none
    | .replace fill =>
        if span.linewise then pure none
        else replaceChars buffer span.ordered.1 (max count 1) fill

variable {buffer : Buffer} {span : Span} {lines : List Text} {text line : Text}
  {first stop last tabSize : Nat}

/-! ## Slices -/

theorem length_lines_le (buffer : Buffer) : buffer.lines.length ≤ buffer.text.length + 1 := by
  have hLast := lastLine_le buffer.text
  rw [lastLine] at hLast
  rw [Buffer.lines]
  omega

theorem byteLength_slice_le (text : Text) (first stop : Nat) :
    byteLength (Operator.slice text first stop) ≤ byteLength text := by
  have hTaken : text.take stop <+: text := List.take_prefix stop text
  calc
    byteLength (Operator.slice text first stop) ≤ byteLength (text.take stop) :=
      byteLength_le_of_suffix (List.drop_suffix first _)
    _ ≤ byteLength text := byteLength_le_of_prefix hTaken

theorem sliceChars_eq (text : Text) (h : first ≤ stop) :
    sliceChars text first stop = .ok (Operator.slice text first stop) :=
  sliceBytes_byteOffset text h

theorem charSpan_eq (hSpan : span.IsIn text) (hSize : text.length + 1 < wordSize) :
    charSpan text span = .ok (Operator.charSpan text span) := by
  have hLast : span.ordered.2.offset ≤ text.length := by
    rw [Span.ordered]
    split
    · exact hSpan.stop.offset_le
    · exact hSpan.start.offset_le
  rw [charSpan, add_eq (by split <;> omega), ok_bind, pure_eq]
  rfl

theorem lineSpan_eq (hLines : lines ≠ []) (span : Span) :
    lineSpan lines span = .ok (Operator.lineSpan lines span) := by
  rw [lineSpan, sub_eq (List.length_pos_iff.mpr hLines), ok_bind, pure_eq]
  rfl

theorem linesWrite_eq (h : first ≤ last) (hLast : last < lines.length)
    (hSize : lines.length < wordSize) :
    linesWrite lines first last = .ok (Operator.linesWrite lines first last) := by
  rw [linesWrite, add_eq (by omega), ok_bind, slice_eq (by omega) hLast, ok_bind, pure_eq]
  rfl

/-! ## Deleting and copying -/

theorem deleteChars_eq (hSpan : span.IsIn buffer.text)
    (hSize : buffer.text.length + 1 < wordSize) :
    deleteChars buffer span = .ok (Operator.deleteChars buffer span) := by
  rw [deleteChars, charSpan_eq hSpan hSize, ok_bind, Operator.deleteChars]
  obtain ⟨first, stop⟩ := Operator.charSpan buffer.text span
  dsimp only
  by_cases hNone : first ≥ stop
  · rw [if_pos hNone, if_pos hNone, pure_eq]
  · have hLength : (buffer.text.take first ++ buffer.text.drop stop).length < wordSize := by
      rw [List.length_append, List.length_take, List.length_drop]
      omega
    rw [if_neg hNone, if_neg hNone, sliceChars_eq _ (by omega), ok_bind,
      sub_eq (byteLength_slice_le _ _ _), ok_bind, sliceBytes_start, ok_bind, sliceBytes_end,
      ok_bind, ofOffset_eq hLength, ok_bind, pure_eq]

/-- Where the lines above a line are those of a text, it starts inside the text. -/
theorem lineStart_le_of_take_eq {others : List Text}
    (hAbove : others.take first = (splitLines text).take first)
    (hFirst : first < (splitLines text).length) {number : Nat} (h : number ≤ first) :
    lineStart others number ≤ text.length := by
  have hEnd := lineStart_add_le (show number < (splitLines text).length by omega)
    (Nat.zero_le _)
  rw [joinLines_splitLines] at hEnd
  rw [← lineStart_take h, hAbove, lineStart_take h]
  exact hEnd

theorem deleteLines_eq (hSize : buffer.text.length + 1 < wordSize) (span : Span)
    (left : List Text) :
    deleteLines buffer span left = .ok (Operator.deleteLines buffer span left) := by
  have hLines : buffer.lines ≠ [] := splitLines_ne_nil buffer.text
  obtain ⟨hOrder, hLast⟩ := Operator.lineSpan_bounds buffer span
  have hNumbers := length_lines_le buffer
  rw [deleteLines, Operator.deleteLines, lineSpan_eq hLines, ok_bind]
  generalize Operator.lineSpan buffer.lines span = ends at hOrder hLast ⊢
  obtain ⟨first, last⟩ := ends
  dsimp only at hOrder hLast ⊢
  rw [linesWrite_eq hOrder hLast (by omega), ok_bind,
    slice_eq (Nat.zero_le _) (show first ≤ buffer.lines.length by omega), ok_bind,
    add_eq (by omega), ok_bind, slice_eq hLast (Nat.le_refl _), ok_bind, List.drop_zero,
    List.take_length]
  have hAbove : (buffer.lines.take first ++ left ++ buffer.lines.drop (last + 1)).take first =
      buffer.lines.take first := by
    rw [List.append_assoc]
    exact List.take_left' (List.length_take_of_le (by omega))
  generalize buffer.lines.take first ++ left ++ buffer.lines.drop (last + 1) = remaining
    at hAbove ⊢
  cases hEmpty : remaining.isEmpty with
  | true => rfl
  | false =>
      have hSome := List.length_pos_iff.mpr (List.isEmpty_eq_false_iff.mp hEmpty)
      have hStart := lineStart_le_of_take_eq hAbove (show first < buffer.lines.length by omega)
        (Nat.min_le_left first (lastLine remaining))
      rw [if_neg Bool.false_ne_true, if_neg Bool.false_ne_true, sub_eq hSome, ok_bind,
        slice_eq (Nat.zero_le _) (by omega), ok_bind, List.drop_zero, ← lastLine,
        lengthOfLines_take (by omega), ok_bind, pure_eq]

theorem yankSpan_eq (hSpan : span.IsIn buffer.text)
    (hSize : buffer.text.length + 1 < wordSize) :
    yankSpan buffer span = .ok (Operator.yankSpan buffer span) := by
  have hLines : buffer.lines ≠ [] := splitLines_ne_nil buffer.text
  have hNumbers := length_lines_le buffer
  rw [yankSpan, Operator.yankSpan]
  by_cases hWhole : span.linewise = true
  · obtain ⟨hOrder, hLast⟩ := Operator.lineSpan_bounds buffer span
    rw [if_pos hWhole, if_pos hWhole, lineSpan_eq hLines, ok_bind]
    dsimp only
    rw [linesWrite_eq hOrder hLast (by omega), ok_bind, pure_eq]
  · rw [if_neg hWhole, if_neg hWhole, charSpan_eq hSpan hSize, ok_bind]
    obtain ⟨first, stop⟩ := Operator.charSpan buffer.text span
    dsimp only
    by_cases hNone : first ≥ stop
    · rw [if_pos hNone, if_pos hNone, pure_eq]
    · rw [if_neg hNone, if_neg hNone, sliceChars_eq _ (by omega), ok_bind, pure_eq]

/-! ## Indentation -/

/-- Spaces are one byte each. -/
theorem byteLength_of_all_spaces {spaces : Text} (h : ∀ c ∈ spaces, c = ' ') :
    byteLength spaces = spaces.length := by
  induction spaces with
  | nil => rfl
  | cons c spaces ih =>
      obtain rfl := h c List.mem_cons_self
      rw [byteLength_cons, ih fun d hChar => h d (List.mem_cons_of_mem _ hChar),
        List.length_cons, Nat.add_comm]
      rfl

theorem outdentLine_eq (tabSize : Nat) (line : Text) :
    outdentLine tabSize line = .ok (Operator.outdentLine tabSize line) := by
  by_cases hTab : line.head? = some '\t'
  · obtain ⟨rest, rfl⟩ := List.head?_eq_some_iff.mp hTab
    rfl
  · have hTaken : line.take tabSize <+: line := List.take_prefix tabSize line
    have hFirst : (line.take tabSize).takeWhile (· == ' ') <+: line.take tabSize :=
      List.takeWhile_prefix _
    have hSpaces : (line.take tabSize).takeWhile (· == ' ') =
        line.take ((line.take tabSize).takeWhile (· == ' ')).length :=
      List.prefix_iff_eq_take.mp (hFirst.trans hTaken)
    have hBytes : ((line.take tabSize).takeWhile (· == ' ')).length =
        byteOffset line ((line.take tabSize).takeWhile (· == ' ')).length := by
      rw [byteOffset, ← hSpaces, byteLength_of_all_spaces fun c hChar => ?_]
      simpa using List.all_eq_true.mp List.all_takeWhile c hChar
    rw [Operator.outdentLine_of_head?_ne hTab, ← sliceBytes_end, ← hBytes, outdentLine.eq_def]
    split
    · exact absurd rfl hTab
    · rfl

/-- A line changes when it is outdented exactly if its number of bytes does. -/
theorem bne_byteLength_outdentLine (tabSize : Nat) (line : Text) :
    (byteLength (Operator.outdentLine tabSize line) != byteLength line) =
      decide (Operator.outdentLine tabSize line ≠ line) := by
  obtain ⟨gone, hGone⟩ := (Operator.losesIndentation_outdentLine tabSize line).isSuffix
  have hBytes := congrArg byteLength hGone
  rw [byteLength_append] at hBytes
  by_cases hSame : Operator.outdentLine tabSize line = line
  · rw [hSame, bne_self_eq_false, decide_eq_false (not_not.mpr rfl)]
  · have hSome : 0 < gone.length := by
      refine List.length_pos_iff.mpr fun hNil => hSame ?_
      rwa [hNil, List.nil_append] at hGone
    have hMore := length_le_byteLength gone
    rw [decide_eq_true hSame, bne_iff_ne]
    omega

theorem shiftEach_eq {checked : Text → Checked (Text × Bool)} {shift : Text → Text}
    (hShift : ∀ line, checked line = .ok (shift line, decide (shift line ≠ line)))
    (i : Nat) (lines : List Text) :
    shiftEach checked first last i lines =
      .ok (lines.mapIdx fun j line => if first ≤ i + j ∧ i + j ≤ last then shift line else line,
        decide ((lines.mapIdx fun j line =>
          if first ≤ i + j ∧ i + j ≤ last then shift line else line) ≠ lines)) := by
  induction lines generalizing i with
  | nil => rfl
  | cons line lines ih =>
      have hRest :
          (fun j line => if first ≤ i + 1 + j ∧ i + 1 + j ≤ last then shift line else line) =
            fun j line => if first ≤ i + (j + 1) ∧ i + (j + 1) ≤ last then shift line else line := by
        funext j line
        rw [Nat.add_right_comm, Nat.add_assoc]
      rw [shiftEach, ih, List.mapIdx_cons, hRest, Nat.add_zero]
      by_cases hInside : first ≤ i ∧ i ≤ last
      · rw [if_neg (by omega), hShift, if_pos hInside]
        simp
      · rw [if_pos (by omega), if_neg hInside]
        simp

/-- Lines shifted one by one are shifted, and they are the same exactly if no flag was
raised. -/
theorem shiftEach_zero {checked : Text → Checked (Text × Bool)} {shift : Text → Text}
    (hShift : ∀ line, checked line = .ok (shift line, decide (shift line ≠ line)))
    (lines : List Text) :
    shiftEach checked first last 0 lines =
      .ok (Operator.shiftedLines lines first last shift,
        decide (Operator.shiftedLines lines first last shift ≠ lines)) := by
  have hNumbers : (lines.mapIdx fun j line =>
      if first ≤ 0 + j ∧ 0 + j ≤ last then shift line else line) =
      Operator.shiftedLines lines first last shift := by
    simp only [Nat.zero_add, Operator.shiftedLines]
  rw [shiftEach_eq hShift, hNumbers]

theorem take_shiftedLines (lines : List Text) (first last : Nat) (shift : Text → Text) :
    (Operator.shiftedLines lines first last shift).take first = lines.take first := by
  refine List.ext_getElem? fun number => ?_
  rw [List.getElem?_take, List.getElem?_take, Operator.shiftedLines, List.getElem?_mapIdx]
  by_cases hAbove : number < first
  · rw [if_pos hAbove, if_pos hAbove]
    cases lines[number]? with
    | none => rfl
    | some line => rw [Option.map_some, if_neg (by omega)]
  · rw [if_neg hAbove, if_neg hAbove]

theorem shiftLines_eq {indents : Bool} {shift : Text → Text}
    (hShift : ∀ line, shiftLine indents buffer.tabSize (List.replicate buffer.tabSize ' ') line =
      .ok (shift line, decide (shift line ≠ line)))
    (hLonger : ∀ line, (shift line).length ≤ line.length + buffer.tabSize)
    (hTab : buffer.tabSize ≤ maxBytes) (hSome : ¬(buffer.tabSize = 0 ∧ indents = true))
    (hSize : buffer.text.length + buffer.tabSize < wordSize) (span : Span) :
    shiftLines buffer span indents = .ok (Operator.shiftLines buffer span shift) := by
  have hLines : buffer.lines ≠ [] := splitLines_ne_nil buffer.text
  obtain ⟨hOrder, hLast⟩ := Operator.lineSpan_bounds buffer span
  rw [shiftLines, if_neg hSome, lineSpan_eq hLines, ok_bind, Operator.shiftLines]
  simp only [← Operator.shiftedLines.eq_1]
  generalize Operator.lineSpan buffer.lines span = ends at hOrder hLast ⊢
  obtain ⟨first, last⟩ := ends
  dsimp only at hOrder hLast ⊢
  have hPad : padding buffer.tabSize = .ok (List.replicate buffer.tabSize ' ') := if_pos hTab
  rw [hPad, ok_bind, shiftEach_zero hShift, ok_bind]
  have hAbove := take_shiftedLines buffer.lines first last shift
  have hFirst : first < buffer.lines.length := by omega
  have hLine : lineLength (Operator.shiftedLines buffer.lines first last shift) first ≤
      lineLength buffer.lines first + buffer.tabSize := by
    rw [lineLength, Operator.lineAt_shiftedLines hFirst, if_pos ⟨Nat.le_refl _, hOrder⟩]
    exact hLonger _
  have hNumber : first < (Operator.shiftedLines buffer.lines first last shift).length := by
    rwa [Operator.length_shiftedLines]
  have hStart := lineStart_add_le hFirst (Nat.le_refl _)
  rw [Buffer.lines, joinLines_splitLines, ← Buffer.lines, ← lineStart_take (Nat.le_refl first),
    ← hAbove, lineStart_take (Nat.le_refl first)] at hStart
  generalize Operator.shiftedLines buffer.lines first last shift = shifted
    at hAbove hLine hNumber hStart ⊢
  by_cases hSame : shifted = buffer.lines
  · rw [if_pos hSame, decide_eq_false (not_not.mpr hSame)]
    rfl
  · have hBottom := Position.min_lastLine_of_lt hNumber
    rw [if_neg hSame, decide_eq_true hSame]
    dsimp only
    rw [if_pos rfl, nth_lineAt hNumber, ok_bind,
      ofLineColumn_eq (List.length_pos_iff.mp (by omega)) (by rw [hBottom]; omega), ok_bind,
      pure_eq]

theorem shiftLines_indent_eq (hText : byteLength buffer.text ≤ maxBytes)
    (hTab : buffer.tabSize ≤ maxBytes) (span : Span) :
    shiftLines buffer span true =
      .ok (Operator.shiftLines buffer span (Operator.indentLine buffer.tabSize)) := by
  have hRoom := length_add_maxBytes_lt hText
  by_cases hNone : buffer.tabSize = 0
  · -- Without a width nothing is put in front, and no line changes.
    have hBounds := Operator.lineSpan_bounds buffer span
    have hSame : Operator.shiftLines buffer span (Operator.indentLine buffer.tabSize) = none := by
      rw [Operator.shiftLines_eq_none_iff, Operator.shiftedLines_eq_self_iff hBounds.2, hNone]
      exact fun _ _ _ => rfl
    rw [shiftLines, if_pos ⟨hNone, rfl⟩, hSame, pure_eq]
  · refine shiftLines_eq (fun line => ?_) (fun line => ?_) hTab (fun h => hNone h.1)
      (by omega) span
    · have hChange : Operator.indentLine buffer.tabSize line ≠ line := by
        intro hSame
        have hMore := congrArg List.length hSame
        rw [Operator.indentLine, List.length_append, List.length_replicate] at hMore
        omega
      rw [shiftLine, if_pos rfl, decide_eq_true hChange, pure_eq]
      rfl
    · rw [Operator.indentLine, List.length_append, List.length_replicate]
      omega

theorem shiftLines_outdent_eq (hText : byteLength buffer.text ≤ maxBytes)
    (hTab : buffer.tabSize ≤ maxBytes) (span : Span) :
    shiftLines buffer span false =
      .ok (Operator.shiftLines buffer span (Operator.outdentLine buffer.tabSize)) := by
  have hRoom := length_add_maxBytes_lt hText
  refine shiftLines_eq (fun line => ?_) (fun line => ?_) hTab
    (fun h => Bool.false_ne_true h.2) (by omega) span
  · rw [shiftLine, if_neg Bool.false_ne_true, outdentLine_eq, ok_bind, pure_eq,
      bne_byteLength_outdentLine]
  · have hShorter := (Operator.losesIndentation_outdentLine buffer.tabSize line).isSuffix.length_le
    omega

/-! ## Replacing -/

/-- No character has more than four bytes. -/
theorem byteLength_replicate_le (count : Nat) (c : Char) :
    byteLength (List.replicate count c) ≤ 4 * count := by
  induction count with
  | zero => exact Nat.le_refl 0
  | succ count ih =>
      have hSize := c.utf8Size_le_four
      rw [List.replicate_succ, byteLength_cons]
      omega

theorem replaceChars_eq {start : Position} {count : Nat} (hStart : start.IsIn buffer.text)
    (hText : byteLength buffer.text ≤ maxBytes) (hOnce : 1 ≤ count) (hCount : count ≤ maxCount)
    (fill : Char) :
    replaceChars buffer start count fill =
      .ok (Operator.replaceChars buffer start count fill) := by
  have hRoom := length_add_maxBytes_lt hText
  have hMost : 4 * maxCount ≤ maxBytes := by decide
  have hTwice : maxBytes + maxBytes < wordSize := by decide
  have hLine : start.line < buffer.lines.length := (Position.isIn_iff.mp hStart).1
  rw [replaceChars, Operator.replaceChars]
  dsimp only
  by_cases hEnd : start.offset ≥ buffer.text.length
  · rw [if_pos hEnd, if_pos (.inl hEnd), pure_eq]
  rw [if_neg hEnd, nth_lineAt hLine, ok_bind, ← lineLength]
  by_cases hShort : lineLength buffer.lines start.line - start.column = 0 ∨
      count > lineLength buffer.lines start.line - start.column
  · rw [if_pos hShort, if_pos (.inr hShort), pure_eq]
  rw [if_neg hShort, if_neg (not_or.mpr ⟨hEnd, hShort⟩), add_eq (by omega), ok_bind,
    sliceChars_eq _ (Nat.le_add_right _ _), ok_bind]
  generalize hFilling : (if fill = lineFeed then [lineFeed] else List.replicate count fill) =
    filling
  have hBytes : byteLength filling ≤ 4 * count := by
    rw [← hFilling]
    split
    · have hFeed : byteLength [lineFeed] = 1 := rfl
      omega
    · exact byteLength_replicate_le count fill
  have hFinal : (buffer.text.take start.offset ++ filling ++
      buffer.text.drop (start.offset + count)).length < wordSize := by
    have hFew := length_le_byteLength filling
    rw [List.length_append, List.length_append, List.length_take, List.length_drop]
    omega
  rw [add_eq (by omega), ok_bind, sliceBytes_start, ok_bind, sliceBytes_end, ok_bind]
  by_cases hFeed : fill = lineFeed
  · rw [if_pos hFeed, if_pos hFeed, add_eq (by omega), ok_bind, ofOffset_eq hFinal, ok_bind,
      pure_eq]
  · rw [if_neg hFeed, if_neg hFeed, ok_bind, sub_eq (by omega), ok_bind, ofOffset_eq hFinal,
      ok_bind, pure_eq]

/-! ## Operators -/

/-- No operator fails on a span of the text. -/
theorem apply_eq (hSpan : span.IsIn buffer.text) (hText : byteLength buffer.text ≤ maxBytes)
    (hTab : buffer.tabSize ≤ maxBytes) {count : Nat} (hCount : count ≤ maxCount)
    (operator : Operator) :
    apply operator buffer span count = .ok (operator.apply buffer span count) := by
  have hRoom := length_add_maxBytes_lt hText
  have hSize : buffer.text.length + 1 < wordSize := by omega
  rw [apply.eq_def, Operator.apply.eq_def]
  by_cases hEmpty : buffer.text.isEmpty
  · rw [if_pos hEmpty, if_pos hEmpty, pure_eq]
  rw [if_neg hEmpty, if_neg hEmpty]
  cases hWhole : span.linewise with
  | true =>
      cases operator with
      | delete | change => simp only [if_true, deleteLines_eq hSize, map_ok]
      | yank => exact yankSpan_eq hSpan hSize
      | indent => simp only [if_true, shiftLines_indent_eq hText hTab]
      | outdent => simp only [if_true, shiftLines_outdent_eq hText hTab]
      | replace fill => simp only [if_true, pure_eq]
  | false =>
      cases operator with
      | delete | change =>
          simp only [Bool.false_eq_true, if_false, deleteChars_eq hSpan hSize]
      | yank => exact yankSpan_eq hSpan hSize
      | indent | outdent => simp only [Bool.false_eq_true, if_false, pure_eq]
      | replace fill =>
          have hMost : max count 1 ≤ maxCount := Nat.max_le.mpr ⟨hCount, by decide⟩
          simp only [Bool.false_eq_true, if_false,
            replaceChars_eq hSpan.ordered_fst hText (Nat.le_max_right _ _) hMost]

/-- Whether a span lies in a text, and no operator goes wrong on it in a buffer with that text
whose tab stops can be padded.  The cursor of an outcome is then in the text that it leaves. -/
structure IsSafe (text : Text) (span : Span) : Prop where
  isIn : span.IsIn text
  apply_eq : ∀ buffer : Buffer, buffer.text = text → buffer.tabSize ≤ maxBytes →
    ∀ (operator : Operator) (count : Nat), count ≤ maxCount →
      apply operator buffer span count = .ok (operator.apply buffer span count)
  coherent : ∀ buffer : Buffer, buffer.text = text → ∀ (operator : Operator) (count : Nat),
    ∀ outcome ∈ operator.apply buffer span count, outcome.Coherent text

theorem isSafe_of_isIn (hText : byteLength text ≤ maxBytes) (h : span.IsIn text) :
    IsSafe text span := by
  refine ⟨h, ?_, ?_⟩
  · rintro buffer rfl hTab operator count hCount
    exact Checked.apply_eq h hText hTab hCount operator
  · rintro buffer rfl operator count outcome hOutcome
    exact Operator.coherent_of_apply h hOutcome

/-- From a position of a text no motion with a typed count goes wrong, whatever the screen, the
matches and the goal column are said to be.  Its span lies in the text, and no operator goes
wrong on it.  The same holds of the span that `cw` changes. -/
theorem motions_and_operators_stay_in_bounds {cursor : Position} {count : Count}
    (hText : byteLength text ≤ maxBytes) (hCursor : cursor.IsIn text)
    (hCount : count.value ≤ maxCount) (circumstances : Circumstances) :
    (∀ motion : Motion,
      motionSpan motion (splitLines text) cursor count circumstances =
        .ok (motion.span (splitLines text) cursor count circumstances) ∧
      IsSafe text (motion.span (splitLines text) cursor count circumstances)) ∧
    changeWordSpan (splitLines text) cursor count.value =
      .ok (Motion.changeWordSpan (splitLines text) cursor count.value) ∧
    IsSafe text (Motion.changeWordSpan (splitLines text) cursor count.value) := by
  have hBytes := length_add_maxBytes_lt hText
  have hMost : maxCount ≤ maxBytes := by decide
  have hRoom : text.length + maxCount + 1 < wordSize := by omega
  refine ⟨fun motion => ⟨?_, ?_⟩, ?_, ?_⟩
  · exact motionSpan_eq hRoom hCursor hCount motion circumstances
  · exact isSafe_of_isIn hText (Motion.isIn_span hCursor motion count circumstances)
  · exact changeWordSpan_eq (by omega) cursor count.value
  · exact isSafe_of_isIn hText (Motion.isIn_changeWordSpan hCursor count.value)

/-- A screen and matches far outside the text, and the largest count, lead to the line that
there is, which is then indented. -/
theorem screen_outside_text_is_cut :
    let text : Text := ['a', '\n', 'b']
    let surroundings : Surroundings := ⟨some ⟨wordSize - 1, wordSize - 1⟩, [⟨wordSize - 1, 0⟩]⟩
    let span : Span := ⟨⟨1, 1, 3⟩, ⟨1, 0, 2⟩, false, true⟩
    byteLength text ≤ maxBytes ∧ (⟨1, 1, 3⟩ : Position).IsIn text ∧
      motionSpan .screenBottom (splitLines text) ⟨1, 1, 3⟩ ⟨maxCount, true⟩
        ⟨true, none, surroundings⟩ = .ok span ∧
      apply .indent ⟨text, Position.origin, 2⟩ span 1 =
        .ok (some ⟨some ['a', '\n', ' ', ' ', 'b'], ⟨1, 2, 4⟩, none⟩) := by
  intro text surroundings span
  have hText : byteLength text ≤ maxBytes := by decide
  have hCursor : (⟨1, 1, 3⟩ : Position).IsIn text := rfl
  have hCount : (⟨maxCount, true⟩ : Count).value ≤ maxCount := Nat.le_refl maxCount
  obtain ⟨hMotions, -⟩ :=
    motions_and_operators_stay_in_bounds hText hCursor hCount ⟨true, none, surroundings⟩
  obtain ⟨hSpan, hSafe⟩ := hMotions .screenBottom
  have hPlace : Motion.screenBottom.span (splitLines text) ⟨1, 1, 3⟩ ⟨maxCount, true⟩
      ⟨true, none, surroundings⟩ = span := by decide +kernel
  rw [hPlace] at hSpan hSafe
  refine ⟨hText, hCursor, hSpan, ?_⟩
  rw [hSafe.apply_eq _ rfl (by decide) .indent 1 (by decide)]
  rfl

/-- A cursor on a line that is not there is enough for a motion to go wrong. -/
example : motionSpan .firstNonBlank [['a']] ⟨1, 0, 2⟩ .once ⟨false, none, .unknown⟩ =
    .error .index := rfl

end Checked

end ModalEditor
