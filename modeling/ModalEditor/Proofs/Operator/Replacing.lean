import ModalEditor.Proofs.Operator
import ModalEditor.Proofs.Text.LineCharacters

namespace ModalEditor

/-!
# Replacing characters

Replacing overwrites a run of characters on the line of the cursor, and nothing if the line
does not have that many.  The text is taken apart around the run: the lines above, the head
and the tail of the line, and the lines below all stay.  A line feed that takes the place of
the run makes lines of the head and the tail.
-/

/-- Whether a text is taken apart around a run of characters that starts at a position and
stays on its line. -/
structure IsRunOnLine (text : Text) (start : Position) (above : List Text)
    (head run tail : Text) (below : List Text) : Prop where
  start_isIn : start.IsIn text
  lines_eq : splitLines text = above ++ (head ++ run ++ tail) :: below
  length_above : above.length = start.line
  length_head : head.length = start.column

section Runs

theorem lineLength_append_length (above : List Text) (line : Text) (below : List Text) :
    lineLength (above ++ line :: below) above.length = line.length := by
  simp [lineLength, lineAt]

variable {text : Text} {start : Position} {above below : List Text}
  {head run tail filling : Text} {count : Nat}

theorem exists_isRunOnLine (hStart : start.IsIn text)
    (h : start.column + count ≤ lineLength (splitLines text) start.line) :
    ∃ above head run tail below,
      IsRunOnLine text start above head run tail below ∧ run.length = count := by
  obtain ⟨hLine, -, -⟩ := Position.isIn_iff.mp hStart
  generalize hSplit : splitLines text = lines at h hLine
  rw [lineLength, lineAt_eq_getElem hLine] at h
  refine ⟨lines.take start.line, lines[start.line].take start.column,
    (lines[start.line].drop start.column).take count,
    lines[start.line].drop (start.column + count), lines.drop (start.line + 1),
    ⟨hStart, ?_, List.length_take_of_le (by omega), List.length_take_of_le (by omega)⟩, ?_⟩
  · rw [hSplit, List.append_assoc, ← List.drop_drop, List.take_append_drop,
      List.take_append_drop, ← List.drop_eq_getElem_cons hLine, List.take_append_drop]
  · rw [List.length_take, List.length_drop]
    omega

namespace IsRunOnLine

variable (h : IsRunOnLine text start above head run tail below)

include h

theorem text_eq :
    text = (above.flatMap (· ++ [lineFeed]) ++ head) ++ run ++
      (tail ++ below.flatMap (lineFeed :: ·)) := by
  rw [← joinLines_splitLines text, h.lines_eq, joinLines_append_left above (List.cons_ne_nil _ _),
    joinLines_cons]
  simp only [List.append_assoc]

theorem length_before :
    (above.flatMap (· ++ [lineFeed]) ++ head).length = start.offset := by
  obtain ⟨-, -, hOffset⟩ := Position.isIn_iff.mp h.start_isIn
  rw [hOffset, List.length_append, h.length_head, h.lines_eq, ← h.length_above,
    lineStart_append_length above (List.cons_ne_nil _ _)]

theorem take_eq : text.take start.offset = above.flatMap (· ++ [lineFeed]) ++ head := by
  rw [h.text_eq, List.append_assoc, ← h.length_before, List.take_left]

theorem drop_eq :
    text.drop (start.offset + run.length) = tail ++ below.flatMap (lineFeed :: ·) := by
  rw [h.text_eq, ← h.length_before, ← List.length_append, List.drop_left]

theorem slice_eq : Operator.slice text start.offset (start.offset + run.length) = run := by
  rw [Operator.slice, h.text_eq, ← h.length_before, ← List.length_append, List.take_left,
    List.drop_left]

/-- The text is what comes before the run, the run and what comes after it. -/
theorem take_run_drop :
    text = text.take start.offset ++ run ++ text.drop (start.offset + run.length) := by
  rw [h.take_eq, h.drop_eq]
  exact h.text_eq

theorem add_length_le : start.offset + run.length ≤ text.length := by
  rw [h.text_eq, List.length_append, List.length_append, h.length_before]
  exact Nat.le_add_right _ _

/-- No part of a line holds a line feed. -/
theorem noFeed : (∀ line ∈ above, lineFeed ∉ line) ∧ lineFeed ∉ head ∧ lineFeed ∉ tail ∧
    ∀ line ∈ below, lineFeed ∉ line := by
  have hLines := (areLines_splitLines text).noFeed
  rw [h.lines_eq] at hLines
  have hLine : lineFeed ∉ head ++ run ++ tail :=
    hLines _ (List.mem_append_right _ List.mem_cons_self)
  simp only [List.mem_append, not_or] at hLine
  exact ⟨fun line hAbove => hLines line (List.mem_append_left _ hAbove), hLine.1.1, hLine.2,
    fun line hBelow => hLines line (List.mem_append_right _ (List.mem_cons_of_mem _ hBelow))⟩

/-- What takes the place of the run changes its line only. -/
theorem splitLines_overwritten (hFilling : lineFeed ∉ filling) :
    splitLines (text.take start.offset ++ filling ++ text.drop (start.offset + run.length)) =
      above ++ (head ++ filling ++ tail) :: below := by
  obtain ⟨hAbove, hHead, hTail, hBelow⟩ := h.noFeed
  have hLines : AreLines (above ++ (head ++ filling ++ tail) :: below) := by
    refine ⟨by simp, fun line hLine => ?_⟩
    rcases List.mem_append.mp hLine with hLine | hLine
    · exact hAbove line hLine
    · rcases List.mem_cons.mp hLine with rfl | hLine
      · simp [hHead, hFilling, hTail]
      · exact hBelow line hLine
  rw [← splitLines_joinLines hLines, h.take_eq, h.drop_eq,
    joinLines_append_left above (List.cons_ne_nil _ _), joinLines_cons]
  simp only [List.append_assoc]

/-- A line feed that takes the place of the run breaks its line in two. -/
theorem splitLines_broken :
    splitLines (text.take start.offset ++ [lineFeed] ++
        text.drop (start.offset + run.length)) = above ++ head :: tail :: below := by
  obtain ⟨hAbove, hHead, hTail, hBelow⟩ := h.noFeed
  have hLines : AreLines (above ++ head :: tail :: below) := by
    refine ⟨by simp, fun line hLine => ?_⟩
    rcases List.mem_append.mp hLine with hLine | hLine
    · exact hAbove line hLine
    · rcases List.mem_cons.mp hLine with rfl | hLine
      · exact hHead
      · rcases List.mem_cons.mp hLine with rfl | hLine
        · exact hTail
        · exact hBelow line hLine
  rw [← splitLines_joinLines hLines, h.take_eq, h.drop_eq,
    joinLines_append_left above (List.cons_ne_nil _ _),
    joinLines_cons_cons head (List.cons_ne_nil _ _), joinLines_cons]
  simp only [List.append_assoc, List.singleton_append]

/-- Each place on the line of the run is still the head's length past the start of it. -/
theorem offset_eq {lines : List Text} (hLines : lines ≠ []) :
    start.offset = lineStart (above ++ lines) start.line + start.column := by
  rw [← h.length_before, ← h.length_above, ← h.length_head, lineStart_append_length above hLines,
    List.length_append]

/-- The last of the characters that took the place of the run is on the same line. -/
theorem ofOffset_overwritten (hFilling : lineFeed ∉ filling) (hLength : filling.length = count)
    (hSome : 1 ≤ count) :
    Position.ofOffset
        (text.take start.offset ++ filling ++ text.drop (start.offset + run.length))
        (start.offset + count - 1) =
      ⟨start.line, start.column + count - 1, start.offset + count - 1⟩ := by
  have hSplit := h.splitLines_overwritten hFilling
  have hOffset := h.offset_eq (List.cons_ne_nil (head ++ filling ++ tail) below)
  generalize text.take start.offset ++ filling ++ text.drop (start.offset + run.length) = new
    at hSplit
  have hPlace : (⟨start.line, start.column + count - 1, start.offset + count - 1⟩ :
      Position).IsIn new := by
    rw [Position.isIn_iff, hSplit]
    have hLine : lineLength (above ++ (head ++ filling ++ tail) :: below) start.line =
        start.column + count + tail.length := by
      rw [← h.length_above, lineLength_append_length, List.length_append, List.length_append,
        h.length_head, hLength]
    refine ⟨?_, ?_, ?_⟩
    · show start.line < _
      rw [List.length_append, h.length_above, List.length_cons]
      omega
    · show start.column + count - 1 ≤ lineLength _ start.line
      omega
    · show start.offset + count - 1 = lineStart _ start.line + (start.column + count - 1)
      omega
  exact hPlace.symm

/-- After a line feed in the place of the run comes the start of the next line. -/
theorem ofOffset_broken :
    Position.ofOffset
        (text.take start.offset ++ [lineFeed] ++ text.drop (start.offset + run.length))
        (start.offset + 1) = ⟨start.line + 1, 0, start.offset + 1⟩ := by
  have hSplit := h.splitLines_broken
  have hOffset := h.offset_eq (List.cons_ne_nil head (tail :: below))
  generalize text.take start.offset ++ [lineFeed] ++ text.drop (start.offset + run.length) = new
    at hSplit
  have hPlace : (⟨start.line + 1, 0, start.offset + 1⟩ : Position).IsIn new := by
    rw [Position.isIn_iff, hSplit]
    have hLine : lineLength (above ++ head :: tail :: below) start.line = start.column := by
      rw [← h.length_above, lineLength_append_length, h.length_head]
    have hCount : start.line + 1 < (above ++ head :: tail :: below).length := by
      rw [List.length_append, h.length_above, List.length_cons, List.length_cons]
      omega
    have hNext := lineStart_succ (Nat.lt_of_succ_lt hCount)
    refine ⟨hCount, Nat.zero_le _, ?_⟩
    show start.offset + 1 = lineStart _ (start.line + 1) + 0
    omega
  exact hPlace.symm

end IsRunOnLine

end Runs

namespace Operator

variable {buffer : Buffer} {count : Nat} {fill : Char} {outcome : OperatorOutcome}

/-- The characters of a text some of which were overwritten. -/
theorem getElem?_overwritten {text : Text} {start : Nat} (h : start + count ≤ text.length)
    (fill : Char) (i : Nat) :
    (text.take start ++ List.replicate count fill ++ text.drop (start + count))[i]? =
      if start ≤ i ∧ i < start + count then some fill else text[i]? := by
  have hBefore : (text.take start).length = start := List.length_take_of_le (by omega)
  rcases Nat.lt_or_ge i start with hLess | hStart
  · rw [List.append_assoc, List.getElem?_append_left (by omega), List.getElem?_take_of_lt hLess,
      if_neg (by omega)]
  · rw [List.append_assoc, List.getElem?_append_right (by omega), hBefore]
    rcases Nat.lt_or_ge i (start + count) with hInside | hPast
    · rw [List.getElem?_append_left (by rw [List.length_replicate]; omega),
        List.getElem?_replicate_of_lt (by omega), if_pos ⟨hStart, hInside⟩]
    · rw [List.getElem?_append_right (by rw [List.length_replicate]; omega),
        List.length_replicate, List.getElem?_drop, if_neg (by omega)]
      congr 1
      omega

theorem replaceChars_eq_none_iff (hCursor : buffer.Coherent) (hCount : 1 ≤ count) (fill : Char) :
    replaceChars buffer buffer.cursor count fill = none ↔
      lineLength buffer.lines buffer.cursor.line - buffer.cursor.column < count := by
  simp only [replaceChars, ite_eq_left_iff, reduceCtorEq, imp_false, not_not]
  constructor
  · rintro (hEnd | hNone | hFew)
    · -- At the end of the text the line ends, too.
      refine Nat.lt_of_not_le fun hRoom => ?_
      have hChar := Position.IsIn.getElem?_eq hCursor (by rw [← Buffer.lines]; omega)
      rw [List.getElem?_eq_none hEnd, eq_comm, List.getElem?_eq_none_iff] at hChar
      have hColumn : buffer.cursor.column <
          (lineAt (splitLines buffer.text) buffer.cursor.line).length := by
        rw [← Buffer.lines, ← lineLength]
        omega
      omega
    · omega
    · exact hFew
  · intro hFew
    exact .inr (.inr hFew)

/-- An empty text has no character on its line, so replacing does not need to ask for one. -/
theorem apply_replace (hCursor : buffer.Coherent) (hCount : 1 ≤ count) (fill : Char) :
    (Operator.replace fill).apply buffer (Span.empty buffer.cursor) count =
      replaceChars buffer buffer.cursor count fill := by
  simp only [apply]
  split
  · next hText =>
      rw [List.isEmpty_iff] at hText
      symm
      rw [replaceChars_eq_none_iff hCursor hCount]
      obtain ⟨line, column, offset⟩ := buffer.cursor
      cases line <;> simp [Buffer.lines, hText, splitLines, lineLength, lineAt] <;> omega
  · simp only [Span.empty, Span.ordered, Nat.max_eq_left hCount, Bool.false_eq_true, if_false,
      Nat.le_refl, if_true]

/-- What replacing characters does where the line has them. -/
theorem replaceChars_of_isRunOnLine {above below : List Text} {head run tail : Text}
    (h : IsRunOnLine buffer.text buffer.cursor above head run tail below)
    (hCount : 1 ≤ run.length)
    (hOutcome : replaceChars buffer buffer.cursor run.length fill = some outcome) :
    let filling := if fill = lineFeed then [lineFeed] else List.replicate run.length fill
    let start := buffer.cursor.offset
    outcome.text =
        some (buffer.text.take start ++ filling ++ buffer.text.drop (start + run.length)) ∧
      outcome.write = some ⟨run, false⟩ ∧
      outcome.cursor =
        if fill = lineFeed then ⟨buffer.cursor.line + 1, 0, start + 1⟩
        else ⟨buffer.cursor.line, buffer.cursor.column + run.length - 1,
          start + run.length - 1⟩ := by
  intro filling start
  simp only [replaceChars] at hOutcome
  split at hOutcome
  · cases hOutcome
  · cases hOutcome
    refine ⟨rfl, by rw [h.slice_eq], ?_⟩
    by_cases hFill : fill = lineFeed
    · simp only [hFill, if_true]
      exact h.ofOffset_broken
    · have hNoFeed : lineFeed ∉ List.replicate run.length fill :=
        fun hFeed => hFill (List.eq_of_mem_replicate hFeed).symm
      simp only [hFill, if_false]
      exact h.ofOffset_overwritten hNoFeed List.length_replicate hCount

/-- Replacing a number of characters from the cursor on has no outcome exactly if its line has
fewer than that left.  Otherwise they are in the register.  A character other than the line
feed takes the place of each of them: all other characters and the lengths of the lines stay,
and the cursor is on the last one replaced.  A line feed takes the place of all of them: there
is one line more, and the cursor is at its start. -/
theorem replacement_overwrites_exactly (hCursor : buffer.Coherent) (hCount : 1 ≤ count)
    (fill : Char) :
    let start := buffer.cursor.offset
    let result := (Operator.replace fill).apply buffer (Span.empty buffer.cursor) count
    (result = none ↔
      lineLength buffer.lines buffer.cursor.line - buffer.cursor.column < count) ∧
    ∀ outcome ∈ result, ∃ text taken,
      outcome.text = some text ∧ outcome.write = some ⟨taken, false⟩ ∧
      taken.length = count ∧
      buffer.text = buffer.text.take start ++ taken ++ buffer.text.drop (start + count) ∧
      (fill ≠ lineFeed →
        text.length = buffer.text.length ∧
        (splitLines text).map List.length = buffer.lines.map List.length ∧
        (∀ i, text[i]? =
          if start ≤ i ∧ i < start + count then some fill else buffer.text[i]?) ∧
        outcome.cursor =
          ⟨buffer.cursor.line, buffer.cursor.column + count - 1, start + count - 1⟩) ∧
      (fill = lineFeed →
        text = buffer.text.take start ++ [lineFeed] ++ buffer.text.drop (start + count) ∧
        (splitLines text).length = buffer.lines.length + 1 ∧
        outcome.cursor = ⟨buffer.cursor.line + 1, 0, start + 1⟩) := by
  intro start result
  rw [show result = _ from apply_replace hCursor hCount fill]
  refine ⟨replaceChars_eq_none_iff hCursor hCount fill, fun outcome hOutcome => ?_⟩
  have hRoom : ¬lineLength buffer.lines buffer.cursor.line - buffer.cursor.column < count := by
    rw [← replaceChars_eq_none_iff hCursor hCount fill, hOutcome]
    exact Option.some_ne_none outcome
  have hEnd : buffer.cursor.column + count ≤
      lineLength (splitLines buffer.text) buffer.cursor.line := by
    rw [← Buffer.lines]
    omega
  obtain ⟨above, head, run, tail, below, hRun, rfl⟩ := exists_isRunOnLine hCursor hEnd
  obtain ⟨hText, hWrite, hPlace⟩ := replaceChars_of_isRunOnLine hRun hCount hOutcome
  have hInside := hRun.add_length_le
  refine ⟨_, run, hText, hWrite, rfl, hRun.take_run_drop, fun hFill => ?_, fun hFill => ?_⟩
  · rw [if_neg hFill] at hPlace ⊢
    have hNoFeed : lineFeed ∉ List.replicate run.length fill :=
      fun hFeed => hFill (List.eq_of_mem_replicate hFeed).symm
    refine ⟨?_, ?_, getElem?_overwritten hInside fill, hPlace⟩
    · rw [List.length_append, List.length_append, List.length_replicate, List.length_drop,
        List.length_take_of_le (by omega)]
      omega
    · rw [hRun.splitLines_overwritten hNoFeed, Buffer.lines, hRun.lines_eq]
      simp
  · rw [if_pos hFill] at hPlace ⊢
    refine ⟨rfl, ?_, hPlace⟩
    rw [hRun.splitLines_broken, Buffer.lines, hRun.lines_eq]
    simp only [List.length_append, List.length_cons]
    omega

/-- Two characters of the second line give way to letters, and the first line keeps its
length. -/
theorem two_characters_are_overwritten :
    let buffer : Buffer := ⟨['a', '\n', 'é', 'b', 'c'], ⟨1, 0, 2⟩, 4⟩
    (buffer.Coherent ∧ 1 ≤ 2) ∧
      ∃ outcome text, (Operator.replace 'x').apply buffer (Span.empty buffer.cursor) 2 =
          some outcome ∧ outcome.text = some text ∧
        (splitLines text).map List.length = [1, 3] ∧ text[3]? = some 'x' ∧
        outcome.cursor = ⟨1, 1, 3⟩ := by
  intro buffer
  have hCursor : buffer.Coherent := rfl
  obtain ⟨hNone, hSome⟩ := replacement_overwrites_exactly hCursor (show 1 ≤ 2 by decide) 'x'
  obtain ⟨outcome, hOutcome⟩ := Option.ne_none_iff_exists'.mp fun hFew =>
    absurd (hNone.mp hFew) (by decide)
  obtain ⟨text, -, hText, -, -, -, hLetters, -⟩ := hSome outcome hOutcome
  obtain ⟨-, hLines, hChars, hPlace⟩ := hLetters (by decide)
  exact ⟨⟨hCursor, by decide⟩, outcome, text, hOutcome, hText, hLines, hChars 3, hPlace⟩

end Operator

end ModalEditor
