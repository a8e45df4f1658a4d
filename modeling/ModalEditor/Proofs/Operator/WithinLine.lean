import ModalEditor.Proofs.Operator.Replacing
import ModalEditor.Proofs.Operator.Taking

namespace ModalEditor

/-!
# Taking characters out of a line

A motion along the line of the cursor that stops before its target passes over characters
of the line, so an operator takes nothing else.  The motion to the end of the line includes
the character that it leads to.  Where the cursor is on the line break, that motion goes
back, and what it includes is the line break.
-/

/-- Whether a text is another one without a run of characters of one line. -/
structure LosesOnLine (old new : Text) (number : Nat) : Prop where
  line : ∃ head run tail, lineAt (splitLines old) number = head ++ run ++ tail ∧
    lineAt (splitLines new) number = head ++ tail
  length : (splitLines new).length = (splitLines old).length
  others : ∀ other, other ≠ number → lineAt (splitLines new) other = lineAt (splitLines old) other

section Lines

variable {text : Text} {number first stop : Nat}

theorem lineAt_append_cons (above : List Text) (line : Text) (below : List Text) :
    lineAt (above ++ line :: below) above.length = line := by
  simp [lineAt]

/-- The line at one place says nothing about the lines at others. -/
theorem lineAt_append_cons_of_ne {above : List Text} {other : Nat} (h : other ≠ above.length)
    (line line' : Text) (below : List Text) :
    lineAt (above ++ line :: below) other = lineAt (above ++ line' :: below) other := by
  simp only [lineAt, List.getD_eq_getElem?_getD]
  rcases Nat.lt_or_gt_of_ne h with hAbove | hBelow
  · rw [List.getElem?_append_left hAbove, List.getElem?_append_left hAbove]
  · rw [List.getElem?_append_right (Nat.le_of_lt hBelow),
      List.getElem?_append_right (Nat.le_of_lt hBelow)]
    obtain ⟨past, hPast⟩ : ∃ past, other - above.length = past + 1 :=
      ⟨other - above.length - 1, by omega⟩
    rw [hPast, List.getElem?_cons_succ, List.getElem?_cons_succ]

/-- What is cut out between two columns of a line is a run of its characters. -/
theorem losesOnLine_of_le (hNumber : number < (splitLines text).length) (hOrder : first ≤ stop)
    (hStop : stop ≤ lineLength (splitLines text) number) :
    LosesOnLine text (text.take (lineStart (splitLines text) number + first) ++
      text.drop (lineStart (splitLines text) number + stop)) number := by
  generalize hBegin : lineStart (splitLines text) number + first = start
  have hStart : (⟨number, first, start⟩ : Position).IsIn text :=
    Position.isIn_iff.mpr ⟨hNumber, Nat.le_trans hOrder hStop, hBegin.symm⟩
  obtain ⟨above, head, run, tail, below, hRun, hLength⟩ :=
    exists_isRunOnLine hStart
      (show first + (stop - first) ≤ lineLength (splitLines text) number by omega)
  have hLeft := hRun.splitLines_overwritten List.not_mem_nil
  rw [hLength, List.append_nil, List.append_nil] at hLeft
  have hEnd : lineStart (splitLines text) number + stop = start + (stop - first) := by
    omega
  have hAbove : above.length = number := hRun.length_above
  subst hAbove
  rw [hEnd]
  refine ⟨⟨head, run, tail, ?_, ?_⟩, ?_, fun other hOther => ?_⟩
  · rw [hRun.lines_eq, lineAt_append_cons]
  · rw [hLeft, lineAt_append_cons]
  · rw [hLeft, hRun.lines_eq, List.length_append, List.length_append, List.length_cons,
      List.length_cons]
  · rw [hLeft, hRun.lines_eq]
    exact lineAt_append_cons_of_ne hOther _ _ _

/-- Without a line feed and the character before it, a text has one line less. -/
theorem length_splitLines_joined {c : Char} {rest : Text}
    (hDrop : text.drop first = c :: lineFeed :: rest) (hNoFeed : c ≠ lineFeed) :
    (splitLines (text.take first ++ rest)).length + 1 = (splitLines text).length := by
  have hCount := congrArg (List.count lineFeed) (List.take_append_drop first text)
  rw [hDrop, List.count_append, List.count_cons_of_ne hNoFeed, List.count_cons_self] at hCount
  rw [length_splitLines, length_splitLines, List.count_append, ← hCount]
  omega

end Lines

namespace Operator

/-- What is left of a text without the characters of a span. -/
def withoutSpan (text : Text) (span : Span) : Text :=
  text.take (charSpan text span).1 ++
    text.drop (max (charSpan text span).1 (charSpan text span).2)

variable {buffer : Buffer} {span : Span} {operator : Operator} {text : Text}

theorem withoutSpan_of_le (h : (charSpan text span).2 ≤ (charSpan text span).1) :
    withoutSpan text span = text := by
  rw [withoutSpan, Nat.max_eq_left h, List.take_append_drop]

/-- The operators that take a span out of the text leave the rest, also where the span holds
nothing. -/
theorem apply_text_of_removesSpan (hRemoves : operator.removesSpan = true)
    (hSpan : span.linewise = false) (count : Nat) :
    ((operator.apply buffer span count).bind OperatorOutcome.text).getD buffer.text =
      withoutSpan buffer.text span := by
  by_cases hText : buffer.text = []
  · have hNone : operator.apply buffer span count = none := by
      rw [apply.eq_def, hText]
      rfl
    rw [hNone, withoutSpan, hText, List.take_nil, List.drop_nil]
    rfl
  · rw [apply_of_removesSpan hText hRemoves, hSpan, if_neg Bool.false_ne_true]
    cases hOutcome : deleteChars buffer span with
    | none =>
        have hNothing : (charSpan buffer.text span).2 ≤ (charSpan buffer.text span).1 := by
          simp only [deleteChars] at hOutcome
          split at hOutcome
          next hLess => exact hLess
          next => cases hOutcome
        rw [withoutSpan_of_le hNothing]
        rfl
    | some outcome =>
        obtain ⟨hSome, hLeft, -⟩ := deleteChars_eq_some hOutcome
        rw [withoutSpan, Nat.max_eq_right (Nat.le_of_lt hSome), Option.bind_some, hLeft]
        rfl

/-! ## Spans on one line -/

/-- Whether both ends of a span are on a line. -/
structure IsOnLine (span : Span) (text : Text) (number : Nat) : Prop where
  isIn : span.IsIn text
  start : span.start.line = number
  stop : span.stop.line = number

variable {number : Nat}

/-- Both ends lie between the start of the line and its end. -/
theorem IsOnLine.offsets (h : IsOnLine span text number) :
    let start := lineStart (splitLines text) number
    let length := lineLength (splitLines text) number
    number < (splitLines text).length ∧
      (start ≤ span.start.offset ∧ span.start.offset ≤ start + length) ∧
        start ≤ span.stop.offset ∧ span.stop.offset ≤ start + length := by
  intro start length
  obtain ⟨hLine, hColumn, hOffset⟩ := Position.isIn_iff.mp h.isIn.start
  obtain ⟨-, hStopColumn, hStopOffset⟩ := Position.isIn_iff.mp h.isIn.stop
  rw [h.start] at hLine hColumn hOffset
  rw [h.stop] at hStopColumn hStopOffset
  omega

/-- A span on a line that stops at its end, or before, holds characters of the line only. -/
theorem IsOnLine.losesOnLine (h : IsOnLine span text number)
    (hEnd : (charSpan text span).2 ≤
      lineStart (splitLines text) number + lineLength (splitLines text) number) :
    LosesOnLine text (withoutSpan text span) number := by
  obtain ⟨hLine, hStart, hStop⟩ := h.offsets
  have hFirst := charSpan_fst text span
  -- Both bounds are columns of the line, counted from where it starts.
  obtain ⟨first, hColumns⟩ : ∃ column, (charSpan text span).1 =
      lineStart (splitLines text) number + column :=
    ⟨(charSpan text span).1 - lineStart (splitLines text) number, by omega⟩
  obtain ⟨stop, hColumn⟩ : ∃ column, max (charSpan text span).1 (charSpan text span).2 =
      lineStart (splitLines text) number + column :=
    ⟨max (charSpan text span).1 (charSpan text span).2 - lineStart (splitLines text) number,
      by omega⟩
  rw [withoutSpan, hColumn, hColumns]
  exact losesOnLine_of_le hLine (by omega) (by omega)

/-- So does one that stops before its farther end. -/
theorem IsOnLine.losesOnLine_of_exclusive (h : IsOnLine span text number)
    (hExclusive : span.inclusive = false) :
    LosesOnLine text (withoutSpan text span) number := by
  obtain ⟨-, hStart, hStop⟩ := h.offsets
  refine h.losesOnLine ?_
  rw [charSpan_snd, hExclusive, if_neg Bool.false_ne_true]
  omega

end Operator

/-! ## Motions along a line -/

namespace Motion

/-- Whether a motion leads along the line of the cursor and stops before its target. -/
def stopsOnLine : Motion → Bool
  | .left | .right | .lineStart | .firstNonBlank => true
  | _ => false

variable {text : Text} {cursor : Position} {motion : Motion}

/-- The span of a motion goes from the cursor to where the motion leads, if it leads anywhere.
Only the lines from the cursor on start elsewhere. -/
theorem span_cases (h : motion ≠ .currentLine) (lines : List Text) (cursor : Position)
    (count : Count) (circumstances : Circumstances) :
    motion.span lines cursor count circumstances = Span.empty cursor ∨
      ∃ target, motion.target? lines cursor count circumstances = some target ∧
        motion.span lines cursor count circumstances =
          ⟨cursor, target, motion.isInclusive && decide (lineLength lines target.line > 0),
            motion.isLinewise⟩ := by
  rw [span]
  by_cases hEmpty : isEmptyText lines
  · exact Or.inl (if_pos hEmpty)
  · rw [if_neg hEmpty]
    cases motion.target? lines cursor count circumstances with
    | none => exact Or.inl rfl
    | some target =>
        simp only [if_neg h]
        exact Or.inr ⟨target, rfl, rfl⟩

theorem span_linewise (h : motion.isLinewise = false) (lines : List Text) (cursor : Position)
    (count : Count) (circumstances : Circumstances) :
    (motion.span lines cursor count circumstances).linewise = false := by
  have hMotion : motion ≠ .currentLine := by
    rintro rfl
    cases h
  rcases span_cases hMotion lines cursor count circumstances with
    hSpan | ⟨target, -, hSpan⟩
  · rw [hSpan]
    rfl
  · rw [hSpan, h]

/-- Both ends of the span are on the line of the cursor if the motion does not leave it. -/
theorem isOnLine_span (h : cursor.IsIn text) (hMotion : motion ≠ .currentLine)
    {count : Count} {circumstances : Circumstances}
    (hLine : ∀ target, motion.target? (splitLines text) cursor count circumstances = some target →
      target.line = cursor.line) :
    Operator.IsOnLine (motion.span (splitLines text) cursor count circumstances) text
      cursor.line := by
  have hIn := isIn_span h motion count circumstances
  rcases span_cases hMotion (splitLines text) cursor count circumstances with
    hSpan | ⟨target, hTarget, hSpan⟩
  · rw [hSpan] at hIn ⊢
    exact ⟨hIn, rfl, rfl⟩
  · rw [hSpan] at hIn ⊢
    exact ⟨hIn, rfl, hLine target hTarget⟩

/-- What such a motion passes over are characters of the line. -/
theorem losesOnLine_of_stopsOnLine (h : cursor.IsIn text) (hMotion : motion.stopsOnLine = true)
    (count : Count) (circumstances : Circumstances) :
    LosesOnLine text
      (Operator.withoutSpan text (motion.span (splitLines text) cursor count circumstances))
      cursor.line := by
  obtain ⟨hLine, -, -⟩ := Position.isIn_iff.mp h
  obtain ⟨hSelf, hExclusive⟩ : motion ≠ .currentLine ∧ motion.isInclusive = false := by
    cases motion <;> first | exact ⟨Motion.noConfusion, rfl⟩ | cases hMotion
  refine (isOnLine_span h hSelf fun target hTarget => ?_).losesOnLine_of_exclusive ?_
  · cases motion with
    | left | right | lineStart | firstNonBlank =>
        cases hTarget
        exact Position.min_lastLine_of_lt hLine
    | _ => cases hMotion
  · rcases span_cases hSelf (splitLines text) cursor count circumstances with
      hSpan | ⟨target, -, hSpan⟩
    · rw [hSpan]
      rfl
    · rw [hSpan]
      show (motion.isInclusive && _) = false
      rw [hExclusive, Bool.false_and]

end Motion

/-! ## To the end of the line -/

namespace Operator

variable {text : Text} {cursor : Position}

/-- Up to the end of the line, an operator goes from the cursor to the last character. -/
theorem target?_lineEnd (h : cursor.IsIn text) (circumstances : Circumstances) :
    Motion.lineEnd.target? (splitLines text) cursor Count.once circumstances =
      some (Position.ofLineColumn (splitLines text) cursor.line
        (lineLength (splitLines text) cursor.line - 1)) := by
  obtain ⟨hLine, -, -⟩ := Position.isIn_iff.mp h
  have hStays : min (cursor.line + max Count.once.value 1 - 1) (lastLine (splitLines text)) =
      cursor.line :=
    Position.min_lastLine_of_lt hLine
  simp only [Motion.target?, hStays]

variable (h : cursor.IsIn text) (circumstances : Circumstances)

include h

theorem isOnLine_lineEnd :
    IsOnLine (Motion.lineEnd.span (splitLines text) cursor Count.once circumstances) text
      cursor.line := by
  obtain ⟨hLine, -, -⟩ := Position.isIn_iff.mp h
  refine Motion.isOnLine_span h Motion.noConfusion fun target hTarget => ?_
  rw [target?_lineEnd h, Option.some.injEq] at hTarget
  rw [← hTarget]
  exact Position.min_lastLine_of_lt hLine

/-- What it takes there is between the cursor and the last character, with both. -/
theorem charSpan_lineEnd (hText : text ≠ []) :
    let start := lineStart (splitLines text) cursor.line
    let length := lineLength (splitLines text) cursor.line
    charSpan text (Motion.lineEnd.span (splitLines text) cursor Count.once circumstances) =
      (min cursor.offset (start + (length - 1)),
        min (max cursor.offset (start + (length - 1)) + if length > 0 then 1 else 0)
          text.length) := by
  intro start length
  obtain ⟨hLine, -, -⟩ := Position.isIn_iff.mp h
  generalize hLast : Position.ofLineColumn (splitLines text) cursor.line (length - 1) = last
  have hOffset : last.offset = start + (length - 1) := by
    rw [← hLast, Position.ofLineColumn, Position.min_lastLine_of_lt hLine,
      Nat.min_eq_left (Nat.sub_le length 1)]
    exact Position.offsetAt_of_le hLine (Nat.sub_le length 1)
  have hSame : lineLength (splitLines text) last.line = length := by
    rw [← hLast]
    exact congrArg (lineLength (splitLines text)) (Position.min_lastLine_of_lt hLine)
  have hSpan : Motion.lineEnd.span (splitLines text) cursor Count.once circumstances =
      ⟨cursor, last, decide (length > 0), false⟩ := by
    simp only [Motion.span, Motion.isEmptyText_splitLines hText, Bool.false_eq_true, if_false,
      target?_lineEnd h]
    rw [show Position.ofLineColumn (splitLines text) cursor.line _ = last from hLast, hSame]
    rfl
  refine Prod.ext ?_ ?_
  · rw [charSpan_fst, hSpan, hOffset]
  · rw [charSpan_snd, hSpan, hOffset]
    simp only [decide_eq_true_eq]

/-- On the line break of a line with characters, it takes the last of them and the line
break. -/
theorem withoutSpan_lineEnd_of_past (hPositive : 0 < cursor.column)
    (hPast : cursor.column = lineLength (splitLines text) cursor.line)
    (hMore : cursor.line + 1 < (splitLines text).length) :
    withoutSpan text (Motion.lineEnd.span (splitLines text) cursor Count.once circumstances) =
        text.take (cursor.offset - 1) ++ text.drop (cursor.offset + 1) ∧
      (splitLines (text.take (cursor.offset - 1) ++ text.drop (cursor.offset + 1))).length + 1 =
        (splitLines text).length := by
  obtain ⟨hLine, -, hOffset⟩ := Position.isIn_iff.mp h
  obtain ⟨hInside, hFeed⟩ := List.getElem?_eq_some_iff.mp (h.getElem?_eq_lineFeed hPast hMore)
  refine ⟨?_, ?_⟩
  · have hText : text ≠ [] := List.ne_nil_of_length_pos (Nat.zero_lt_of_lt hInside)
    rw [withoutSpan, charSpan_lineEnd h circumstances hText]
    simp only [if_pos (show lineLength (splitLines text) cursor.line > 0 by omega)]
    congr 2 <;> omega
  · -- The last character of the line is no line feed.
    have hColumn : cursor.column - 1 < lineLength (splitLines text) cursor.line := by
      omega
    have hChar := getElem?_lineStart_add hColumn
    rw [lineLength] at hColumn
    rw [joinLines_splitLines, List.getElem?_eq_getElem hColumn,
      show lineStart (splitLines text) cursor.line + (cursor.column - 1) = cursor.offset - 1 by
        omega] at hChar
    obtain ⟨hBefore, hLast⟩ := List.getElem?_eq_some_iff.mp hChar
    have hNext : cursor.offset - 1 + 1 = cursor.offset := by
      omega
    refine length_splitLines_joined (c := text[cursor.offset - 1]) ?_ ?_
    · rw [List.drop_eq_getElem_cons hBefore, hNext, List.drop_eq_getElem_cons hInside, hFeed]
    · intro hSame
      rw [hLast] at hSame
      exact noFeed_lineAt text cursor.line (hSame ▸ List.getElem_mem hColumn)

/-- Up to the end of the line, an operator takes characters of the line only exactly if the
cursor is not on the line break of a line with characters. -/
theorem losesOnLine_lineEnd_iff :
    LosesOnLine text
        (withoutSpan text (Motion.lineEnd.span (splitLines text) cursor Count.once circumstances))
        cursor.line ↔
      (cursor.column = 0 ∨ cursor.column < lineLength (splitLines text) cursor.line) ∨
        cursor.line + 1 = (splitLines text).length := by
  obtain ⟨hLine, hColumn, hOffset⟩ := Position.isIn_iff.mp h
  constructor
  · intro hLoses
    by_contra hPast
    obtain ⟨hJoined, hFewer⟩ := withoutSpan_lineEnd_of_past h circumstances (by omega) (by omega)
      (by omega)
    have hSame := hLoses.length
    rw [hJoined] at hSame
    omega
  · intro hWithin
    refine (isOnLine_lineEnd h circumstances).losesOnLine ?_
    by_cases hText : text = []
    · subst hText
      exact Nat.le_trans (charSpan_snd_le _ _) (Nat.zero_le _)
    · rw [charSpan_lineEnd h circumstances hText]
      rcases hWithin with (hStart | hOn) | hLast
      · split <;> omega
      · split <;> omega
      · have hLength := lineStart_add_lineLength_of_last hLast
        omega

end Operator

end ModalEditor
