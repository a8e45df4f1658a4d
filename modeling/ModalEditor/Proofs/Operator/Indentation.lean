import ModalEditor.Proofs.Operator

namespace ModalEditor

/-!
# Indenting and outdenting lines

Outdenting takes a tab off the start of a line, or else the spaces there, up to the width of
a tab stop.  Indenting puts exactly that many spaces in front, so outdenting takes them off
again, whatever the line starts with.  Lines outside the span are not touched.
-/

/-- Whether one line is the other without one level of indentation: without the tab it starts
with, or else without the spaces it starts with, up to the width of a tab stop. -/
inductive LosesIndentation (tabSize : Nat) : Text → Text → Prop where
  | tab (rest : Text) : LosesIndentation tabSize ('\t' :: rest) rest
  | spaces {count : Nat} {rest : Text}
      (noTab : (List.replicate count ' ' ++ rest).head? ≠ some '\t')
      (count_le : count ≤ tabSize)
      (all : count < tabSize → rest.head? ≠ some ' ') :
      LosesIndentation tabSize (List.replicate count ' ' ++ rest) rest

/-- What is lost stands in front. -/
theorem LosesIndentation.isSuffix {tabSize : Nat} {line rest : Text}
    (h : LosesIndentation tabSize line rest) : rest <:+ line := by
  cases h with
  | tab => exact List.suffix_cons _ _
  | spaces => exact List.suffix_append _ _

/-- Whether there is indentation that a line can lose. -/
def HasIndentation (tabSize : Nat) (line : Text) : Prop :=
  line.head? = some '\t' ∨ 0 < tabSize ∧ line.head? = some ' '

namespace Operator

variable {buffer : Buffer} {span : Span} {lines : List Text} {line : Text}
  {tabSize first last number : Nat} {shift : Text → Text} {outcome : OperatorOutcome}

/-! ## One line -/

theorem outdentLine_of_head?_ne (h : line.head? ≠ some '\t') :
    outdentLine tabSize line =
      line.drop ((line.take tabSize).takeWhile (· == ' ')).length := by
  rw [outdentLine.eq_def]
  split
  · exact absurd rfl h
  · rfl

theorem losesIndentation_outdentLine (tabSize : Nat) (line : Text) :
    LosesIndentation tabSize line (outdentLine tabSize line) := by
  by_cases hTab : line.head? = some '\t'
  · obtain ⟨rest, rfl⟩ := List.head?_eq_some_iff.mp hTab
    exact .tab rest
  · rw [outdentLine_of_head?_ne hTab]
    generalize hSpaces : (line.take tabSize).takeWhile (· == ' ') = spaces
    -- The line is the spaces that go, what stops them before the tab stop, and the rest.
    have hSplit := List.takeWhile_append_dropWhile (p := (· == ' ')) (l := line.take tabSize)
    have hStop := List.head?_dropWhile_not (· == ' ') (line.take tabSize)
    rw [hSpaces] at hSplit
    generalize (line.take tabSize).dropWhile (· == ' ') = stop at hSplit hStop
    have hLine : line = spaces ++ (stop ++ line.drop tabSize) := by
      rw [← List.append_assoc, hSplit, List.take_append_drop]
    have hAll : spaces = List.replicate spaces.length ' ' := by
      refine List.eq_replicate_iff.mpr ⟨rfl, fun c hChar => ?_⟩
      rw [← hSpaces] at hChar
      simpa using List.all_eq_true.mp List.all_takeWhile c hChar
    have hLength : spaces.length + stop.length = min tabSize line.length := by
      rw [← List.length_append, hSplit, List.length_take]
    have hRest : line.drop spaces.length = stop ++ line.drop tabSize :=
      (congrArg (List.drop spaces.length) hLine).trans List.drop_left
    have hParts : line = List.replicate spaces.length ' ' ++ line.drop spaces.length := by
      rw [← hAll, hRest, ← hLine]
    have hLoses : LosesIndentation tabSize
        (List.replicate spaces.length ' ' ++ line.drop spaces.length)
        (line.drop spaces.length) := by
      refine .spaces (hParts ▸ hTab) (by omega) fun hFewer => ?_
      rw [hRest]
      cases stop with
      | nil =>
          -- Nothing stopped the spaces, so the line ends before the tab stop.
          rw [List.length_nil] at hLength
          rw [List.nil_append, List.drop_eq_nil_of_le (by omega)]
          simp
      | cons c stop =>
          rw [List.cons_append, List.head?_cons]
          rintro ⟨⟩
          simp at hStop
    rwa [← hParts] at hLoses

/-- A line that has no indentation to lose stays as it is, and no other does. -/
theorem outdentLine_eq_self_iff : outdentLine tabSize line = line ↔
    ¬HasIndentation tabSize line := by
  constructor
  · rintro hSame (hTab | ⟨hWidth, hSpace⟩)
    · obtain ⟨rest, rfl⟩ := List.head?_eq_some_iff.mp hTab
      exact absurd (congrArg List.length hSame) (by simp [outdentLine])
    · obtain ⟨rest, rfl⟩ := List.head?_eq_some_iff.mp hSpace
      obtain ⟨width, rfl⟩ : ∃ width, tabSize = width + 1 := ⟨tabSize - 1, by omega⟩
      have hLength := congrArg List.length hSame
      rw [outdentLine_of_head?_ne (by simp)] at hLength
      simp at hLength
      omega
  · intro hNone
    rw [HasIndentation, not_or, not_and] at hNone
    rw [outdentLine_of_head?_ne hNone.1]
    have hSpaces : (line.take tabSize).takeWhile (· == ' ') = [] := by
      cases line with
      | nil => simp
      | cons c rest =>
          cases tabSize with
          | zero => rfl
          | succ width =>
              have hChar : c ≠ ' ' := by simpa using hNone.2 (Nat.succ_pos width)
              simp [hChar]
    rw [hSpaces, List.length_nil, List.drop_zero]

/-- What was put in front of a line is taken off again. -/
theorem outdentLine_indentLine (h : 1 ≤ tabSize) (line : Text) :
    outdentLine tabSize (indentLine tabSize line) = line := by
  have hHead : (List.replicate tabSize ' ' ++ line).head? ≠ some '\t' := by
    obtain ⟨width, rfl⟩ : ∃ width, tabSize = width + 1 := ⟨tabSize - 1, by omega⟩
    simp [List.replicate_succ]
  have hPad : (List.replicate tabSize ' ').length = tabSize := List.length_replicate
  rw [indentLine, outdentLine_of_head?_ne hHead, List.take_left' hPad, List.takeWhile_replicate,
    if_pos (beq_self_eq_true ' '), List.drop_left]

/-! ## The lines of a span -/

@[simp]
theorem length_shiftedLines (lines : List Text) (first last : Nat) (shift : Text → Text) :
    (shiftedLines lines first last shift).length = lines.length :=
  List.length_mapIdx

theorem lineAt_shiftedLines (h : number < lines.length) :
    lineAt (shiftedLines lines first last shift) number =
      if first ≤ number ∧ number ≤ last then shift (lineAt lines number)
      else lineAt lines number := by
  rw [lineAt_eq_getElem (by rwa [length_shiftedLines]), lineAt_eq_getElem h]
  exact List.getElem_mapIdx

/-- Lines stay as they are exactly if each of those shifted does. -/
theorem shiftedLines_eq_self_iff (h : last < lines.length) :
    shiftedLines lines first last shift = lines ↔
      ∀ number, first ≤ number → number ≤ last →
        shift (lineAt lines number) = lineAt lines number := by
  constructor
  · intro hSame number hFirst hLast
    have hLine : lineAt (shiftedLines lines first last shift) number =
        if first ≤ number ∧ number ≤ last then shift (lineAt lines number)
        else lineAt lines number := lineAt_shiftedLines (by omega)
    rw [hSame, if_pos ⟨hFirst, hLast⟩] at hLine
    exact hLine.symm
  · intro hEach
    refine List.ext_getElem (length_shiftedLines _ _ _ _) fun number hShifted hNumber => ?_
    rw [← lineAt_eq_getElem hShifted, lineAt_shiftedLines hNumber, ← lineAt_eq_getElem hNumber]
    split
    · next hInside => exact hEach number hInside.1 hInside.2
    · rfl

/-- Shifting lines and shifting them back. -/
theorem shiftedLines_shiftedLines {back : Text → Text} (h : ∀ line, back (shift line) = line) :
    shiftedLines (shiftedLines lines first last shift) first last back = lines := by
  refine List.ext_getElem (by simp) fun number hBoth hNumber => ?_
  rw [← lineAt_eq_getElem hBoth, lineAt_shiftedLines (by simpa using hNumber),
    lineAt_shiftedLines hNumber, ← lineAt_eq_getElem hNumber]
  split
  · exact h _
  · rfl

theorem lineSpan_congr {other : List Text} (h : other.length = lines.length) (span : Span) :
    lineSpan other span = lineSpan lines span := by
  simp only [lineSpan, lastLine, h]

/-- The lines that a span touches are in order and exist. -/
theorem lineSpan_bounds (buffer : Buffer) (span : Span) :
    (lineSpan buffer.lines span).1 ≤ (lineSpan buffer.lines span).2 ∧
      (lineSpan buffer.lines span).2 < buffer.lines.length := by
  have hLines : buffer.lines ≠ [] := splitLines_ne_nil buffer.text
  have hLast := Position.min_lastLine_lt hLines (max span.start.line span.stop.line)
  simp only [lineSpan, Span.lines]
  omega

theorem shiftLines_eq_none_iff :
    shiftLines buffer span shift = none ↔
      shiftedLines buffer.lines (lineSpan buffer.lines span).1 (lineSpan buffer.lines span).2
        shift = buffer.lines := by
  simp only [shiftLines, ← shiftedLines.eq_1]
  split <;> simp_all

/-- The lines of the text after lines were shifted. -/
theorem splitLines_of_shiftLines (hShift : ∀ line, lineFeed ∉ line → lineFeed ∉ shift line)
    (h : shiftLines buffer span shift = some outcome) :
    ∃ text, outcome.text = some text ∧
      splitLines text = shiftedLines buffer.lines (lineSpan buffer.lines span).1
        (lineSpan buffer.lines span).2 shift := by
  simp only [shiftLines, ← shiftedLines.eq_1] at h
  split at h
  · cases h
  · cases h
    exact ⟨_, rfl, splitLines_joinLines (areLines_shiftedLines buffer.text _ _ hShift)⟩

theorem apply_indent (hText : buffer.text ≠ []) (hSpan : span.linewise = true) (count : Nat) :
    Operator.indent.apply buffer span count =
      shiftLines buffer span (indentLine buffer.tabSize) := by
  have hSome : buffer.text.isEmpty = false := List.isEmpty_eq_false_iff.mpr hText
  simp only [apply, hSome, hSpan, Bool.false_eq_true, if_false, if_true]

/-- In an empty text there is nothing to outdent either. -/
theorem apply_outdent (hSpan : span.linewise = true) (count : Nat) :
    Operator.outdent.apply buffer span count =
      shiftLines buffer span (outdentLine buffer.tabSize) := by
  rw [apply, hSpan, if_pos rfl]
  split
  · next hText =>
      rw [List.isEmpty_iff] at hText
      symm
      rw [shiftLines_eq_none_iff]
      refine (shiftedLines_eq_self_iff (lineSpan_bounds buffer span).2).mpr
        fun number _ _ => ?_
      rw [outdentLine_eq_self_iff, HasIndentation]
      cases number <;> simp [Buffer.lines, hText, splitLines, lineAt]
  · rfl

/-! ## There and back -/

/-- A text has changed after lines were shifted, and if each line can be shifted back, so can
they together, in whatever buffer the text is by then. -/
theorem exists_shiftLines_back {back : Text → Text}
    (hShift : ∀ line, lineFeed ∉ line → lineFeed ∉ shift line)
    (hBack : ∀ line, lineFeed ∉ line → lineFeed ∉ back line)
    (h : ∀ line, back (shift line) = line)
    (hOutcome : shiftLines buffer span shift = some outcome) :
    ∃ text, outcome.text = some text ∧
      ∀ (cursor : Position) (tabSize : Nat) (again : Span),
        lineSpan buffer.lines again = lineSpan buffer.lines span →
        ∃ outcome, shiftLines ⟨text, cursor, tabSize⟩ again back = some outcome ∧
          outcome.text = some buffer.text := by
  obtain ⟨text, hNew, hLines⟩ := splitLines_of_shiftLines hShift hOutcome
  refine ⟨text, hNew, fun cursor tabSize again hAgain => ?_⟩
  have hSpan : lineSpan (splitLines text) again = lineSpan buffer.lines span := by
    rw [← hAgain]
    exact lineSpan_congr (by rw [hLines, length_shiftedLines]) again
  have hThere : shiftedLines (splitLines text) (lineSpan (splitLines text) again).1
      (lineSpan (splitLines text) again).2 back = buffer.lines := by
    rw [hSpan, hLines, shiftedLines_shiftedLines h]
  cases hOther : shiftLines ⟨text, cursor, tabSize⟩ again back with
  | none =>
      -- Then the first shift would have changed nothing.
      have hSame : buffer.lines = splitLines text :=
        hThere.symm.trans (shiftLines_eq_none_iff.mp hOther)
      rw [shiftLines_eq_none_iff.mpr (hLines.symm.trans hSame.symm)] at hOutcome
      cases hOutcome
  | some other =>
      obtain ⟨old, hOld, hOldLines⟩ := splitLines_of_shiftLines hBack hOther
      refine ⟨other, rfl, hOld.trans (congrArg some ?_)⟩
      calc
        old = joinLines (splitLines old) := (joinLines_splitLines old).symm
        _ = joinLines buffer.lines := congrArg joinLines (hOldLines.trans hThere)
        _ = buffer.text := joinLines_splitLines buffer.text

/-- Indenting always changes a line. -/
theorem exists_shiftLines_indent (hWidth : 1 ≤ buffer.tabSize) (span : Span) :
    ∃ outcome, shiftLines buffer span (indentLine buffer.tabSize) = some outcome := by
  rw [← Option.ne_none_iff_exists', Ne, shiftLines_eq_none_iff]
  obtain ⟨hOrder, hLast⟩ := lineSpan_bounds buffer span
  rw [shiftedLines_eq_self_iff hLast]
  intro hEach
  have hLength := congrArg List.length (hEach _ (Nat.le_refl _) hOrder)
  rw [indentLine, List.length_append, List.length_replicate] at hLength
  omega

/-- Where there is text and a tab stop has a width, indenting the lines of a span changes the
text, and outdenting the same lines again gives the old text back.  Outdenting the lines of a
span takes one level of indentation off each of them, leaves all others as they are, and has
no outcome exactly if there is nothing to take off. -/
theorem outdent_undoes_indent_and_takes_one_level (hSpan : span.linewise = true)
    (count : Nat) :
    let first := (lineSpan buffer.lines span).1
    let last := (lineSpan buffer.lines span).2
    (buffer.text ≠ [] → 1 ≤ buffer.tabSize →
      ∃ outcome text, Operator.indent.apply buffer span count = some outcome ∧
        outcome.text = some text ∧
        ∀ (cursor : Position) (again : Span) (count : Nat), again.linewise = true →
          lineSpan buffer.lines again = (first, last) →
          ∃ back,
            Operator.outdent.apply ⟨text, cursor, buffer.tabSize⟩ again count = some back ∧
              back.text = some buffer.text) ∧
    (Operator.outdent.apply buffer span count = none ↔
      ∀ number, first ≤ number → number ≤ last →
        ¬HasIndentation buffer.tabSize (lineAt buffer.lines number)) ∧
    ∀ outcome ∈ Operator.outdent.apply buffer span count,
      ∃ text, outcome.text = some text ∧ (splitLines text).length = buffer.lines.length ∧
        ∀ number < buffer.lines.length,
          if first ≤ number ∧ number ≤ last then
            LosesIndentation buffer.tabSize (lineAt buffer.lines number)
              (lineAt (splitLines text) number)
          else lineAt (splitLines text) number = lineAt buffer.lines number := by
  intro first last
  refine ⟨fun hText hWidth => ?_, ?_, ?_⟩
  · obtain ⟨outcome, hOutcome⟩ := exists_shiftLines_indent hWidth span
    obtain ⟨text, hNew, hBack⟩ := exists_shiftLines_back (fun _ => noFeed_indentLine _)
      (fun _ => noFeed_outdentLine _) (outdentLine_indentLine hWidth) hOutcome
    refine ⟨outcome, text, (apply_indent hText hSpan count).trans hOutcome, hNew, ?_⟩
    intro cursor again others hAgain hSame
    rw [apply_outdent hAgain]
    exact hBack cursor buffer.tabSize again hSame
  · rw [apply_outdent hSpan, shiftLines_eq_none_iff,
      shiftedLines_eq_self_iff (lineSpan_bounds buffer span).2]
    simp only [outdentLine_eq_self_iff, first, last]
  · intro outcome hOutcome
    rw [apply_outdent hSpan] at hOutcome
    obtain ⟨text, hNew, hLines⟩ :=
      splitLines_of_shiftLines (fun _ => noFeed_outdentLine _) hOutcome
    refine ⟨text, hNew, by rw [hLines, length_shiftedLines], fun number hNumber => ?_⟩
    rw [hLines, lineAt_shiftedLines hNumber]
    by_cases hInside : first ≤ number ∧ number ≤ last
    · rw [if_pos hInside, if_pos hInside]
      exact losesIndentation_outdentLine _ _
    · rw [if_neg hInside, if_neg hInside]

/-- A line that starts with a space and a tab is not mixed up when it is indented and
outdented again, and the line after it comes along. -/
theorem mixed_indentation_comes_back :
    let buffer : Buffer := ⟨[' ', '\t', 'a', '\n', '\n', 'b'], Position.origin, 2⟩
    let span : Span := ⟨⟨1, 0, 4⟩, Position.origin, false, true⟩
    span.linewise = true ∧
      ∃ outcome text, Operator.indent.apply buffer span 1 = some outcome ∧
        outcome.text = some text ∧
        ∃ back, Operator.outdent.apply ⟨text, Position.origin, 2⟩ span 1 = some back ∧
          back.text = some [' ', '\t', 'a', '\n', '\n', 'b'] := by
  intro buffer span
  obtain ⟨hBack, -, -⟩ :=
    @outdent_undoes_indent_and_takes_one_level buffer span (show span.linewise = true from rfl) 1
  obtain ⟨outcome, text, hIndent, hText, hOutdent⟩ := hBack (by decide) (by decide)
  exact ⟨rfl, outcome, text, hIndent, hText, hOutdent Position.origin span 1 rfl rfl⟩

end Operator

end ModalEditor
