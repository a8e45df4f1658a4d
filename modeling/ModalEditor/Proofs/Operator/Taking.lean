import ModalEditor.Proofs.Operator

namespace ModalEditor

/-!
# What delete, change and yank take

The three operators take the same from a span: they write it to the register, or do nothing
together.  Yank leaves the text as it is.  What is left after the other two is the text
without the characters taken, which are all in the register, or its lines without those
taken, and a line that is kept open where they are changed.
-/

namespace Operator

/-- Whether an operator writes the span it acts on to the register. -/
def takesSpan : Operator → Bool
  | .delete | .change | .yank => true
  | _ => false

/-- What a span holds, as it goes to the register.  A characterwise span may hold
nothing. -/
def spanWrite? (buffer : Buffer) (span : Span) : Option RegisterWrite :=
  if span.linewise then
    let (first, last) := lineSpan buffer.lines span
    some (linesWrite buffer.lines first last)
  else
    let (first, stop) := charSpan buffer.text span
    if first ≥ stop then none else some ⟨slice buffer.text first stop, false⟩

variable {buffer : Buffer} {span : Span} {operator : Operator} {outcome : OperatorOutcome}

/-- The lines that a removal of lines leaves in their place. -/
def linesKept : Operator → List Text
  | .change => [[]]
  | _ => []

theorem noFeed_linesKept (operator : Operator) :
    ∀ line ∈ operator.linesKept, lineFeed ∉ line := by
  cases operator <;> simp [linesKept]

/-- Whether an operator takes its span out of the text. -/
def removesSpan : Operator → Bool
  | .delete | .change => true
  | _ => false

theorem apply_of_removesSpan (hText : buffer.text ≠ []) (h : operator.removesSpan = true)
    (span : Span) (count : Nat) :
    operator.apply buffer span count =
      if span.linewise then some (deleteLines buffer span operator.linesKept)
      else deleteChars buffer span := by
  have hSome : buffer.text.isEmpty = false := List.isEmpty_eq_false_iff.mpr hText
  cases operator with
  | delete | change => simp only [apply, hSome, Bool.false_eq_true, if_false, linesKept]
  | yank | indent | outdent | replace => cases h

theorem apply_yank (hText : buffer.text ≠ []) (span : Span) (count : Nat) :
    Operator.yank.apply buffer span count = yankSpan buffer span := by
  have hSome : buffer.text.isEmpty = false := List.isEmpty_eq_false_iff.mpr hText
  simp only [apply, hSome, Bool.false_eq_true, if_false]

/-! ## The register -/

theorem deleteLines_write (buffer : Buffer) (span : Span) (left : List Text) :
    (deleteLines buffer span left).write =
      some (linesWrite buffer.lines (lineSpan buffer.lines span).1
        (lineSpan buffer.lines span).2) := by
  simp only [deleteLines]
  split <;> rfl

theorem deleteChars_write (hSpan : span.linewise = false) :
    (deleteChars buffer span).map OperatorOutcome.write = (spanWrite? buffer span).map some := by
  simp only [deleteChars, spanWrite?, hSpan, Bool.false_eq_true, if_false]
  split <;> rfl

theorem yankSpan_write (buffer : Buffer) (span : Span) :
    (yankSpan buffer span).map OperatorOutcome.write = (spanWrite? buffer span).map some := by
  simp only [yankSpan, spanWrite?]
  split
  · rfl
  · split <;> rfl

/-- The operators that take a span write what it holds, and do nothing if it holds
nothing. -/
theorem apply_write (hText : buffer.text ≠ []) (hTakes : operator.takesSpan = true)
    (span : Span) (count : Nat) :
    (operator.apply buffer span count).map OperatorOutcome.write =
      (spanWrite? buffer span).map some := by
  have hRemoved (h : operator.removesSpan = true) :
      (operator.apply buffer span count).map OperatorOutcome.write =
        (spanWrite? buffer span).map some := by
    rw [apply_of_removesSpan hText h]
    cases hSpan : span.linewise with
    | true => simp [spanWrite?, hSpan, deleteLines_write]
    | false =>
        rw [if_neg Bool.false_ne_true]
        exact deleteChars_write hSpan
  cases operator with
  | delete | change => exact hRemoved rfl
  | yank =>
      rw [apply_yank hText]
      exact yankSpan_write buffer span
  | indent | outdent | replace => cases hTakes

/-- Where a span holds something, each of them has an outcome and writes it. -/
theorem exists_apply_of_spanWrite? (hText : buffer.text ≠ []) {write : RegisterWrite}
    (hWrite : spanWrite? buffer span = some write) (hTakes : operator.takesSpan = true)
    (count : Nat) :
    ∃ outcome, operator.apply buffer span count = some outcome ∧ outcome.write = some write := by
  have hSame := apply_write hText hTakes span count
  rw [hWrite, Option.map_some, Option.map_eq_some_iff] at hSame
  exact hSame

theorem yankSpan_text (h : yankSpan buffer span = some outcome) : outcome.text = none := by
  simp only [yankSpan] at h
  split at h
  · cases h
    rfl
  · split at h
    · cases h
    · cases h
      rfl

/-! ## Characters -/

theorem charSpan_fst_le (h : span.IsIn buffer.text) :
    (charSpan buffer.text span).1 ≤ buffer.text.length :=
  h.ordered_fst.offset_le

theorem charSpan_fst (text : Text) (span : Span) :
    (charSpan text span).1 = min span.start.offset span.stop.offset := by
  rw [charSpan, Span.ordered]
  by_cases hOrder : span.start.offset ≤ span.stop.offset
  · rw [if_pos hOrder, Nat.min_eq_left hOrder]
  · rw [if_neg hOrder, Nat.min_eq_right (Nat.le_of_not_le hOrder)]

theorem charSpan_snd (text : Text) (span : Span) :
    (charSpan text span).2 =
      min (max span.start.offset span.stop.offset + if span.inclusive then 1 else 0)
        text.length := by
  rw [charSpan, Span.ordered]
  by_cases hOrder : span.start.offset ≤ span.stop.offset
  · rw [if_pos hOrder, Nat.max_eq_right hOrder]
  · rw [if_neg hOrder, Nat.max_eq_left (Nat.le_of_not_le hOrder)]

theorem charSpan_snd_le (text : Text) (span : Span) :
    (charSpan text span).2 ≤ text.length :=
  Nat.min_le_right _ _

/-- Characters that were cut out can be put back where they were. -/
theorem take_append_slice_append_drop (text : Text) {first stop : Nat} (h : first ≤ stop)
    (hStop : stop ≤ text.length) :
    (text.take first ++ text.drop stop).take first ++ slice text first stop ++
      (text.take first ++ text.drop stop).drop first = text := by
  have hLength : (text.take first).length = first := List.length_take_of_le (by omega)
  have hTaken : text.take first = (text.take stop).take first := by
    rw [List.take_take, Nat.min_eq_left h]
  rw [List.take_left' hLength, List.drop_left' hLength, slice, hTaken, List.take_append_drop,
    List.take_append_drop]

theorem deleteChars_eq_some (h : deleteChars buffer span = some outcome) :
    (charSpan buffer.text span).1 < (charSpan buffer.text span).2 ∧
      outcome.text = some (buffer.text.take (charSpan buffer.text span).1 ++
        buffer.text.drop (charSpan buffer.text span).2) ∧
      outcome.write = some ⟨slice buffer.text (charSpan buffer.text span).1
        (charSpan buffer.text span).2, false⟩ := by
  simp only [deleteChars] at h
  split at h
  · cases h
  · next hSome =>
      cases h
      exact ⟨Nat.lt_of_not_le hSome, rfl, rfl⟩

/-! ## Lines -/

/-- The lines of the text after lines were deleted.  An empty text still has a line. -/
theorem splitLines_deleteLines (buffer : Buffer) (span : Span) {left : List Text}
    (hLeft : ∀ line ∈ left, lineFeed ∉ line) :
    ∃ text, (deleteLines buffer span left).text = some text ∧
      splitLines text =
        let remaining := remainingLines buffer.lines (lineSpan buffer.lines span).1
          (lineSpan buffer.lines span).2 left
        if remaining = [] then [[]] else remaining := by
  simp only [deleteLines, ← remainingLines.eq_1]
  generalize hRemaining : remainingLines buffer.lines (lineSpan buffer.lines span).1
    (lineSpan buffer.lines span).2 left = remaining
  by_cases hNil : remaining = []
  · rw [hNil]
    exact ⟨[], rfl, rfl⟩
  · have hLines : AreLines remaining := by
      subst hRemaining
      exact areLines_remainingLines buffer.text _ _ hLeft hNil
    refine ⟨joinLines remaining, ?_, ?_⟩
    · rw [if_neg (by simpa using hNil)]
    · rw [if_neg hNil, splitLines_joinLines hLines]

theorem exists_apply_of_linewise (hText : buffer.text ≠ []) (hLines : span.linewise = true)
    (hRemoves : operator.removesSpan = true) (count : Nat) :
    ∃ outcome text, operator.apply buffer span count = some outcome ∧
      outcome.text = some text ∧
      splitLines text =
        let remaining := remainingLines buffer.lines (lineSpan buffer.lines span).1
          (lineSpan buffer.lines span).2 operator.linesKept
        if remaining = [] then [[]] else remaining := by
  obtain ⟨text, hNew, hLeft⟩ := splitLines_deleteLines buffer span (noFeed_linesKept operator)
  refine ⟨_, text, ?_, hNew, hLeft⟩
  rw [apply_of_removesSpan hText hRemoves, if_pos hLines]

/-! ## All three -/

/-- Delete, change and yank do nothing together, or write the same to the register, and each
leaves the cursor at a position of the text that it leaves.  Yank leaves the text alone.

Characterwise, the other two leave a text that is the old one again when what is in the
register is put in at the lesser offset of the span.  Linewise, the register holds the lines
of the span with a line feed after each; delete leaves the other lines, or one empty line if
there are none, and change leaves an empty line in the place of those it took. -/
theorem delete_change_and_yank_conserve_text (hText : buffer.text ≠ [])
    (hSpan : span.IsIn buffer.text) (count : Nat) :
    ((∀ operator : Operator, operator.takesSpan → operator.apply buffer span count = none) ∨
      ∃ write, ∀ operator : Operator, operator.takesSpan →
        ∃ outcome, operator.apply buffer span count = some outcome ∧
          outcome.write = some write) ∧
    (∀ operator : Operator, operator.takesSpan →
      ∀ outcome ∈ operator.apply buffer span count,
        outcome.cursor.IsIn (outcome.text.getD buffer.text)) ∧
    (∀ outcome ∈ Operator.yank.apply buffer span count, outcome.text = none) ∧
    (span.linewise = false →
      ∀ operator : Operator, operator.removesSpan →
        ∀ outcome ∈ operator.apply buffer span count,
          let start := min span.start.offset span.stop.offset
          ∃ text taken, outcome.text = some text ∧ outcome.write = some ⟨taken, false⟩ ∧
            start ≤ text.length ∧
            text.take start ++ taken ++ text.drop start = buffer.text) ∧
    (span.linewise = true →
      let first := (lineSpan buffer.lines span).1
      let last := (lineSpan buffer.lines span).2
      let above := buffer.lines.take first
      let below := buffer.lines.drop (last + 1)
      (∀ operator : Operator, operator.takesSpan →
        ∃ outcome, operator.apply buffer span count = some outcome ∧
          outcome.write =
            some ⟨joinLines ((buffer.lines.take (last + 1)).drop first) ++ [lineFeed], true⟩) ∧
      (∃ outcome text, Operator.delete.apply buffer span count = some outcome ∧
        outcome.text = some text ∧
        splitLines text = if above ++ below = [] then [[]] else above ++ below) ∧
      ∃ outcome text, Operator.change.apply buffer span count = some outcome ∧
        outcome.text = some text ∧ splitLines text = above ++ [[]] ++ below) := by
  refine ⟨?_, ?_, ?_, ?_, ?_⟩
  · cases hWrite : spanWrite? buffer span with
    | none =>
        refine .inl fun operator hTakes => ?_
        have hSame := apply_write hText hTakes span count
        rwa [hWrite, Option.map_none, Option.map_eq_none_iff] at hSame
    | some write =>
        exact .inr ⟨write, fun operator hTakes =>
          exists_apply_of_spanWrite? hText hWrite hTakes count⟩
  · intro operator _ outcome hOutcome
    exact coherent_of_apply hSpan hOutcome
  · intro outcome hOutcome
    rw [apply_yank hText] at hOutcome
    exact yankSpan_text hOutcome
  · intro hChars operator hRemoves outcome hOutcome start
    rw [apply_of_removesSpan hText hRemoves, hChars, if_neg Bool.false_ne_true] at hOutcome
    obtain ⟨hSome, hNew, hWrite⟩ := deleteChars_eq_some hOutcome
    have hStart : (charSpan buffer.text span).1 = start := charSpan_fst buffer.text span
    rw [hStart] at hSome hNew hWrite
    refine ⟨_, _, hNew, hWrite, ?_, ?_⟩
    · have hInside := hStart ▸ charSpan_fst_le hSpan
      rw [List.length_append, List.length_take_of_le hInside]
      exact Nat.le_add_right _ _
    · exact take_append_slice_append_drop _ (Nat.le_of_lt hSome) (charSpan_snd_le _ _)
  · intro hLines first last above below
    have hWrite : spanWrite? buffer span = some (linesWrite buffer.lines first last) := by
      rw [spanWrite?, if_pos hLines]
    refine ⟨fun operator hTakes => exists_apply_of_spanWrite? hText hWrite hTakes count, ?_, ?_⟩
    · have hDeleted := exists_apply_of_linewise hText hLines
        (show Operator.delete.removesSpan = true from rfl) count
      simpa only [remainingLines, linesKept, List.append_nil] using hDeleted
    · have hChanged := exists_apply_of_linewise hText hLines
        (show Operator.change.removesSpan = true from rfl) count
      simpa [remainingLines, linesKept] using hChanged

/-- From the last line up to the one before, both lines are in the register and the first
line is left. -/
theorem lines_taken_upwards_are_conserved :
    let buffer := Buffer.ofText ['a', '\n', 'b', '\n', 'c']
    let span : Span := ⟨⟨2, 0, 4⟩, ⟨1, 0, 2⟩, false, true⟩
    (buffer.text ≠ [] ∧ span.IsIn buffer.text) ∧
      (∃ outcome, Operator.yank.apply buffer span 1 = some outcome ∧
        outcome.write = some ⟨['b', '\n', 'c', '\n'], true⟩) ∧
      ∃ outcome text, Operator.delete.apply buffer span 1 = some outcome ∧
        outcome.text = some text ∧ splitLines text = [['a']] := by
  intro buffer span
  have hText : buffer.text ≠ [] := by decide
  have hSpan : span.IsIn buffer.text := ⟨rfl, rfl⟩
  obtain ⟨-, -, -, -, hLines⟩ := delete_change_and_yank_conserve_text hText hSpan 1
  obtain ⟨hRegister, hLeft, -⟩ := hLines rfl
  exact ⟨⟨hText, hSpan⟩, hRegister .yank rfl, hLeft⟩

end Operator

end ModalEditor
