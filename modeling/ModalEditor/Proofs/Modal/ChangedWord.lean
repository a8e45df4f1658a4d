import ModalEditor.Proofs.Modal.Typing
import ModalEditor.Proofs.Motion.Words
import ModalEditor.Proofs.Text.LineCharacters

namespace ModalEditor

/-!
# Changing a word from within it

From a character that is not blank the change of a word takes the rest of that word only, the
longest run of its class from there on.  No line feed is in it, so the lines stay, and the
cursor keeps its place in front of what follows the word.
-/

/-! ## Runs of one class -/

/-- Whether a text is split around the longest run of a class that starts at an offset. -/
structure IsRunAt (text : Text) (offset : Nat) (cls : CharClass) (before run rest : Text) :
    Prop where
  text_eq : text = before ++ run ++ rest
  length_before : before.length = offset
  inside : ∀ d ∈ run, CharClass.ofChar d = cls
  after : ∀ d ∈ rest.head?, CharClass.ofChar d ≠ cls

section Runs

variable {text before run rest : Text} {offset : Nat} {cls : CharClass} {c : Char}

theorem exists_isRunAt (cls : CharClass) (h : offset ≤ text.length) :
    ∃ before run rest, IsRunAt text offset cls before run rest ∧
      run.length = runLength cls (text.drop offset) := by
  refine ⟨text.take offset, (text.drop offset).takeWhile fun d => CharClass.ofChar d == cls,
    (text.drop offset).dropWhile fun d => CharClass.ofChar d == cls, ⟨?_, ?_, ?_, ?_⟩, rfl⟩
  · rw [List.append_assoc, List.takeWhile_append_dropWhile, List.take_append_drop]
  · exact List.length_take_of_le h
  · intro d hRun
    simpa using List.all_eq_true.mp List.all_takeWhile d hRun
  · intro d hRest
    have hStop := List.head?_dropWhile_not (fun d => CharClass.ofChar d == cls) (text.drop offset)
    rw [hRest] at hStop
    simpa using hStop

namespace IsRunAt

variable (h : IsRunAt text offset cls before run rest)

include h

theorem take_eq : text.take offset = before := by
  rw [h.text_eq, List.append_assoc, ← h.length_before, List.take_left]

theorem drop_eq : text.drop (offset + run.length) = rest := by
  rw [h.text_eq, ← h.length_before, ← List.length_append, List.drop_left]

theorem slice_eq : Operator.slice text offset (offset + run.length) = run := by
  rw [Operator.slice, h.text_eq, ← h.length_before, ← List.length_append, List.take_left,
    List.drop_left]

/-- Without a run of characters that are not blank, a text has its lines still. -/
theorem length_splitLines_removed (hWord : cls ≠ .blank) :
    (splitLines (before ++ rest)).length = (splitLines text).length := by
  have hNoFeed : lineFeed ∉ run := by
    intro hFeed
    exact hWord (h.inside _ hFeed ▸ ofChar_lineFeed)
  rw [length_splitLines, length_splitLines, h.text_eq]
  simp [List.count_eq_zero.mpr hNoFeed]

/-- What comes before the run is where it was. -/
theorem ofOffset_removed : Position.ofOffset (before ++ rest) offset =
    Position.ofOffset text offset := by
  have hBefore : (before ++ rest).take offset = text.take offset := by
    rw [h.take_eq, ← h.length_before, List.take_left]
  have hLength : offset ≤ (before ++ rest).length ∧ offset ≤ text.length := by
    rw [h.text_eq]
    simp only [List.length_append, ← h.length_before]
    omega
  simp only [Position.ofOffset, pointAt, hBefore, Nat.min_eq_left hLength.1,
    Nat.min_eq_left hLength.2]

end IsRunAt

/-! ## The change -/

/-- The span that a change of a word takes, from a character that is not blank. -/
theorem Motion.charSpan_changeWordSpan {cursor : Position} (hCursor : cursor.IsIn text)
    (hChar : text[cursor.offset]? = some c) (hWord : CharClass.ofChar c ≠ .blank) :
    Operator.charSpan text (changeWordSpan (splitLines text) cursor 1) =
      (cursor.offset,
        cursor.offset + runLength (CharClass.ofChar c) (text.drop cursor.offset)) := by
  obtain ⟨hInside, hHere⟩ := List.getElem?_eq_some_iff.mp hChar
  have hDrop : text.drop cursor.offset = c :: text.drop (cursor.offset + 1) := by
    rw [List.drop_eq_getElem_cons hInside, hHere]
  have hRun : runLength (CharClass.ofChar c) (text.drop (cursor.offset + 1)) ≤
      text.length - (cursor.offset + 1) := by
    rw [← List.length_drop]
    exact (List.takeWhile_sublist _).length_le
  have hEnd : currentWordEnd text cursor.offset =
      cursor.offset + runLength (CharClass.ofChar c) (text.drop (cursor.offset + 1)) := by
    rw [currentWordEnd, hDrop]
    dsimp only
    split
    · next hBlank => exact absurd hBlank hWord
    · rfl
  have hStop : (changeWordSpan (splitLines text) cursor 1).stop.offset =
      cursor.offset + runLength (CharClass.ofChar c) (text.drop (cursor.offset + 1)) := by
    rw [changeWordSpan, joinLines_splitLines, Nat.min_eq_left hCursor.offset_le,
      Position.ofOffsetInLines_splitLines, Position.ofOffset_offset]
    -- There is no further word to go on to.
    show min (currentWordEnd text cursor.offset) text.length = _
    rw [hEnd]
    omega
  have hOrder : (changeWordSpan (splitLines text) cursor 1).start.offset ≤
      (changeWordSpan (splitLines text) cursor 1).stop.offset := by
    rw [hStop]
    exact Nat.le_add_right _ _
  rw [Operator.charSpan, Span.ordered, if_pos hOrder, hDrop, runLength_cons_of_eq rfl]
  dsimp only
  rw [hStop]
  show (cursor.offset, min (cursor.offset + _ + 1) text.length) = _
  rw [Nat.min_eq_left (by omega), Nat.add_assoc]

end Runs

namespace Workspace

variable {work : Workspace} {before run rest : Text} {c : Char}

/-- What the change does to a buffer whose cursor is on a character that is not blank. -/
theorem runOperator_changeWord (h : work.buffer.Coherent)
    (hChar : work.buffer.text[work.buffer.cursor.offset]? = some c)
    (hWord : CharClass.ofChar c ≠ .blank)
    (hRun : IsRunAt work.buffer.text work.buffer.cursor.offset (CharClass.ofChar c)
      before run rest)
    (hLength : run.length =
      runLength (CharClass.ofChar c) (work.buffer.text.drop work.buffer.cursor.offset))
    (surroundings : Surroundings) :
    work.runOperator surroundings .change .wordForward .once =
      ((work.setGoal none).perform
        { text := some (before ++ rest)
          cursor := work.buffer.cursor
          write := some ⟨run, false⟩ }, .edited) := by
  have hSome : work.buffer.text.isEmpty = false := by
    cases hText : work.buffer.text with
    | nil => simp [hText] at hChar
    | cons first others => rfl
  have hOn : (work.buffer.text[work.buffer.cursor.offset]?).any (fun c => !isBlank c) = true := by
    rw [hChar]
    simpa [ofChar_eq_blank_iff] using hWord
  have hSpan := Motion.charSpan_changeWordSpan h hChar hWord
  rw [← hLength] at hSpan
  have hPositive : 0 < run.length := by
    obtain ⟨hInside, hHere⟩ := List.getElem?_eq_some_iff.mp hChar
    rw [hLength, List.drop_eq_getElem_cons hInside, hHere, runLength_cons_of_eq rfl]
    exact Nat.succ_pos _
  have hApply : Operator.change.apply work.buffer
      (Motion.changeWordSpan work.buffer.lines work.buffer.cursor 1) 1 =
        some ⟨some (before ++ rest), work.buffer.cursor, some ⟨run, false⟩⟩ := by
    have hFull : ¬work.buffer.cursor.offset ≥ work.buffer.cursor.offset + run.length := by omega
    simp only [Operator.apply, hSome, Bool.false_eq_true, if_false]
    rw [show (Motion.changeWordSpan work.buffer.lines work.buffer.cursor 1).linewise = false
      from rfl, if_neg Bool.false_ne_true, Operator.deleteChars, Buffer.lines, hSpan]
    dsimp only
    rw [if_neg hFull, hRun.take_eq, hRun.drop_eq, hRun.slice_eq, hRun.ofOffset_removed, ← h]
  simp only [runOperator, h.settled_eq, operatorSpan?, hOn, and_self, if_true]
  rw [show Count.once.value = 1 from rfl, hApply]
  rfl

/-- In Normal mode with nothing pending, and the cursor on a character that is not blank, the
change of a word removes the longest run of its class from the cursor on and keeps all else,
the number of lines included.  The run goes to the register, the cursor stays where it is,
and the engine is in Insert mode. -/
theorem change_word_takes_rest_of_word (h : work.IsReachable)
    (hMode : work.engine.mode = .normal) (hPending : work.engine.state.isPending = false)
    (hChar : work.buffer.text[work.buffer.cursor.offset]? = some c)
    (hWord : isBlank c = false) (first second : Surroundings) :
    let after := work.pressAll [(first, .char 'c'), (second, .char 'w')]
    ∃ before run rest,
      IsRunAt work.buffer.text work.buffer.cursor.offset (CharClass.ofChar c) before run rest ∧
        after.buffer.text = before ++ rest ∧
        after.register = work.register.write ⟨run, false⟩ ∧
        after.buffer.lines.length = work.buffer.lines.length ∧
        after.buffer.cursor = work.buffer.cursor ∧ after.engine.mode = .insert := by
  intro after
  have hPlaced := h.wellPlaced
  have hCoherent : work.buffer.Coherent := hPlaced.coherent.cursor
  have hIdle := ModeState.eq_idle hMode hPending
  have hClass : CharClass.ofChar c ≠ .blank := by simp [ofChar_eq_blank_iff, hWord]
  have hReady : work.ready = work := by
    rw [ready, enter_of_state hIdle]
    exact clampCursor_of_onCharacter (hPlaced.onCharacter (by simp [hMode]))
  obtain ⟨before, run, rest, hRun, hLength⟩ :=
    exists_isRunAt (CharClass.ofChar c) (Position.IsIn.offset_le hCoherent)
  have hChange := runOperator_changeWord hCoherent hChar hClass hRun hLength second
  have hTyped : after = (((work.setGoal none).perform
      ⟨some (before ++ rest), work.buffer.cursor, some ⟨run, false⟩⟩).beginInsert
        (some (.change .wordForward .once))) := by
    show ((work.press first (.char 'c')).1.press second (.char 'w')).1 = _
    rw [show Key.char 'c' = .char Operator.change.key from rfl,
      press_of_operator hIdle rfl rfl rfl,
      press_of_motion (awaiting_state _ _) rfl rfl rfl rfl, awaiting_enter_idle, hReady]
    show (settle (work.operate second .change .wordForward .once)).1 = _
    rw [operate, hChange]
    rfl
  have hText : after.buffer.text = before ++ rest := by
    rw [hTyped]
    exact Buffer.replaceText_text _ _
  refine ⟨before, run, rest, hRun, hText, ?_, ?_, ?_, ?_⟩
  · rw [hTyped]
    rfl
  · rw [Buffer.lines, hText]
    exact hRun.length_splitLines_removed hClass
  · rw [hTyped]
    rfl
  · rw [hTyped]
    rfl

/-- From inside the last word of a line its rest is changed, and the punctuation and the line
feed after it stay. -/
theorem rest_of_last_word_is_changed :
    let work := (ofBuffer (Buffer.ofText ['a', 'b', 'c', '.', '\n', 'd'])).pressAll
      [(.unknown, .char 'l')]
    (work.IsReachable ∧ work.engine.mode = .normal ∧ work.engine.state.isPending = false ∧
        work.buffer.text[work.buffer.cursor.offset]? = some 'b' ∧ isBlank 'b' = false) ∧
      (∃ before run rest, IsRunAt ['a', 'b', 'c', '.', '\n', 'd'] 1 .word before run rest ∧
        (work.pressAll [(.unknown, .char 'c'), (.unknown, .char 'w')]).buffer.text =
          before ++ rest) ∧
      (work.pressAll [(.unknown, .char 'c'), (.unknown, .char 'w')]).buffer.text =
        ['a', '.', '\n', 'd'] := by
  intro work
  have hReachable : work.IsReachable :=
    ⟨_, _, Register.empty, [(.unknown, .char 'l')], rfl⟩
  obtain ⟨before, run, rest, hRun, hText, -⟩ :=
    change_word_takes_rest_of_word hReachable rfl rfl
      (show work.buffer.text[work.buffer.cursor.offset]? = some 'b' by decide) (by decide)
      .unknown .unknown
  exact ⟨⟨hReachable, rfl, rfl, by decide, by decide⟩, ⟨before, run, rest, hRun, hText⟩,
    by decide +kernel⟩

end Workspace

end ModalEditor
