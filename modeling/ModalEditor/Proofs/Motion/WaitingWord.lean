import Mathlib.Order.Iterate
import ModalEditor.Operator
import ModalEditor.Proofs.Motion.Words
import ModalEditor.Proofs.Motion.WordsOnLines
import ModalEditor.Proofs.Text.Coordinates

namespace ModalEditor

/-!
# A word motion that an operator waits for

The motion is meant to stop at the end of the line that the last word is on.  It goes back
by one line from a target that is the first thing on its line, and to the line of the word
that is back far enough exactly if no line of blanks comes right after that line.  Such a
line has no word to stop at, so the target is on a later line, or at its own end.

* `Motion.waiting_word_motion_stays_on_line_iff` says exactly when the motion stays on the
  line, and that it ends at the end of the line where no other word does.
* `Motion.waiting_word_motion_crosses_blank_line` is a text in which it does not stay.
-/

/-! ## The next word and the lines -/

/-- Whether another word starts on the line of a position, after it. -/
def HasLaterWord (text : Text) (p : Position) : Prop :=
  ∃ offset, p.offset < offset ∧ IsWordStart text offset ∧
    (Position.ofOffset text offset).line = p.line

section NextWord

variable {text : Text} {p q : Position}

/-- Whether a position is that of the next word, or of the end of the text, seen from a
character that is not blank. -/
structure IsNextWord (text : Text) (p q : Position) : Prop where
  here : p.IsIn text
  target : q.IsIn text
  onWord : ∃ c, text[p.offset]? = some c ∧ isBlank c = false
  isNextOr : IsNextOr (IsWordStart text) text.length p.offset q.offset

namespace IsNextWord

theorem lt (h : IsNextWord text p q) : p.offset < q.offset := by
  obtain ⟨c, hChar, -⟩ := h.onWord
  have hInside := (List.getElem?_eq_some_iff.mp hChar).1
  rcases h.isNextOr with hLeast | ⟨-, hEnd⟩
  · exact hLeast.1.1
  · omega

theorem line_le (h : IsNextWord text p q) : p.line ≤ q.line := by
  have hOrder := (h.here.offset_le_offset_iff h.target).mp h.lt.le
  simp only [Point.Precedes, Position.point] at hOrder
  omega

/-- The next word is not behind one that starts later. -/
theorem le_of_isWordStart (h : IsNextWord text p q) {offset : Nat} (hAfter : p.offset < offset)
    (hStart : IsWordStart text offset) : q.offset ≤ offset := by
  rcases h.isNextOr with hLeast | ⟨hAbsent, -⟩
  · exact hLeast.2 ⟨hAfter, hStart⟩
  · exact absurd hStart (hAbsent offset hAfter)

/-- On the line of the word the target is not the first thing. -/
theorem firstNonBlankColumn_lt_of_line_eq (h : IsNextWord text p q) (hLine : q.line = p.line) :
    firstNonBlankColumn (lineAt (splitLines text) q.line) < q.column := by
  obtain ⟨c, hChar, hWord⟩ := h.onWord
  have hClass : CharClass.ofChar c ≠ .blank := by simp [ofChar_eq_blank_iff, hWord]
  have hColumn := h.here.column_lt hChar (ne_lineFeed_of_ofChar_ne hClass)
  rw [h.here.getElem?_eq hColumn] at hChar
  have hFirst := firstNonBlankColumn_le hChar hWord
  have hLess := h.lt
  obtain ⟨-, -, hOffset⟩ := Position.isIn_iff.mp h.here
  obtain ⟨-, -, hTarget⟩ := Position.isIn_iff.mp h.target
  rw [hLine] at hTarget ⊢
  omega

theorem line_eq_of_hasLaterWord (h : IsNextWord text p q) (hLater : HasLaterWord text p) :
    q.line = p.line := by
  obtain ⟨offset, hAfter, hStart, hLine⟩ := hLater
  have hIn := Position.isIn_ofOffset text offset
  have hInside := hStart.lt_length
  have hOrder := (h.target.offset_le_offset_iff hIn).mp (by
    rw [Position.ofOffset_offset, Nat.min_eq_left hInside.le]
    exact h.le_of_isWordStart hAfter hStart)
  have hBack := h.line_le
  simp only [Point.Precedes, Position.point] at hOrder
  omega

/-- Where no other word starts on the line and it is not the last one, the target is on a
later line. -/
theorem line_lt (h : IsNextWord text p q) (hNone : ¬HasLaterWord text p)
    (hMore : p.line + 1 < (splitLines text).length) : p.line < q.line := by
  refine Nat.lt_of_le_of_ne h.line_le fun hSame => ?_
  obtain ⟨hLine, hColumn, hOffset⟩ := Position.isIn_iff.mp h.target
  rcases h.isNextOr.holds_or_eq with hStart | hEnd
  · refine hNone ⟨q.offset, h.lt, hStart, ?_⟩
    rw [← h.target, hSame]
  · have hBreak := lineStart_succ hLine
    have hRest := lineStart_add_le (hSame ▸ hMore) (Nat.zero_le _)
    rw [joinLines_splitLines] at hRest
    omega

/-- A line that is not all blank stops the motion at its first word, or where it ends with
the text. -/
theorem on_next_line (h : IsNextWord text p q) (hNone : ¬HasLaterWord text p)
    (hMore : p.line + 1 < (splitLines text).length)
    (hBlank : ¬IsBlankLine (lineAt (splitLines text) (p.line + 1))) :
    q.line = p.line + 1 ∧
      q.column ≤ firstNonBlankColumn (lineAt (splitLines text) (p.line + 1)) := by
  have hLater := h.line_lt hNone hMore
  obtain ⟨hLine, hColumn, hOffset⟩ := Position.isIn_iff.mp h.target
  obtain ⟨hHere, hHereColumn, hHereOffset⟩ := Position.isIn_iff.mp h.here
  have hBreak := lineStart_succ hHere
  have hFirst : firstNonBlankColumn (lineAt (splitLines text) (p.line + 1)) ≤
      lineLength (splitLines text) (p.line + 1) := by
    rcases firstNonBlankColumn_lt (lineAt (splitLines text) (p.line + 1)) with hStart | hLess
    · omega
    · exact hLess.le
  have hBound : q.offset ≤ lineStart (splitLines text) (p.line + 1) +
      firstNonBlankColumn (lineAt (splitLines text) (p.line + 1)) := by
    by_cases hEnd : lineAt (splitLines text) (p.line + 1) = [] →
        p.line + 1 + 1 < (splitLines text).length
    · exact h.le_of_isWordStart (by omega) (isWordStart_firstNonBlank hMore hBlank hEnd)
    · -- The text ends with an empty line.
      obtain ⟨hEmpty, hLast⟩ := Classical.not_imp.mp hEnd
      have hText := lineStart_add_lineLength_of_last
        (show p.line + 1 + 1 = (splitLines text).length by omega)
      have hLength := h.target.offset_le
      rw [lineLength, hEmpty] at hText
      simp only [List.length_nil] at hText
      omega
  have hNext : q.line = p.line + 1 := by
    by_contra hOther
    have hPast := lineStart_add_lineLength_lt (show p.line + 1 < q.line by omega) hLine
    omega
  rw [hNext] at hOffset
  exact ⟨hNext, by omega⟩

/-- A line of blanks is passed, or its end is that of the text. -/
theorem past_blank_line (h : IsNextWord text p q)
    (hBlank : IsBlankLine (lineAt (splitLines text) q.line)) :
    firstNonBlankColumn (lineAt (splitLines text) q.line) < q.column := by
  obtain ⟨hLine, hColumn, hOffset⟩ := Position.isIn_iff.mp h.target
  have hEnd : q.offset = text.length :=
    h.isNextOr.holds_or_eq.resolve_left (not_isWordStart_of_isBlankLine h.target hBlank)
  have hRest := lineStart_add_le hLine (Nat.le_refl _)
  have hLength : 0 < lineLength (splitLines text) q.line := List.length_pos_iff.mpr hBlank.1
  rw [joinLines_splitLines] at hRest
  rw [hBlank.firstNonBlankColumn_eq]
  omega

end IsNextWord

end NextWord

/-! ## Where the motion ends -/

namespace Motion

variable {text : Text} {cursor p q : Position}

/-- Where the motion forward ends while an operator waits: at the end of the line before,
if the target is on a later line than the cursor and the first thing there. -/
def heldBack (lines : List Text) (cursor target : Position) : Position :=
  if cursor.line < target.line ∧
      target.column ≤ firstNonBlankColumn (lineAt lines target.line) then
    Position.ofLineColumn lines (target.line - 1) (lineLength lines (target.line - 1))
  else target

theorem wordForwardTarget_waiting (text : Text) (cursor : Position) (count : Nat) :
    wordForwardTarget (splitLines text) cursor count true =
      heldBack (splitLines text) cursor
        (Position.ofOffset text
          ((nextWordStart text)^[count] (min cursor.offset text.length))) := by
  simp only [wordForwardTarget, heldBack, joinLines_splitLines, wordsForward_eq_iterate,
    Position.ofOffsetInLines_splitLines, Bool.true_and, Bool.and_eq_true, decide_eq_true_eq,
    gt_iff_lt]

theorem heldBack_of_line_eq (h : IsNextWord text p q) (hLine : q.line = p.line) :
    heldBack (splitLines text) cursor q = q := by
  have hPast := h.firstNonBlankColumn_lt_of_line_eq hLine
  rw [heldBack, if_neg]
  omega

/-- The place after which nothing stops the motion on the line is the end of the line. -/
theorem heldBack_of_not_isBlankLine (h : IsNextWord text p q) (hCursor : cursor.line ≤ p.line)
    (hNone : ¬HasLaterWord text p)
    (hBlank : ¬IsBlankLine (lineAt (splitLines text) (p.line + 1))) :
    heldBack (splitLines text) cursor q =
      Position.ofLineColumn (splitLines text) p.line (lineLength (splitLines text) p.line) := by
  by_cases hMore : p.line + 1 < (splitLines text).length
  · obtain ⟨hNext, hColumn⟩ := h.on_next_line hNone hMore hBlank
    rw [← hNext] at hColumn
    have hLater : cursor.line < q.line := by omega
    rw [heldBack, if_pos ⟨hLater, hColumn⟩, hNext, Nat.add_sub_cancel]
  · -- On the last line the motion goes on to the end of the text.
    obtain ⟨hLine, hColumn, hOffset⟩ := Position.isIn_iff.mp h.target
    have hBack := h.line_le
    have hSame : q.line = p.line := by omega
    have hEnd : q.offset = text.length := by
      refine h.isNextOr.holds_or_eq.resolve_left fun hStart => hNone ⟨q.offset, h.lt, hStart, ?_⟩
      rw [← h.target, hSame]
    have hText := lineStart_add_lineLength_of_last
      (show p.line + 1 = (splitLines text).length by omega)
    rw [heldBack_of_line_eq h hSame]
    refine h.target.eq_of_offset_eq (Position.isIn_ofLineColumn _ _ _) ?_
    rw [Position.ofLineColumn_eq_ofOffset (by omega) (Nat.le_refl _), Position.ofOffset_offset]
    omega

/-- A line of blanks right after the line of the word is not passed back over. -/
theorem line_lt_heldBack (h : IsNextWord text p q) (hNone : ¬HasLaterWord text p)
    (hBlank : IsBlankLine (lineAt (splitLines text) (p.line + 1))) :
    p.line < (heldBack (splitLines text) cursor q).line := by
  have hMore : p.line + 1 < (splitLines text).length := by
    by_contra hLast
    refine hBlank.1 ?_
    rw [lineAt, List.getD_eq_getElem?_getD, List.getElem?_eq_none (by omega), Option.getD_none]
  have hLater := h.line_lt hNone hMore
  rw [heldBack]
  split
  · next hFirst =>
      have hOther : q.line ≠ p.line + 1 := by
        intro hNext
        have hPast := h.past_blank_line (hNext ▸ hBlank)
        omega
      obtain ⟨hLine, -, -⟩ := Position.isIn_iff.mp h.target
      show p.line < min (q.line - 1) (lastLine (splitLines text))
      rw [lastLine]
      omega
  · exact hLater

/-- Let the word motion forward be pressed once less than the count says, with no operator,
and come to a character that is not blank.  With the count, while an operator waits, it stays
on the line of that character exactly if another word starts there later, or the next line
is not one of blanks.  If no other word does, it stops at the end of the line then. -/
theorem waiting_word_motion_stays_on_line_iff (hCursor : cursor.IsIn text)
    (goal : Option GoalColumn) (surroundings : Surroundings) {count : Count}
    (hCount : 1 ≤ count.value) :
    let plain := wordForward.destination text ⟨false, goal, surroundings⟩ .once
    let last := plain^[count.value - 1] cursor
    let target := wordForward.destination text ⟨true, goal, surroundings⟩ count cursor
    ∀ c, text[last.offset]? = some c → isBlank c = false →
      (target.line = last.line ↔
        HasLaterWord text last ∨ ¬IsBlankLine (lineAt (splitLines text) (last.line + 1))) ∧
      (¬HasLaterWord text last → ¬IsBlankLine (lineAt (splitLines text) (last.line + 1)) →
        target = Position.ofLineColumn (splitLines text) last.line
          (lineLength (splitLines text) last.line)) := by
  intro plain last target c hChar hWord
  have hText : text ≠ [] := by
    rintro rfl
    simp at hChar
  have hScans : wordForward.Scans text ⟨false, goal, surroundings⟩ (nextWordStart text) :=
    scans_wordForward hText rfl
  obtain ⟨hInside, hLast⟩ :=
    hScans.iterate_eq (fun _ => nextWordStart_le) hCursor (count.value - 1)
  have hOffset : last.offset = (nextWordStart text)^[count.value - 1] cursor.offset := by
    rw [show last = _ from hLast, Position.ofOffset_offset, Nat.min_eq_left hInside]
  have hLastIn : last.IsIn text := by
    rw [show last = _ from hLast]
    exact Position.isIn_ofOffset _ _
  -- One more step leads to the next word, from where the motion is held back.
  have hTarget : target = heldBack (splitLines text) cursor
      (Position.ofOffset text (nextWordStart text last.offset)) := by
    have hOnce : count.value = count.value - 1 + 1 := by omega
    rw [show target = _ from destination_of_target? hText rfl, Nat.max_eq_left hCount,
      wordForwardTarget_waiting, Nat.min_eq_left hCursor.offset_le, hOnce,
      Function.iterate_succ_apply', hOffset]
  have hNext : IsNextWord text last (Position.ofOffset text (nextWordStart text last.offset)) := by
    have hNearest := isNextOr_nextWordStart hLastIn.offset_le
    refine ⟨hLastIn, Position.isIn_ofOffset _ _, ⟨c, hChar, hWord⟩, ?_⟩
    rwa [Position.ofOffset_offset, Nat.min_eq_left (nextWordStart_le hLastIn.offset_le)]
  have hBefore : cursor.line ≤ last.line := by
    have hForward : cursor.offset ≤ last.offset := by
      rw [hOffset]
      exact Function.id_le_iterate_of_id_le (fun offset => Nat.le_add_right offset _) _ _
    have hOrder := (hCursor.offset_le_offset_iff hLastIn).mp hForward
    simp only [Point.Precedes, Position.point] at hOrder
    omega
  rw [hTarget]
  refine ⟨⟨fun hStays => ?_, ?_⟩, heldBack_of_not_isBlankLine hNext hBefore⟩
  · by_contra hNeither
    obtain ⟨hNone, hBlank⟩ := not_or.mp hNeither
    have hBelow : last.line < (heldBack (splitLines text) cursor _).line :=
      line_lt_heldBack hNext hNone (not_not.mp hBlank)
    omega
  · by_cases hLater : HasLaterWord text last
    · intro _
      have hSame := hNext.line_eq_of_hasLaterWord hLater
      rw [heldBack_of_line_eq hNext hSame, hSame]
    · intro hEither
      have hBlank := hEither.resolve_left hLater
      rw [heldBack_of_not_isBlankLine hNext hBefore hLater hBlank]
      exact Position.min_lastLine_of_lt (Position.isIn_iff.mp hLastIn).1

/-- Two words on, before an empty line, the motion stops at the end of the line. -/
theorem waiting_word_motion_stops_before_empty_line :
    let text : Text := ['a', ' ', 'b', '\n', '\n', 'c']
    ((⟨0, 0, 0⟩ : Position).IsIn text ∧ 1 ≤ (⟨2, true⟩ : Count).value ∧
        (wordForward.destination text ⟨false, none, .unknown⟩ .once)^[1] ⟨0, 0, 0⟩ = ⟨0, 2, 2⟩ ∧
        text[2]? = some 'b' ∧ isBlank 'b' = false ∧ ¬IsBlankLine (lineAt (splitLines text) 1)) ∧
      (wordForward.destination text ⟨true, none, .unknown⟩ ⟨2, true⟩ ⟨0, 0, 0⟩).line = 0 := by
  intro text
  have hCursor : (⟨0, 0, 0⟩ : Position).IsIn text := rfl
  have hLast : (wordForward.destination text ⟨false, none, .unknown⟩ .once)^[1] ⟨0, 0, 0⟩ =
      ⟨0, 2, 2⟩ := by decide
  have hNext : ¬IsBlankLine (lineAt (splitLines text) 1) := by decide
  obtain ⟨hStays, -⟩ := waiting_word_motion_stays_on_line_iff hCursor none .unknown
    (show 1 ≤ (⟨2, true⟩ : Count).value by decide) 'b' rfl rfl
  exact ⟨⟨hCursor, by decide, hLast, rfl, rfl, hNext⟩, hStays.mpr (Or.inr hNext)⟩

/-- From a word before a line of blanks the motion goes to the end of that line, and deleting
over it deletes the line feed after the word. -/
theorem waiting_word_motion_crosses_blank_line :
    let text : Text := ['a', '\n', ' ', '\n', 'b']
    ((⟨0, 0, 0⟩ : Position).IsIn text ∧ text[0]? = some 'a' ∧ isBlank 'a' = false) ∧
      wordForward.destination text ⟨true, none, .unknown⟩ .once ⟨0, 0, 0⟩ = ⟨1, 1, 3⟩ ∧
      ((Operator.delete.apply (Buffer.ofText text)
        (wordForward.span (splitLines text) ⟨0, 0, 0⟩ .once ⟨true, none, .unknown⟩) 1).bind
          OperatorOutcome.text) = some ['\n', 'b'] :=
  ⟨⟨rfl, rfl, rfl⟩, by decide, by decide⟩

end Motion

end ModalEditor
