import Mathlib.Logic.Function.Iterate
import ModalEditor.Proofs.Motion.Target
import ModalEditor.Proofs.Motion.WordBoundary

namespace ModalEditor

/-!
# Word motions land on the nearest word boundary

A word motion does the scan of `Motion.Word` once for each count, and the positions on the
way are those of the offsets on the way.  An operator that waits changes where a motion
forward ends, so there the result is about motions alone.
-/

/-! ## Counts -/

/-- Stopping where a step leads nowhere changes nothing. -/
theorem stepUntil_eq_iterate {done : Nat → Bool} {step : Nat → Nat}
    (h : ∀ offset, done offset = true → step offset = offset) (count offset : Nat) :
    stepUntil done step count offset = step^[count] offset := by
  induction count generalizing offset with
  | zero => rfl
  | succ count ih =>
      rw [stepUntil, Function.iterate_succ_apply]
      split
      · rename_i hDone
        have hFixed := h offset hDone
        rw [hFixed, Function.iterate_fixed hFixed]
      · exact ih (step offset)

theorem wordsForward_eq_iterate (text : Text) (count offset : Nat) :
    wordsForward text count offset = (nextWordStart text)^[count] offset := by
  refine stepUntil_eq_iterate ?_ count offset
  intro offset hDone
  have hDrop : text.drop offset = [] := List.drop_eq_nil_iff.mpr (of_decide_eq_true hDone)
  rw [nextWordStart, hDrop, toNextWord, Nat.add_zero]

theorem wordsBackward_eq_iterate (text : Text) (count offset : Nat) :
    wordsBackward text count offset = (previousWordStart text)^[count] offset := by
  refine stepUntil_eq_iterate ?_ count offset
  intro offset hDone
  obtain rfl : offset = 0 := by simpa using hDone
  rfl

/-- From the last character on, the scan for a word end stays. -/
theorem nextWordEnd_of_le {text : Text} {offset : Nat} (h : text.length ≤ offset + 1) :
    nextWordEnd text offset = offset := by
  have hDrop : text.drop (offset + 1) = [] := List.drop_eq_nil_iff.mpr h
  rw [nextWordEnd, hDrop]

theorem wordEndsForward_eq_iterate (text : Text) (count offset : Nat) :
    wordEndsForward text count offset = (nextWordEnd text)^[count] offset := by
  refine stepUntil_eq_iterate ?_ count offset
  intro offset hDone
  exact nextWordEnd_of_le (of_decide_eq_true hDone)

/-! ## Motions -/

namespace Motion

variable {text : Text} {cursor : Position} {circumstances : Circumstances}

/-- Where a motion leads. -/
def destination (motion : Motion) (text : Text) (circumstances : Circumstances) (count : Count)
    (cursor : Position) : Position :=
  (motion.span (splitLines text) cursor count circumstances).stop

/-- Whether a motion with a count is that many single motions, each from where the one
before led.  The target is the same for a number that may be zero. -/
structure IsIterated (motion : Motion) (text : Text) (circumstances : Circumstances)
    (cursor : Position) (target : Nat → Position) : Prop where
  destination_eq : ∀ count,
    motion.destination text circumstances count cursor =
      (motion.destination text circumstances .once)^[max count.value 1] cursor
  target_eq : ∀ count,
    target count = (motion.destination text circumstances .once)^[count] cursor

/-- Whether a motion leads from the cursor to where a scan leads from its offset, as many
times as the count says. -/
def Scans (motion : Motion) (text : Text) (circumstances : Circumstances)
    (scan : Nat → Nat) : Prop :=
  ∀ count cursor, motion.destination text circumstances count cursor =
    Position.ofOffset text (scan^[max count.value 1] (min cursor.offset text.length))

/-- Scans that stay in the text can be followed offset by offset. -/
theorem Scans.iterate_eq {motion : Motion} {scan : Nat → Nat}
    (h : motion.Scans text circumstances scan)
    (hScan : ∀ offset ≤ text.length, scan offset ≤ text.length) (hCursor : cursor.IsIn text)
    (count : Nat) :
    scan^[count] cursor.offset ≤ text.length ∧
      (motion.destination text circumstances .once)^[count] cursor =
        Position.ofOffset text (scan^[count] cursor.offset) := by
  induction count with
  | zero => exact ⟨hCursor.offset_le, hCursor⟩
  | succ count ih =>
      obtain ⟨hInside, hPlace⟩ := ih
      rw [Function.iterate_succ_apply', Function.iterate_succ_apply', hPlace]
      refine ⟨hScan _ hInside, ?_⟩
      rw [h, Position.ofOffset_offset, Nat.min_eq_left hInside, Nat.min_eq_left hInside]
      rfl

theorem Scans.isIterated {motion : Motion} {scan : Nat → Nat} {target : Nat → Position}
    (h : motion.Scans text circumstances scan)
    (hScan : ∀ offset ≤ text.length, scan offset ≤ text.length) (hCursor : cursor.IsIn text)
    (hTarget : ∀ count, target count =
      Position.ofOffset text (scan^[count] (min cursor.offset text.length))) :
    motion.IsIterated text circumstances cursor target := by
  have hOffset := Nat.min_eq_left hCursor.offset_le
  constructor
  · intro count
    rw [h, hOffset, (h.iterate_eq hScan hCursor _).2]
  · intro count
    rw [hTarget, hOffset, (h.iterate_eq hScan hCursor count).2]

/-- What holds where one scan leads holds where one motion does, and with a count the motion
is done as many times. -/
theorem Scans.lands {motion : Motion} {scan : Nat → Nat} {target : Nat → Position}
    (h : motion.Scans text circumstances scan)
    (hScan : ∀ offset ≤ text.length, scan offset ≤ text.length) (hCursor : cursor.IsIn text)
    (hTarget : ∀ count, target count =
      Position.ofOffset text (scan^[count] (min cursor.offset text.length)))
    {p : Nat → Prop} (hPlace : p (scan cursor.offset)) :
    p (motion.destination text circumstances .once cursor).offset ∧
      motion.IsIterated text circumstances cursor target := by
  refine ⟨?_, h.isIterated hScan hCursor hTarget⟩
  obtain ⟨hInside, hOnce⟩ := h.iterate_eq hScan hCursor 1
  have hOffset : (motion.destination text circumstances .once cursor).offset =
      scan cursor.offset := by
    calc
      (motion.destination text circumstances .once cursor).offset
          = min (scan cursor.offset) text.length := congrArg Position.offset hOnce
      _ = scan cursor.offset := Nat.min_eq_left hInside
  rw [hOffset]
  exact hPlace

theorem wordForwardTarget_eq (text : Text) (cursor : Position) (count : Nat) :
    wordForwardTarget (splitLines text) cursor count false =
      Position.ofOffset text ((nextWordStart text)^[count] (min cursor.offset text.length)) := by
  simp only [wordForwardTarget, Bool.false_and, Bool.false_eq_true, if_false]
  rw [Position.ofOffsetInLines_splitLines, joinLines_splitLines, wordsForward_eq_iterate]

theorem wordBackwardTarget_eq (text : Text) (cursor : Position) (count : Nat) :
    wordBackwardTarget (splitLines text) cursor count =
      Position.ofOffset text
        ((previousWordStart text)^[count] (min cursor.offset text.length)) := by
  rw [wordBackwardTarget, Position.ofOffsetInLines_splitLines, joinLines_splitLines,
    wordsBackward_eq_iterate]

theorem wordEndTarget_eq (text : Text) (cursor : Position) (count : Nat) :
    wordEndTarget (splitLines text) cursor count =
      Position.ofOffset text ((nextWordEnd text)^[count] (min cursor.offset text.length)) := by
  rw [wordEndTarget, Position.ofOffsetInLines_splitLines, joinLines_splitLines,
    wordEndsForward_eq_iterate]

/-- In a text with characters a motion leads to its target. -/
theorem destination_of_target? (hText : text ≠ []) {motion : Motion} {count : Count}
    {target : Position}
    (h : motion.target? (splitLines text) cursor count circumstances = some target) :
    motion.destination text circumstances count cursor = target := by
  rw [destination, span, isEmptyText_splitLines hText, if_neg Bool.false_ne_true, h]

/-- Where no operator waits, the motion forward follows the scan. -/
theorem scans_wordForward (hText : text ≠ []) (hFree : circumstances.operatorPending = false) :
    wordForward.Scans text circumstances (nextWordStart text) := by
  intro count cursor
  rw [destination_of_target? hText rfl, hFree, wordForwardTarget_eq]

theorem scans_wordBackward (hText : text ≠ []) :
    wordBackward.Scans text circumstances (previousWordStart text) := by
  intro count cursor
  rw [destination_of_target? hText rfl, wordBackwardTarget_eq]

theorem scans_wordEnd (hText : text ≠ []) :
    wordEnd.Scans text circumstances (nextWordEnd text) := by
  intro count cursor
  rw [destination_of_target? hText rfl, wordEndTarget_eq]

theorem nextWordStart_le {offset : Nat} (h : offset ≤ text.length) :
    nextWordStart text offset ≤ text.length := by
  rcases (isNextOr_nextWordStart h).holds_or_eq with hStart | hEnd
  · exact hStart.lt_length.le
  · exact hEnd.le

theorem previousWordStart_le {offset : Nat} (h : offset ≤ text.length) :
    previousWordStart text offset ≤ text.length := by
  rcases (isPreviousOr_previousWordStart h).lt_or_eq with hLess | hZero <;> omega

theorem nextWordEnd_le {offset : Nat} (h : offset ≤ text.length) :
    nextWordEnd text offset ≤ text.length := by
  rcases (isNextOr_nextWordEnd text offset).holds_or_eq with hEnd | hLast
  · exact hEnd.lt_length.le
  · omega

/-- A word motion goes to the position at the nearest boundary, and with a count it does that
as many times.  Forward that holds where no operator waits for the motion. -/
theorem word_motions_land_on_boundaries (hText : text ≠ []) (hCursor : cursor.IsIn text)
    (circumstances : Circumstances) :
    (∀ (motion : Motion) (count : Count),
      (motion.destination text circumstances count cursor).IsIn text) ∧
    (circumstances.operatorPending = false →
      IsNextOr (IsWordStart text) text.length cursor.offset
        (wordForward.destination text circumstances .once cursor).offset ∧
      wordForward.IsIterated text circumstances cursor
        fun count => wordForwardTarget (splitLines text) cursor count false) ∧
    (IsPreviousOr (IsWordStart text) 0 cursor.offset
        (wordBackward.destination text circumstances .once cursor).offset ∧
      wordBackward.IsIterated text circumstances cursor
        fun count => wordBackwardTarget (splitLines text) cursor count) ∧
    (IsNextOr (IsWordEnd text) (max cursor.offset (text.length - 1)) cursor.offset
        (wordEnd.destination text circumstances .once cursor).offset ∧
      wordEnd.IsIterated text circumstances cursor
        fun count => wordEndTarget (splitLines text) cursor count) := by
  have hInside := hCursor.offset_le
  refine ⟨?_, fun hFree => ?_, ?_, ?_⟩
  · intro motion count
    exact (isIn_span hCursor motion count circumstances).stop
  · exact (scans_wordForward hText hFree).lands (fun _ => nextWordStart_le) hCursor
      (wordForwardTarget_eq text cursor) (isNextOr_nextWordStart hInside)
  · exact (scans_wordBackward hText).lands (fun _ => previousWordStart_le) hCursor
      (wordBackwardTarget_eq text cursor) (isPreviousOr_previousWordStart hInside)
  · exact (scans_wordEnd hText).lands (fun _ => nextWordEnd_le) hCursor
      (wordEndTarget_eq text cursor) (isNextOr_nextWordEnd text cursor.offset)

/-- An empty line is a word of its own, but no word ends there. -/
theorem empty_line_is_passed_as_word :
    (['a', '\n', '\n', ' ', 'b'] : Text) ≠ [] ∧
      (⟨0, 0, 0⟩ : Position).IsIn ['a', '\n', '\n', ' ', 'b'] ∧
      IsNextOr (IsWordStart ['a', '\n', '\n', ' ', 'b']) 5 0 2 ∧
      IsNextOr (IsWordEnd ['a', '\n', '\n', ' ', 'b']) 4 0 4 ∧
      wordForward.destination ['a', '\n', '\n', ' ', 'b'] ⟨false, none, .unknown⟩ ⟨2, true⟩
        ⟨0, 0, 0⟩ = ⟨2, 1, 4⟩ ∧
      (wordForward.destination ['a', '\n', '\n', ' ', 'b'] ⟨false, none, .unknown⟩ .once)^[2]
        ⟨0, 0, 0⟩ = ⟨2, 1, 4⟩ := by
  have hText : (['a', '\n', '\n', ' ', 'b'] : Text) ≠ [] := by decide
  have hCursor : (⟨0, 0, 0⟩ : Position).IsIn ['a', '\n', '\n', ' ', 'b'] := rfl
  obtain ⟨-, hForward, -, hEnd, -⟩ :=
    word_motions_land_on_boundaries hText hCursor ⟨false, none, .unknown⟩
  obtain ⟨hNext, hTimes⟩ := hForward rfl
  have hPlace : wordForward.destination ['a', '\n', '\n', ' ', 'b'] ⟨false, none, .unknown⟩
      ⟨2, true⟩ ⟨0, 0, 0⟩ = ⟨2, 1, 4⟩ := by decide
  exact ⟨hText, hCursor, hNext, hEnd, hPlace, (hTimes.destination_eq ⟨2, true⟩).symm.trans hPlace⟩

end Motion

end ModalEditor
