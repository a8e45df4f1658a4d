import ModalEditor.Proofs.Modal.Moves
import ModalEditor.Proofs.Motion.WordsOnLines
import ModalEditor.Proofs.Text.Coordinates

namespace ModalEditor

/-!
# Counts repeat motions

A motion with a count leads to one target, and only there the cursor is put on a character.
Without the count that happens after each press of the key, and the next press starts from
there.  For the motions here the detour makes no difference: one press from where a count
leads is the count that is one larger.

* Sideways and between lines that is a matter of columns: what a line cuts off a column
  once, it cuts off again.
* A word motion goes by offsets.  A cursor that is put back was at the end of a line with
  characters, where no word starts or ends, so the scan from one character before finds the
  same place.
-/

namespace Position

variable {text : Text} {p : Position}

/-- Whether a position is put back by one character, from where no word starts or ends. -/
structure IsPutBack (text : Text) (p : Position) : Prop where
  offset_eq : p.offset = (p.onCharacter (splitLines text)).offset + 1
  not_isWordStart : ¬IsWordStart text p.offset
  not_isWordEnd : ¬IsWordEnd text p.offset

theorem onCharacter_eq_or_isPutBack (h : p.IsIn text) :
    p.onCharacter (splitLines text) = p ∨ p.IsPutBack text := by
  obtain ⟨hLine, hColumn, hOffset⟩ := isIn_iff.mp h
  by_cases hStands : p.column = 0 ∨ p.column < lineLength (splitLines text) p.line
  · exact Or.inl (onCharacter_of_stands hStands)
  · have hEnd : p.column = lineLength (splitLines text) p.line := by omega
    have hPositive : 0 < p.column := by omega
    refine Or.inr ⟨?_, not_isWordStart_of_lineEnd h hEnd hPositive,
      not_isWordEnd_of_lineEnd h hEnd⟩
    have hBack := lineStart_add_le hLine (Nat.sub_le (lineLength (splitLines text) p.line) 1)
    rw [joinLines_splitLines] at hBack
    rw [onCharacter, if_pos (by omega), ofLineColumn_eq_ofOffset hLine (Nat.sub_le _ 1),
      ofOffset_offset, Nat.min_eq_left hBack]
    omega

/-- Putting a cursor on a character once is enough. -/
theorem onCharacter_onCharacter (h : p.IsIn text) :
    (p.onCharacter (splitLines text)).onCharacter (splitLines text) =
      p.onCharacter (splitLines text) := by
  obtain ⟨hLine, -, -⟩ := isIn_iff.mp h
  by_cases hStands : p.column = 0 ∨ p.column < lineLength (splitLines text) p.line
  · rw [onCharacter_of_stands hStands, onCharacter_of_stands hStands]
  · have hBack : p.onCharacter (splitLines text) =
        ofLineColumn (splitLines text) p.line (lineLength (splitLines text) p.line - 1) := by
      rw [onCharacter, if_pos (by have hColumn := (isIn_iff.mp h).2.1; omega)]
    rw [hBack, onCharacter_ofLineColumn (splitLines_ne_nil text), min_lastLine_of_lt hLine,
      Nat.min_self]

end Position

namespace Motion

variable {text : Text} {cursor : Position} {circumstances : Circumstances} {motion : Motion}

/-- Whether one step from where a count leads is the count that is one larger. -/
def GoesOn (motion : Motion) (text : Text) (circumstances : Circumstances)
    (cursor : Position) : Prop :=
  ∀ n, 1 ≤ n →
    motion.landing text circumstances .once (motion.landing text circumstances ⟨n, true⟩ cursor) =
      motion.landing text circumstances ⟨n + 1, true⟩ cursor

/-- A motion that goes on from each count repeats with it. -/
theorem GoesOn.landing_eq (h : motion.GoesOn text circumstances cursor)
    (hOnce : motion.landing text circumstances ⟨1, true⟩ cursor =
      motion.landing text circumstances .once cursor) {n : Nat} (hn : 1 ≤ n) :
    motion.landing text circumstances ⟨n, true⟩ cursor =
      (motion.landing text circumstances .once)^[n] cursor := by
  induction n, hn using Nat.le_induction with
  | base => exact hOnce
  | succ n hn ih => rw [Function.iterate_succ_apply', ← ih, h n hn]

/-! ## Sideways -/

theorem landing_left (hText : text ≠ []) (count : Count) :
    left.landing text circumstances count cursor =
      Position.ofLineColumn (splitLines text) cursor.line
        (min (cursor.column - max count.value 1)
          (lineLength (splitLines text) (min cursor.line (lastLine (splitLines text))) - 1)) := by
  rw [landing, destination_of_target? hText rfl]
  exact Position.onCharacter_ofLineColumn (splitLines_ne_nil text) _ _

theorem landing_right (hText : text ≠ []) (hCursor : cursor.IsIn text) (count : Count) :
    right.landing text circumstances count cursor =
      Position.ofLineColumn (splitLines text) cursor.line
        (min (cursor.column + max count.value 1)
          (lineLength (splitLines text) (min cursor.line (lastLine (splitLines text))) - 1)) := by
  have hLine := Position.min_lastLine_of_lt (Position.isIn_iff.mp hCursor).1
  rw [landing, destination_of_target? hText rfl,
    Position.onCharacter_ofLineColumn (splitLines_ne_nil text), hLine]
  congr 1
  omega

theorem goesOn_left (hText : text ≠ []) (hCursor : cursor.IsIn text) :
    left.GoesOn text circumstances cursor := by
  intro n hn
  obtain ⟨hLine, hColumn, -⟩ := Position.isIn_iff.mp hCursor
  simp only [landing_left hText, Position.ofLineColumn, Count.once, Nat.max_self,
    Nat.max_eq_left hn, Nat.max_eq_left (Nat.le_add_left 1 n), Position.min_lastLine_of_lt hLine]
  generalize lineLength (splitLines text) cursor.line = length at hColumn
  have hSame : min (min (min (min (cursor.column - n) (length - 1)) length - 1) (length - 1))
      length = min (min (cursor.column - (n + 1)) (length - 1)) length := by
    omega
  rw [hSame]

theorem goesOn_right (hText : text ≠ []) (hCursor : cursor.IsIn text) :
    right.GoesOn text circumstances cursor := by
  intro n hn
  obtain ⟨hLine, -, -⟩ := Position.isIn_iff.mp hCursor
  rw [landing_right hText (isIn_landing hCursor _), landing_right hText hCursor,
    landing_right hText hCursor]
  simp only [Position.ofLineColumn, Count.once, Nat.max_self, Nat.max_eq_left hn,
    Nat.max_eq_left (Nat.le_add_left 1 n), Position.min_lastLine_of_lt hLine]
  generalize lineLength (splitLines text) cursor.line = length
  have hSame : min (min (min (min (cursor.column + n) (length - 1)) length + 1) (length - 1))
      length = min (min (cursor.column + (n + 1)) (length - 1)) length := by
    omega
  rw [hSame]

/-! ## Between lines -/

theorem goesOn_down (hText : text ≠ []) (goal : GoalColumn) (surroundings : Surroundings) :
    down.GoesOn text ⟨false, some goal, surroundings⟩ cursor := by
  intro n hn
  -- The last line stops the single steps where it stops the count.
  have hLine : min (min (min (cursor.line + max n 1) (lastLine (splitLines text)))
        (lastLine (splitLines text)) + 1) (lastLine (splitLines text)) =
      min (cursor.line + max (n + 1) 1) (lastLine (splitLines text)) := by
    omega
  rw [landing_down hText, landing_down hText, landing_down hText]
  simp only [Position.ofLineColumn, Count.once, Nat.max_self, hLine]

theorem goesOn_up (hText : text ≠ []) (hCursor : cursor.IsIn text) (goal : GoalColumn)
    (surroundings : Surroundings) :
    up.GoesOn text ⟨false, some goal, surroundings⟩ cursor := by
  intro n hn
  have hLast := Position.min_lastLine_of_lt (Position.isIn_iff.mp hCursor).1
  have hLine : min (cursor.line - max n 1) (lastLine (splitLines text)) - 1 =
      cursor.line - max (n + 1) 1 := by
    omega
  rw [landing_up hText, landing_up hText, landing_up hText]
  simp only [Position.ofLineColumn, Count.once, Nat.max_self, hLine]

/-! ## Over words -/

/-- A scan goes on with the count if, from the character to which a cursor is put back, it
ends where it ends from the end of the line. -/
theorem Scans.goesOn {scan : Nat → Nat} (h : motion.Scans text circumstances scan)
    (hScan : ∀ offset ≤ text.length, scan offset ≤ text.length) (hCursor : cursor.IsIn text)
    (hBack : ∀ n, 1 ≤ n → ∀ p : Position, p.IsIn text → p.offset = scan^[n] cursor.offset →
      p.IsPutBack text →
      (Position.ofOffset text (scan (p.onCharacter (splitLines text)).offset)).onCharacter
          (splitLines text) =
        (Position.ofOffset text (scan p.offset)).onCharacter (splitLines text)) :
    motion.GoesOn text circumstances cursor := by
  intro n hn
  have hLanding (count : Count) {cursor : Position} (hIn : cursor.IsIn text) :
      motion.landing text circumstances count cursor =
        (Position.ofOffset text (scan^[max count.value 1] cursor.offset)).onCharacter
          (splitLines text) := by
    rw [landing, h, Nat.min_eq_left hIn.offset_le]
  rw [hLanding .once (isIn_landing hCursor _), hLanding _ hCursor, hLanding _ hCursor,
    Nat.max_eq_left hn, Nat.max_eq_left (Nat.le_add_left 1 n), Function.iterate_succ_apply']
  have hIn := Position.isIn_ofOffset text (scan^[n] cursor.offset)
  have hPlace : (Position.ofOffset text (scan^[n] cursor.offset)).offset =
      scan^[n] cursor.offset := Nat.min_eq_left (h.iterate_eq hScan hCursor n).1
  -- Only from where the cursor is put back does the next scan start elsewhere.
  rcases Position.onCharacter_eq_or_isPutBack hIn with hStays | hPutBack
  · rw [hStays, hPlace]
    rfl
  · have hSame := hBack n hn _ hIn hPlace hPutBack
    rwa [hPlace] at hSame

theorem goesOn_wordForward (hText : text ≠ []) (hCursor : cursor.IsIn text)
    (hFree : circumstances.operatorPending = false) :
    wordForward.GoesOn text circumstances cursor := by
  refine (scans_wordForward hText hFree).goesOn (fun _ => nextWordStart_le) hCursor ?_
  rintro n - p hIn - ⟨hOffset, hNoStart, -⟩
  -- No word starts where the cursor was put back from, so the scan passes over it.
  have hInside := hIn.offset_le
  have hHere := isNextOr_nextWordStart hInside
  have hBefore := isNextOr_nextWordStart
    (show (p.onCharacter (splitLines text)).offset ≤ text.length by omega)
  rw [hOffset] at hHere hNoStart
  rw [hOffset, hBefore.unique (.of_next hNoStart hHere)]

theorem goesOn_wordBackward (hText : text ≠ []) (hCursor : cursor.IsIn text) :
    wordBackward.GoesOn text circumstances cursor := by
  have hScans : wordBackward.Scans text circumstances (previousWordStart text) :=
    scans_wordBackward hText
  refine hScans.goesOn (fun _ => previousWordStart_le) hCursor ?_
  rintro n hn p - hScan ⟨hOffset, hNoStart, -⟩
  -- A scan back ends where a word starts, or at the start of the text.
  obtain ⟨n, rfl⟩ := Nat.exists_eq_add_of_le' hn
  have hFound := isPreviousOr_previousWordStart
    (hScans.iterate_eq (fun _ => previousWordStart_le) hCursor n).1
  rw [← Function.iterate_succ_apply' (previousWordStart text), ← hScan] at hFound
  rcases hFound.holds_or_eq with hStart | hZero
  · exact absurd hStart hNoStart
  · omega

theorem goesOn_wordEnd (hText : text ≠ []) (hCursor : cursor.IsIn text) :
    wordEnd.GoesOn text circumstances cursor := by
  refine (scans_wordEnd hText).goesOn (fun _ => nextWordEnd_le) hCursor ?_
  rintro n - p hIn - ⟨hOffset, -, hNoEnd⟩
  have hInside := hIn.offset_le
  by_cases hMore : p.offset < text.length
  · have hHere := isNextOr_nextWordEnd text p.offset
    have hBefore := isNextOr_nextWordEnd text (p.onCharacter (splitLines text)).offset
    have hLast : max p.offset (text.length - 1) =
        max (p.onCharacter (splitLines text)).offset (text.length - 1) := by
      omega
    rw [hLast, hOffset] at hHere
    rw [hOffset] at hNoEnd
    rw [hOffset, hBefore.unique (.of_next hNoEnd hHere)]
  · -- At the end of the text there is nothing more to scan.
    have hBack : Position.ofOffset text (p.onCharacter (splitLines text)).offset =
        p.onCharacter (splitLines text) := (Position.isIn_onCharacter hIn).symm
    have hHere : Position.ofOffset text p.offset = p := hIn.symm
    rw [nextWordEnd_of_le (show text.length ≤ p.offset + 1 by omega), hHere,
      nextWordEnd_of_le (show text.length ≤ _ + 1 by omega), hBack,
      Position.onCharacter_onCharacter hIn]

/-! ## Each key -/

/-- Whether a motion goes by the character, by the line or by the word. -/
def IsStep (motion : Motion) : Prop :=
  motion ∈ [left, down, up, right, wordForward, wordBackward, wordEnd]

/-- The keys of these motions. -/
theorem exists_isStep_of_key {c : Char} (h : c ∈ ['h', 'j', 'k', 'l', 'w', 'b', 'e']) :
    ∃ motion, ofKey? c = some motion ∧ motion.IsStep := by
  simp only [List.mem_cons, List.not_mem_nil, or_false] at h
  rcases h with rfl | rfl | rfl | rfl | rfl | rfl | rfl <;> exact ⟨_, rfl, by simp [IsStep]⟩

theorem IsStep.ne_lineEnd (h : motion.IsStep) : motion ≠ lineEnd := by
  rintro rfl
  simp [IsStep] at h

theorem goesOn_of_isStep (h : motion.IsStep) (hCursor : cursor.IsIn text)
    {goal : Option GoalColumn} (hGoal : motion.isVertical = true → goal.isSome = true)
    (surroundings : Surroundings) : motion.GoesOn text ⟨false, goal, surroundings⟩ cursor := by
  by_cases hText : text = []
  · subst hText
    intro n _
    exact Position.onCharacter_onCharacter hCursor
  simp only [IsStep, List.mem_cons, List.not_mem_nil, or_false] at h
  rcases h with rfl | rfl | rfl | rfl | rfl | rfl | rfl
  · exact goesOn_left hText hCursor
  · obtain ⟨goal, rfl⟩ := Option.isSome_iff_exists.mp (hGoal rfl)
    exact goesOn_down hText goal surroundings
  · obtain ⟨goal, rfl⟩ := Option.isSome_iff_exists.mp (hGoal rfl)
    exact goesOn_up hText hCursor goal surroundings
  · exact goesOn_right hText hCursor
  · exact goesOn_wordForward hText hCursor rfl
  · exact goesOn_wordBackward hText hCursor
  · exact goesOn_wordEnd hText hCursor

/-- Of these motions none asks whether the count was typed. -/
theorem landing_one (h : motion.IsStep) :
    motion.landing text circumstances ⟨1, true⟩ cursor =
      motion.landing text circumstances .once cursor := by
  simp only [IsStep, List.mem_cons, List.not_mem_nil, or_false] at h
  rcases h with rfl | rfl | rfl | rfl | rfl | rfl | rfl <;> rfl

end Motion

namespace Workspace

variable {work : Workspace} {motion : Motion}

/-- The column that one motion leaves is the one that the next goes by. -/
theorem keptGoal_kept (work : Workspace) (motion : Motion) (cursor : Position) :
    ((work.setGoal (work.keptGoal motion)).moveTo cursor).keptGoal motion =
      work.keptGoal motion := by
  cases hVertical : motion.isVertical with
  | true =>
      simp only [keptGoal, hVertical, if_true]
      rfl
  | false => simp [keptGoal, hVertical]

/-- Motions one after the other, each putting the cursor on a character. -/
theorem iterate_move (h : motion ≠ .lineEnd) (work : Workspace) (surroundings : Surroundings)
    (n : Nat) :
    (fun work : Workspace => (work.move surroundings motion .once).clampCursor)^[n + 1] work =
      (work.setGoal (work.keptGoal motion)).moveTo
        ((motion.landing work.buffer.text ⟨false, work.keptGoal motion, surroundings⟩
          .once)^[n + 1] work.buffer.cursor) := by
  induction n with
  | zero => rw [Function.iterate_one, clampCursor_move, if_neg h]; rfl
  | succ n ih =>
      rw [Function.iterate_succ_apply', ih, clampCursor_move, if_neg h, keptGoal_kept,
        Function.iterate_succ_apply' _ (n + 1)]
      rfl

/-- In Normal and in Visual mode, a count and the key of a motion by the character, by the line
or by the word do what the key does when it is pressed as often: they move the cursor by that
many motions, each on to a character, and leave the column that the first of them went by. -/
theorem count_is_repetition (h : work.IsReachable)
    (hMode : work.engine.mode = .normal ∨ work.engine.mode = .visual)
    (hPending : work.engine.state.isPending = false) (surroundings : Surroundings) {c : Char}
    (hKey : c ∈ ['h', 'j', 'k', 'l', 'w', 'b', 'e']) (n : CountNumeral)
    (hCount : n.value ≤ maxCount) :
    let counted := (work.typeKeys surroundings (n.keys ++ [.char c])).1
    counted = (work.typeKeys surroundings (List.replicate n.value (.char c))).1 ∧
      ∃ motion, Motion.ofKey? c = some motion ∧
        counted = (work.setGoal (work.keptGoal motion)).moveTo
          ((motion.landing work.buffer.text ⟨false, work.keptGoal motion, surroundings⟩
            .once)^[n.value] work.buffer.cursor) := by
  intro counted
  have hPlaced := h.wellPlaced
  obtain ⟨ground, hState⟩ := ModeState.exists_ground hMode hPending
  have hOn : work.buffer.OnCharacter := by
    refine hPlaced.onCharacter ?_
    rcases hMode with hMode | hMode <;> rw [hMode] <;> decide
  obtain ⟨motion, hMotion, hStep⟩ := Motion.exists_isStep_of_key hKey
  have hZero : c ≠ '0' := by
    rintro rfl
    simp at hKey
  have hGoal : motion.isVertical = true → (work.keptGoal motion).isSome = true := by
    intro hVertical
    simp [keptGoal, hVertical]
  have hGoesOn := Motion.goesOn_of_isStep hStep hPlaced.coherent.cursor hGoal surroundings
  have hCounted : counted = (work.setGoal (work.keptGoal motion)).moveTo
      ((motion.landing work.buffer.text ⟨false, work.keptGoal motion, surroundings⟩
        .once)^[n.value] work.buffer.cursor) := by
    calc
      counted = (work.move surroundings motion ⟨n.value, true⟩).clampCursor := by
          rw [show counted = _ from congrArg Prod.fst
            (typeKeys_count hState hOn n hMotion hZero), CountNumeral.count,
            Nat.min_eq_left hCount]
      _ = _ := by
          rw [clampCursor_move, if_neg hStep.ne_lineEnd,
            hGoesOn.landing_eq (Motion.landing_one hStep) n.pos]
  refine ⟨?_, motion, hMotion, hCounted⟩
  obtain ⟨times, hTimes⟩ := Nat.exists_eq_add_of_le' n.pos
  rw [hCounted, typeKeys_replicate hState hMotion hZero, hTimes,
    iterate_move hStep.ne_lineEnd]

/-- While selecting, three word ends are passed one by one, the blanks at the ends of two lines
on the way. -/
theorem three_word_ends_are_passed_one_by_one :
    let work := (ofBuffer (Buffer.ofText ['a', ' ', '\n', 'b', 'c', ' ', '\n', 'd', 'e'])).pressAll
      [(.unknown, .char 'v')]
    let three : CountNumeral := ⟨3, by decide⟩
    (work.IsReachable ∧ work.engine.mode = .visual ∧ work.engine.state.isPending = false ∧
        three.value ≤ maxCount) ∧
      (work.typeKeys .unknown (three.keys ++ [.char 'e'])).1 =
        (work.typeKeys .unknown (List.replicate 3 (.char 'e'))).1 ∧
      (work.typeKeys .unknown (List.replicate 3 (.char 'e'))).1.buffer.cursor = ⟨2, 1, 8⟩ := by
  intro work three
  have hReachable : work.IsReachable := ⟨_, _, Register.empty, [(.unknown, .char 'v')], rfl⟩
  obtain ⟨hSame, -⟩ := count_is_repetition hReachable (Or.inr rfl) rfl .unknown
    (show 'e' ∈ ['h', 'j', 'k', 'l', 'w', 'b', 'e'] by decide) three (by decide)
  exact ⟨⟨hReachable, rfl, rfl, by decide⟩, hSame, by decide +kernel⟩

end Workspace

end ModalEditor
