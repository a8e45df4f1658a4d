import ModalEditor.Modal.Press
import ModalEditor.Proofs.Checked.Word
import ModalEditor.Proofs.Text.LineCharacters

namespace ModalEditor

/-!
# Motions step by step

What `Motion.span` and `Motion.changeWordSpan` compute, with every index, sum and difference
checked.  A screen and matches are whatever they are said to be, so their numbers need not fit
the text; a cursor that is a position of the text and a count that was typed are enough for
every step to succeed.
-/

namespace Checked

/-- The first character of a line that is not blank. -/
def firstNonBlankOf (lines : List Text) (line : Nat) : Checked Position := do
  let line := min line (lastLine lines)
  let text ← nth lines line
  ofLineColumn lines line (firstNonBlankColumn text)

/-- The column that a motion up or down asks for.  The end of every line stands beyond any
column there is. -/
def goalColumn (cursor : Position) : Option GoalColumn → Nat
  | none => cursor.column
  | some (.column n) => n
  | some .lineEnd => wordSize - 1

/-- Down or up to a line.  An operator that waits does not stay on its line. -/
def verticalTarget? (lines : List Text) (cursor : Position) (circumstances : Circumstances)
    (line : Nat) : Checked (Option Position) :=
  if line = cursor.line ∧ circumstances.operatorPending then pure none
  else do
    let target ← ofLineColumn lines line (goalColumn cursor circumstances.goal)
    pure (some target)

/-- The last line that a count from a line on takes in. -/
def lastOfCount (lines : List Text) (line count : Nat) : Checked Nat := do
  let after ← add line count
  let last ← sub after 1
  pure (min last (lastLine lines))

/-- A count that was typed, counted from zero, or else a default. -/
def countFromZero (count : Count) (default : Nat) : Checked Nat :=
  if count.typed then sub (max count.value 1) 1 else pure default

/-- First and last visible line. -/
def screenLines (lines : List Text) (screen : Option Geometry) : Checked (Nat × Nat) := do
  let geometry := screen.getD ⟨0, Motion.defaultScreenLines⟩
  let top := min geometry.topLine (lastLine lines)
  let below ← sub (max geometry.visibleLines 1) 1
  pure (top, min (saturatingAdd top below) (lastLine lines))

/-- A line of the screen, chosen by its first and last line and by what a count adds. -/
def screenTarget (lines : List Text) (screen : Option Geometry) (count : Count)
    (choose : Nat → Nat → Nat → Checked Nat) : Checked Position := do
  let (top, bottom) ← screenLines lines screen
  let extra ← countFromZero count 0
  let line ← choose top bottom extra
  firstNonBlankOf lines line

/-- The start of the word that is `count` words on, or for an operator the end of the line
before. -/
def wordForwardTarget (lines : List Text) (cursor : Position) (count : Nat)
    (operatorPending : Bool) : Checked Position := do
  let chars := flatten lines
  let i ← wordsForward chars count (min cursor.offset chars.length)
  let target ← ofOffsetInLines lines i
  if operatorPending && target.line > cursor.line then do
    let text ← nth lines target.line
    if target.column ≤ firstNonBlankColumn text then do
      let line ← sub target.line 1
      if line ≥ cursor.line then ofLineColumn lines line (lineLength lines line)
      else pure target
    else pure target
  else pure target

def wordBackwardTarget (lines : List Text) (cursor : Position) (count : Nat) :
    Checked Position := do
  let chars := flatten lines
  let i ← wordsBackward chars count (min cursor.offset chars.length)
  ofOffsetInLines lines i

/-- The end of the word that is `count` word ends on.  Inside a word the first may be that of
the word itself. -/
def wordEndTarget (lines : List Text) (cursor : Position) (inWord : Bool) (count : Nat) :
    Checked Position := do
  let chars := flatten lines
  let i ← wordEndsForward chars inWord count (min cursor.offset chars.length)
  ofOffsetInLines lines i

/-- The start of the match `count` matches on or back. -/
def matchTarget (lines : List Text) (cursor : Position) (found : List Match)
    (next : List Match → Nat → Option Match) (count : Nat) : Checked Position :=
  if found.isEmpty then pure cursor
  else ofOffsetInLines lines (Motion.followMatches (next found) count cursor.offset)

/-- The place a motion leads to. -/
def target? (motion : Motion) (lines : List Text) (cursor : Position) (count : Count)
    (circumstances : Circumstances) : Checked (Option Position) :=
  let n := max count.value 1
  let screen := circumstances.surroundings.screen
  let found := circumstances.surroundings.found
  match motion with
  | .left => some <$> ofLineColumn lines cursor.line (cursor.column - n)
  | .right => some <$> do
      let column ← add cursor.column n
      ofLineColumn lines cursor.line (min column (lineLength lines cursor.line))
  | .down =>
      verticalTarget? lines cursor circumstances
        (min (saturatingAdd cursor.line n) (lastLine lines))
  | .up => verticalTarget? lines cursor circumstances (cursor.line - n)
  | .wordForward =>
      some <$> wordForwardTarget lines cursor n circumstances.operatorPending
  | .wordBackward => some <$> wordBackwardTarget lines cursor n
  | .wordEnd => some <$> wordEndTarget lines cursor false n
  | .lineStart => some <$> ofLineColumn lines cursor.line 0
  | .firstNonBlank => some <$> do
      let text ← nth lines cursor.line
      ofLineColumn lines cursor.line (firstNonBlankColumn text)
  | .lineEnd => some <$> do
      let line ← lastOfCount lines cursor.line n
      ofLineColumn lines line (lineLength lines line - 1)
  | .fileStart => some <$> do
      let line ← countFromZero count 0
      firstNonBlankOf lines line
  | .fileEnd => some <$> do
      let line ← countFromZero count (lastLine lines)
      firstNonBlankOf lines line
  | .screenTop => some <$> screenTarget lines screen count
      fun top bottom extra => pure (min (saturatingAdd top extra) bottom)
  | .screenMiddle => some <$> screenTarget lines screen count
      fun top bottom _ => do
        let height ← sub bottom top
        add top (height / 2)
  | .screenBottom => some <$> screenTarget lines screen count
      fun top bottom extra => pure (max (bottom - extra) top)
  | .currentLine => some <$> do
      let line ← lastOfCount lines cursor.line n
      ofLineColumn lines line cursor.column
  | .nextMatch => some <$> matchTarget lines cursor found Match.nextAfter n
  | .previousMatch => some <$> matchTarget lines cursor found Match.previousBefore n

/-- The span that a motion passes over. -/
def motionSpan (motion : Motion) (lines : List Text) (cursor : Position) (count : Count)
    (circumstances : Circumstances) : Checked Span :=
  if Motion.isEmptyText lines then pure (Span.empty cursor)
  else do
    match ← target? motion lines cursor count circumstances with
    | none => pure (Span.empty cursor)
    | some target =>
        let start ←
          if motion = .currentLine then ofLineColumn lines cursor.line cursor.column
          else pure cursor
        pure ⟨start, target, motion.isInclusive && lineLength lines target.line > 0,
          motion.isLinewise⟩

/-- The span that `cw` changes from a character that is not blank. -/
def changeWordSpan (lines : List Text) (cursor : Position) (count : Nat) : Checked Span := do
  let target ← wordEndTarget lines cursor true (max count 1)
  pure ⟨cursor, target, true, false⟩

variable {text : Text} {cursor : Position} {count : Count} {line : Nat}

/-! ## Bounds -/

theorem lastLine_le (text : Text) : lastLine (splitLines text) ≤ text.length := by
  rw [lastLine, length_splitLines, Nat.add_sub_cancel]
  exact List.count_le_length

theorem lineLength_le (text : Text) (line : Nat) :
    lineLength (splitLines text) line ≤ text.length := by
  by_cases hLine : line < (splitLines text).length
  · rw [lineLength, lineAt_eq_getElem hLine]
    exact length_le_of_mem_splitLines (List.getElem_mem hLine)
  · rw [lineLength, lineAt, List.getD_eq_getElem?_getD, List.getElem?_eq_none (by omega)]
    exact Nat.zero_le _

section Room

-- There is room for a place in the text and a count together.
variable (hRoom : text.length + maxCount + 1 < wordSize)

include hRoom

/-! ## Lines -/

theorem firstNonBlankOf_eq (line : Nat) :
    firstNonBlankOf (splitLines text) line =
      .ok (Motion.firstNonBlankOf (splitLines text) line) := by
  have hLess := Position.min_lastLine_lt (splitLines_ne_nil text) line
  rw [firstNonBlankOf, nth_lineAt hLess, ok_bind, ofLineColumn_splitLines (by omega)]
  rfl

/-- The largest number stands for the end of every line. -/
theorem ofLineColumn_goalColumn (goal : Option GoalColumn) (line : Nat) :
    Position.ofLineColumn (splitLines text) line (goalColumn cursor goal) =
      Motion.verticalTarget (splitLines text) cursor goal line := by
  match goal with
  | none | some (.column n) => rfl
  | some .lineEnd =>
      have hLength := lineLength_le text (min line (lastLine (splitLines text)))
      have hBeyond : min (wordSize - 1)
          (lineLength (splitLines text) (min line (lastLine (splitLines text)))) =
          lineLength (splitLines text) (min line (lastLine (splitLines text))) := by
        omega
      simp only [goalColumn, Motion.verticalTarget, Position.ofLineColumn, Nat.min_self, hBeyond]

theorem verticalTarget?_eq (circumstances : Circumstances) (line : Nat) :
    verticalTarget? (splitLines text) cursor circumstances line =
      .ok (if line = cursor.line ∧ circumstances.operatorPending = true then none
        else some (Motion.verticalTarget (splitLines text) cursor circumstances.goal line)) := by
  rw [verticalTarget?]
  split
  · rfl
  · rw [ofLineColumn_splitLines (by omega), ok_bind, pure_eq, ofLineColumn_goalColumn hRoom]

theorem screenLines_eq (screen : Option Geometry) :
    screenLines (splitLines text) screen =
      .ok (Motion.screenLines (splitLines text) screen) := by
  have hLast := lastLine_le text
  rw [screenLines, sub_eq (Nat.le_max_right _ 1), ok_bind, pure_eq,
    min_saturatingAdd (by omega)]
  rfl

omit hRoom in
theorem countFromZero_eq (count : Count) (default : Nat) :
    countFromZero count default =
      .ok (if count.typed then max count.value 1 - 1 else default) := by
  rw [countFromZero, sub_eq (Nat.le_max_right _ 1)]
  split <;> rfl

/-- A line can be chosen from the screen, whatever the screen is, if that does not fail for
lines of the text that are in order. -/
theorem screenTarget_eq (screen : Option Geometry) (count : Count)
    (choose : Nat → Nat → Nat → Checked Nat) (chosen : Nat → Nat → Nat → Nat)
    (hChoose : ∀ top bottom extra, top ≤ bottom → bottom ≤ text.length →
      choose top bottom extra = .ok (chosen top bottom extra)) :
    screenTarget (splitLines text) screen count choose =
      .ok (Motion.firstNonBlankOf (splitLines text)
        (chosen (Motion.screenLines (splitLines text) screen).1
          (Motion.screenLines (splitLines text) screen).2
          (if count.typed then max count.value 1 - 1 else 0))) := by
  have hLast := lastLine_le text
  have hOrder : (Motion.screenLines (splitLines text) screen).1 ≤
      (Motion.screenLines (splitLines text) screen).2 := by
    simp only [Motion.screenLines]
    omega
  have hBottom : (Motion.screenLines (splitLines text) screen).2 ≤ text.length := by
    simp only [Motion.screenLines]
    omega
  rw [screenTarget, screenLines_eq hRoom, ok_bind, countFromZero_eq]
  dsimp only [ok_bind]
  rw [hChoose _ _ _ hOrder hBottom, ok_bind, firstNonBlankOf_eq hRoom]

theorem lastOfCount_eq (hLine : line ≤ text.length) {n : Nat} (hSome : 1 ≤ n)
    (hCount : n ≤ maxCount) :
    lastOfCount (splitLines text) line n =
      .ok (min (line + n - 1) (lastLine (splitLines text))) := by
  rw [lastOfCount, add_eq (by omega), ok_bind, sub_eq (by omega), ok_bind, pure_eq]

/-! ## Words and matches -/

theorem wordForwardTarget_eq (cursor : Position) (n : Nat) (operatorPending : Bool) :
    wordForwardTarget (splitLines text) cursor n operatorPending =
      .ok (Motion.wordForwardTarget (splitLines text) cursor n operatorPending) := by
  rw [wordForwardTarget, flatten_eq, joinLines_splitLines,
    wordsForward_eq (by omega) _ (Nat.min_le_right _ _), ok_bind,
    ofOffsetInLines_splitLines (by omega), Motion.wordForwardTarget, joinLines_splitLines]
  have hIn := Position.isIn_ofOffsetInLines text
    (ModalEditor.wordsForward text n (min cursor.offset text.length))
  generalize Position.ofOffsetInLines (splitLines text)
    (ModalEditor.wordsForward text n (min cursor.offset text.length)) = target at hIn ⊢
  have hLine := (Position.isIn_iff.mp hIn).1
  generalize hText : lineAt (splitLines text) target.line = line
  dsimp only [ok_bind]
  cases hWaits : operatorPending && decide (target.line > cursor.line) with
  | false => rfl
  | true =>
      have hLater : target.line > cursor.line :=
        of_decide_eq_true (Bool.and_eq_true_iff.mp hWaits).2
      rw [if_pos rfl, nth_lineAt hLine, hText, ok_bind, Bool.true_and]
      by_cases hIndented : target.column ≤ firstNonBlankColumn line
      · rw [if_pos hIndented, sub_eq (by omega), ok_bind, if_pos (by omega),
          ofLineColumn_splitLines (by omega), if_pos (decide_eq_true hIndented)]
      · rw [if_neg hIndented, if_neg (by simpa using hIndented), pure_eq]

theorem wordBackwardTarget_eq (cursor : Position) (n : Nat) :
    wordBackwardTarget (splitLines text) cursor n =
      .ok (Motion.wordBackwardTarget (splitLines text) cursor n) := by
  rw [wordBackwardTarget, flatten_eq, joinLines_splitLines,
    wordsBackward_eq _ (Nat.min_le_right _ _), ok_bind,
    ofOffsetInLines_splitLines (by omega), Motion.wordBackwardTarget, joinLines_splitLines]

theorem wordEndTarget_eq (cursor : Position) (n : Nat) :
    wordEndTarget (splitLines text) cursor false n =
      .ok (Motion.wordEndTarget (splitLines text) cursor n) := by
  rw [wordEndTarget, flatten_eq, joinLines_splitLines,
    wordEndsForward_eq (by omega) _ (Nat.min_le_right _ _), ok_bind,
    ofOffsetInLines_splitLines (by omega), Motion.wordEndTarget, joinLines_splitLines]

theorem matchTarget_eq (cursor : Position) (found : List Match)
    (next : List Match → Nat → Option Match) (n : Nat) :
    matchTarget (splitLines text) cursor found next n =
      .ok (Motion.matchTarget (splitLines text) cursor found next n) := by
  rw [matchTarget, Motion.matchTarget]
  split
  · rfl
  · exact ofOffsetInLines_splitLines (by omega) _

/-! ## Motions -/

variable (hCursor : cursor.IsIn text) (hCount : count.value ≤ maxCount)

include hCursor hCount

theorem target?_eq (motion : Motion) (circumstances : Circumstances) :
    target? motion (splitLines text) cursor count circumstances =
      .ok (motion.target? (splitLines text) cursor count circumstances) := by
  obtain ⟨hLine, hColumn, -⟩ := Position.isIn_iff.mp hCursor
  have hLast := lastLine_le text
  have hLength := lineLength_le text cursor.line
  have hBound : cursor.line ≤ text.length := by
    rw [lastLine] at hLast
    omega
  have hOnce : 1 ≤ max count.value 1 := Nat.le_max_right _ _
  have hMost : max count.value 1 ≤ maxCount := Nat.max_le.mpr ⟨hCount, by decide⟩
  cases motion with
  | left | lineStart =>
      rw [target?, ofLineColumn_splitLines (by omega)]
      rfl
  | right =>
      rw [target?, add_eq (by omega), ok_bind, ofLineColumn_splitLines (by omega)]
      rfl
  | down =>
      rw [target?, verticalTarget?_eq hRoom, min_saturatingAdd (by omega)]
      rfl
  | up =>
      rw [target?, verticalTarget?_eq hRoom]
      rfl
  | wordForward =>
      rw [target?, wordForwardTarget_eq hRoom]
      rfl
  | wordBackward =>
      rw [target?, wordBackwardTarget_eq hRoom]
      rfl
  | wordEnd =>
      rw [target?, wordEndTarget_eq hRoom]
      rfl
  | firstNonBlank =>
      rw [target?, nth_lineAt hLine]
      dsimp only [ok_bind]
      rw [ofLineColumn_splitLines (by omega)]
      rfl
  | lineEnd | currentLine =>
      rw [target?, lastOfCount_eq hRoom hBound hOnce hMost]
      dsimp only [ok_bind]
      rw [ofLineColumn_splitLines (by omega)]
      rfl
  | fileStart | fileEnd =>
      rw [target?, countFromZero_eq]
      dsimp only [ok_bind]
      rw [firstNonBlankOf_eq hRoom]
      rfl
  | screenTop =>
      refine congrArg (some <$> ·) (screenTarget_eq hRoom _ count _
        (fun top bottom extra => min (top + extra) bottom) fun top bottom extra _ hBottom => ?_)
      rw [pure_eq, min_saturatingAdd (by omega)]
  | screenMiddle =>
      refine congrArg (some <$> ·) (screenTarget_eq hRoom _ count _
        (fun top bottom _ => top + (bottom - top) / 2) fun top bottom _ hOrder hBottom => ?_)
      rw [sub_eq hOrder, ok_bind, add_eq (by omega)]
  | screenBottom =>
      exact congrArg (some <$> ·) (screenTarget_eq hRoom _ count _
        (fun top bottom extra => max (bottom - extra) top) fun _ _ _ _ _ => rfl)
  | nextMatch | previousMatch =>
      rw [target?, matchTarget_eq hRoom]
      rfl

theorem motionSpan_eq (motion : Motion) (circumstances : Circumstances) :
    motionSpan motion (splitLines text) cursor count circumstances =
      .ok (motion.span (splitLines text) cursor count circumstances) := by
  rw [motionSpan, Motion.span]
  by_cases hEmpty : Motion.isEmptyText (splitLines text)
  · rw [if_pos hEmpty, if_pos hEmpty, pure_eq]
  · rw [if_neg hEmpty, if_neg hEmpty, target?_eq hRoom hCursor hCount, ok_bind]
    cases motion.target? (splitLines text) cursor count circumstances with
    | none => rfl
    | some target =>
        by_cases hLines : motion = .currentLine
        · simp only [hLines, if_true]
          rw [ofLineColumn_splitLines (by omega)]
          rfl
        · simp only [hLines, if_false]
          rfl

end Room

theorem changeWordSpan_eq (hSize : text.length + 1 < wordSize) (cursor : Position) (n : Nat) :
    changeWordSpan (splitLines text) cursor n =
      .ok (Motion.changeWordSpan (splitLines text) cursor n) := by
  obtain ⟨further, hFurther⟩ : ∃ further, max n 1 = further + 1 := ⟨max n 1 - 1, by omega⟩
  rw [changeWordSpan, wordEndTarget, flatten_eq, joinLines_splitLines, hFurther,
    wordEndsForward_eq_currentWordEnd hSize _ (Nat.min_le_right _ _), ok_bind,
    ofOffsetInLines_splitLines hSize, Motion.changeWordSpan, joinLines_splitLines, hFurther]
  rfl

end Checked

end ModalEditor
