import ModalEditor.Proofs.Checked.Position
import ModalEditor.Proofs.Motion.Words

namespace ModalEditor

/-!
# Scanning words by index

Here the words of a text are found by an index that goes up and down in an array of its
characters, with each access checked.  The index never leaves the array, each loop comes to its
end, and where it stops is where the scans of `Motion.Word` lead along the text.
-/

namespace Checked

/-! ## The scans -/

/-- Appends lines, from number `i` on, to characters, with a line feed before each line but the
first. -/
def gather : Nat → Text → List Text → Text
  | _, chars, [] => chars
  | i, chars, line :: lines =>
      gather (i + 1) ((if i > 0 then chars ++ [lineFeed] else chars) ++ line) lines

/-- The characters of the lines in one row. -/
def flatten (lines : List Text) : Text :=
  gather 0 [] lines

def classAt (chars : Text) (i : Nat) : Checked CharClass := do
  let c ← nth chars i
  pure (CharClass.ofChar c)

/-- Whether there is an empty line at an index. -/
def isEmptyLineAt (chars : Text) (i : Nat) : Checked Bool := do
  let c ← nth chars i
  if c = lineFeed then
    if i = 0 then pure true
    else do
      let j ← sub i 1
      let before ← nth chars j
      pure (before == lineFeed)
  else pure false

/-- Whether a character is blank and no empty line. -/
def isPassed (chars : Text) (i : Nat) : Checked Bool := do
  let cls ← classAt chars i
  if cls = .blank then do
    let isEmpty ← isEmptyLineAt chars i
    pure !isEmpty
  else pure false

/-- Whether a character is there, blank and no empty line. -/
def isPassedForward (chars : Text) (i : Nat) : Checked Bool :=
  if i < chars.length then isPassed chars i else pure false

/-- Whether a character is not the first one, blank and no empty line. -/
def isPassedBackward (chars : Text) (i : Nat) : Checked Bool :=
  if i > 0 then isPassed chars i else pure false

/-- Whether a character is blank and not the last one. -/
def isBlankBeforeEnd (chars : Text) (i : Nat) : Checked Bool := do
  let next ← add i 1
  if next < chars.length then do
    let cls ← classAt chars i
    pure (cls == .blank)
  else pure false

/-- Whether a character is there and of a class. -/
def isOfClass (chars : Text) (cls : CharClass) (i : Nat) : Checked Bool :=
  if i < chars.length then do
    let other ← classAt chars i
    pure (other == cls)
  else pure false

/-- Whether the character before is of a class. -/
def followsClass (chars : Text) (cls : CharClass) (i : Nat) : Checked Bool :=
  if i > 0 then do
    let j ← sub i 1
    let other ← classAt chars j
    pure (other == cls)
  else pure false

/-- Whether the character after is of a class. -/
def precedesClass (chars : Text) (cls : CharClass) (i : Nat) : Checked Bool := do
  let next ← add i 1
  isOfClass chars cls next

/-- Whether the character after is of a class that words are made of. -/
def isInsideWord (chars : Text) (cls : CharClass) (i : Nat) : Checked Bool := do
  let same ← precedesClass chars cls i
  pure (same && cls != .blank)

/-- Goes up as long as a condition holds. -/
def climb (chars : Text) (condition : Nat → Checked Bool) (i : Nat) : Checked Nat :=
  whileLoop condition (add · 1) (chars.length + 1) i

/-- Goes down as long as a condition holds. -/
def descend (chars : Text) (condition : Nat → Checked Bool) (i : Nat) : Checked Nat :=
  whileLoop condition (sub · 1) (chars.length + 1) i

def nextWordStart (chars : Text) (i : Nat) : Checked Nat := do
  let cls ← classAt chars i
  let j ←
    if cls ≠ .blank then climb chars (isOfClass chars cls) i
    else do
      let isEmpty ← isEmptyLineAt chars i
      if isEmpty then add i 1 else pure i
  climb chars (isPassedForward chars) j

def previousWordStart (chars : Text) (i : Nat) : Checked Nat := do
  let i ← sub i 1
  let j ← descend chars (isPassedBackward chars) i
  let cls ← classAt chars j
  if cls ≠ .blank then descend chars (followsClass chars cls) j else pure j

def nextWordEnd (chars : Text) (i : Nat) : Checked Nat := do
  let i ← add i 1
  let j ← climb chars (isBlankBeforeEnd chars) i
  let cls ← classAt chars j
  climb chars (isInsideWord chars cls) j

/-- Does a round for each count, or until there is nowhere left to go. -/
def repeatUntil (done : Nat → Checked Bool) (round : Nat → Checked Nat) : Nat → Nat → Checked Nat
  | 0, i => pure i
  | count + 1, i => do
      if ← done i then pure i else repeatUntil done round count (← round i)

/-- The start of the word that is `count` words on. -/
def wordsForward (chars : Text) (count i : Nat) : Checked Nat :=
  repeatUntil (fun i => pure (decide (chars.length ≤ i))) (nextWordStart chars) count i

/-- The start of the word that is `count` words back. -/
def wordsBackward (chars : Text) (count i : Nat) : Checked Nat :=
  repeatUntil (fun i => pure (i == 0)) (previousWordStart chars) count i

/-- The end of the word that is `count` word ends on.  From inside a word the first may be that
of the word itself. -/
def wordEndsForward (chars : Text) : Bool → Nat → Nat → Checked Nat
  | _, 0, i => pure i
  | inWord, count + 1, i => do
      let stays ←
        if inWord && decide (i < chars.length) then do
          let cls ← classAt chars i
          pure (cls != .blank)
        else pure false
      if stays then do
        let cls ← classAt chars i
        let j ← climb chars (precedesClass chars cls) i
        wordEndsForward chars false count j
      else do
        let next ← add i 1
        if next ≥ chars.length then pure i
        else do
          let j ← nextWordEnd chars i
          wordEndsForward chars false count j

/-! ## Single characters -/

variable {chars rest : Text} {c : Char} {cls : CharClass} {i : Nat}

theorem gather_succ (i : Nat) (chars : Text) (lines : List Text) :
    gather (i + 1) chars lines = chars ++ lines.flatMap (lineFeed :: ·) := by
  induction lines generalizing i chars with
  | nil => simp [gather]
  | cons line lines ih => rw [gather, ih, if_pos (Nat.succ_pos i)]; simp

theorem flatten_eq (lines : List Text) : flatten lines = joinLines lines := by
  cases lines with
  | nil => rfl
  | cons line lines => rw [flatten, gather, gather_succ, joinLines_cons]; simp

theorem classAt_eq (h : chars[i]? = some c) : classAt chars i = .ok (CharClass.ofChar c) := by
  rw [classAt, nth_eq h, ok_bind, pure_eq]

theorem isEmptyLineAt_eq (h : chars[i]? = some c) :
    isEmptyLineAt chars i = .ok (isEmptyLine (charBefore chars i) c) := by
  rw [isEmptyLineAt, nth_eq h, ok_bind]
  by_cases hFeed : c = lineFeed
  · subst hFeed
    rw [if_pos rfl]
    cases i with
    | zero => rfl
    | succ i =>
        -- The character before is there, since one after it is.
        have hInside := (List.getElem?_eq_some_iff.mp h).1
        obtain ⟨d, hBefore⟩ : ∃ d, chars[i]? = some d :=
          ⟨_, List.getElem?_eq_getElem (by omega)⟩
        rw [if_neg (Nat.succ_ne_zero i), sub_eq (by omega), ok_bind, Nat.add_sub_cancel,
          nth_eq hBefore, ok_bind, pure_eq, charBefore_succ, hBefore]
        simp [isEmptyLine]
  · rw [if_neg hFeed, pure_eq]
    simp [isEmptyLine, hFeed]

theorem isPassed_eq (h : chars[i]? = some c) :
    isPassed chars i = .ok (isBlank c && !isEmptyLine (charBefore chars i) c) := by
  rw [isPassed, classAt_eq h, ok_bind]
  by_cases hBlank : CharClass.ofChar c = .blank
  · rw [if_pos hBlank, isEmptyLineAt_eq h, ok_bind, pure_eq, ofChar_eq_blank_iff.mp hBlank,
      Bool.true_and]
  · have hWord : isBlank c = false := by simpa [ofChar_eq_blank_iff] using hBlank
    rw [if_neg hBlank, pure_eq, hWord, Bool.false_and]

theorem followsClass_eq (h : chars[i]? = some c) (cls : CharClass) :
    followsClass chars cls (i + 1) = .ok (CharClass.ofChar c == cls) := by
  rw [followsClass, if_pos (Nat.succ_pos i), sub_eq (Nat.le_add_left 1 i), ok_bind,
    Nat.add_sub_cancel, classAt_eq h, ok_bind, pure_eq]

theorem isOfClass_eq (chars : Text) (cls : CharClass) (i : Nat) :
    isOfClass chars cls i =
      .ok ((chars.drop i).head?.any fun c => CharClass.ofChar c == cls) := by
  rw [isOfClass, List.head?_drop]
  by_cases hInside : i < chars.length
  · have hChar := List.getElem?_eq_getElem hInside
    rw [if_pos hInside, classAt_eq hChar, ok_bind, hChar, pure_eq, Option.any_some]
  · rw [if_neg hInside, List.getElem?_eq_none (by omega), pure_eq, Option.any_none]

theorem precedesClass_eq (hNext : i + 1 < wordSize) (cls : CharClass) :
    precedesClass chars cls i =
      .ok ((chars.drop (i + 1)).head?.any fun c => CharClass.ofChar c == cls) := by
  rw [precedesClass, add_eq hNext, ok_bind, isOfClass_eq]

/-! ## Runs -/

/-- Of the character before blanks it only matters that it is no line feed. -/
theorem blanksLength_congr {a b : Char} (ha : a ≠ lineFeed) (hb : b ≠ lineFeed) (text : Text) :
    blanksLength (some a) text = blanksLength (some b) text := by
  cases text with
  | nil => rfl
  | cons c rest => simp [blanksLength, isEmptyLine, ha, hb]

/-- In a run of characters of one class the last one is of that class. -/
theorem charBefore_add_runLength (h : chars.drop i = c :: rest) :
    ∃ d, charBefore chars (i + (runLength (CharClass.ofChar c) rest + 1)) = some d ∧
      CharClass.ofChar d = CharClass.ofChar c := by
  induction rest generalizing c i with
  | nil => exact ⟨c, charBefore_of_drop_eq_cons h, rfl⟩
  | cons e rest ih =>
      by_cases hSame : CharClass.ofChar e = CharClass.ofChar c
      · obtain ⟨d, hLast, hClass⟩ := ih (drop_succ_of_drop_eq_cons h)
        rw [hSame] at hLast hClass
        refine ⟨d, ?_, hClass⟩
        rw [runLength_cons_of_eq hSame, ← hLast]
        congr 1
        omega
      · rw [runLength_cons_of_ne hSame]
        exact ⟨c, charBefore_of_drop_eq_cons h, rfl⟩

/-- From inside a word the next one starts after its rest and the blanks behind it. -/
theorem toNextWord_of_word (h : CharClass.ofChar c ≠ .blank) (previous : Option Char)
    (rest : Text) :
    toNextWord previous (c :: rest) =
      runLength (CharClass.ofChar c) (c :: rest) + blanksLength (some c)
        ((c :: rest).drop (runLength (CharClass.ofChar c) (c :: rest))) := by
  rw [toNextWord]
  split
  · contradiction
  · rfl

theorem currentWordEnd_of_word (hDrop : chars.drop i = c :: rest)
    (h : CharClass.ofChar c ≠ .blank) :
    currentWordEnd chars i = i + runLength (CharClass.ofChar c) rest := by
  rw [currentWordEnd, hDrop]
  dsimp only
  split
  · contradiction
  · rfl

/-- From a word, or from the last character, there are no blanks to pass. -/
theorem toWordEnd_of_word_or_last (h : rest = [] ∨ CharClass.ofChar c ≠ .blank) :
    toWordEnd (c :: rest) =
      if CharClass.ofChar c = .blank then 0 else runLength (CharClass.ofChar c) rest := by
  rw [toWordEnd]
  split
  · rename_i hBlank
    have hLast : rest = [] := h.resolve_right (not_not.mpr hBlank)
    rw [if_pos hBlank, hLast, List.isEmpty_nil, if_pos rfl]
  · rename_i hWord
    rw [if_neg hWord]

theorem runLength_le (cls : CharClass) (text : Text) : runLength cls text ≤ text.length :=
  (List.takeWhile_sublist _).length_le

/-! ## Words backward -/

/-- Going down in the array comes to an end and keeps what each step keeps. -/
theorem exists_descend_eq (condition : Nat → Checked Bool) (Keeps : Nat → Prop)
    (hStep : ∀ j ≤ chars.length, Keeps j → condition j = .ok false ∨
      ∃ k, j = k + 1 ∧ condition j = .ok true ∧ Keeps k)
    (hInside : i ≤ chars.length) (h : Keeps i) :
    ∃ j, descend chars condition i = .ok j ∧ j ≤ chars.length ∧ Keeps j ∧
      condition j = .ok false := by
  obtain ⟨j, hLast, ⟨hEnd, hKeeps⟩, hStop⟩ := exists_whileLoop_eq
    condition (sub · 1) (fun j => j ≤ chars.length ∧ Keeps j) (fun j => j)
    (fun j ⟨hLength, hHere⟩ => by
      rcases hStep j hLength hHere with hStop | ⟨k, rfl, hOn, hNext⟩
      · exact .inl hStop
      · exact .inr ⟨k, hOn, sub_eq (by omega), ⟨by omega, hNext⟩, by omega⟩)
    ⟨hInside, h⟩ (chars.length + 1) (by omega)
  exact ⟨j, hLast, hEnd, hKeeps, hStop⟩

/-- Back over the characters of one class. -/
theorem descend_followsClass (cls : CharClass) (h : i ≤ chars.length) :
    descend chars (followsClass chars cls) i =
      .ok (i - runLength cls (chars.take i).reverse) := by
  obtain ⟨j, hDescend, hEnd, hSame, hStop⟩ := exists_descend_eq
    (followsClass chars cls)
    (fun j => j - runLength cls (chars.take j).reverse =
      i - runLength cls (chars.take i).reverse)
    (fun j hInside hSame => by
      cases j with
      | zero => exact .inl rfl
      | succ k =>
          have hChar := List.getElem?_eq_getElem (show k < chars.length from hInside)
          rw [followsClass_eq hChar]
          by_cases hClass : CharClass.ofChar chars[k] = cls
          · refine .inr ⟨k, rfl, by rw [beq_iff_eq.mpr hClass], ?_⟩
            rwa [reverse_take_succ hChar, runLength_cons_of_eq hClass, Nat.add_sub_add_right]
              at hSame
          · exact .inl (by rw [beq_eq_false_iff_ne.mpr hClass]))
    h rfl
  have hNone : runLength cls (chars.take j).reverse = 0 := by
    cases j with
    | zero => rfl
    | succ k =>
        have hChar := List.getElem?_eq_getElem (show k < chars.length from hEnd)
        rw [followsClass_eq hChar, Except.ok.injEq, beq_eq_false_iff_ne] at hStop
        rw [reverse_take_succ hChar, runLength_cons_of_ne hStop]
  rw [hDescend, ← hSame, hNone, Nat.sub_zero]

/-- Back over blanks, down to an empty line or the first character.  What remains before the
last word stays the same on the way. -/
theorem exists_descend_isPassedBackward (h : i < chars.length) :
    ∃ j, descend chars (isPassedBackward chars) i = .ok j ∧ j < chars.length ∧
      beforeLastWord (chars.take (j + 1)).reverse =
        beforeLastWord (chars.take (i + 1)).reverse ∧
      isPassedBackward chars j = .ok false := by
  obtain ⟨j, hDescend, -, ⟨hInside, hSame⟩, hStop⟩ := exists_descend_eq
    (isPassedBackward chars)
    (fun j => j < chars.length ∧ beforeLastWord (chars.take (j + 1)).reverse =
      beforeLastWord (chars.take (i + 1)).reverse)
    (fun j _ ⟨hInside, hSame⟩ => by
      cases j with
      | zero => exact .inl rfl
      | succ k =>
          have hChar := List.getElem?_eq_getElem hInside
          rw [isPassedBackward, if_pos k.succ_pos, isPassed_eq hChar]
          cases hPassed : isBlank chars[k + 1] &&
              !isEmptyLine (charBefore chars (k + 1)) chars[k + 1] with
          | false => exact .inl rfl
          | true =>
              refine .inr ⟨k, rfl, rfl, by omega, ?_⟩
              rw [Bool.and_eq_true, Bool.not_eq_true', ← ofChar_eq_blank_iff,
                ← head?_reverse_take hInside.le] at hPassed
              rw [← hSame, reverse_take_succ hChar, beforeLastWord, hPassed.1]
              simp only [hPassed.2, Bool.false_eq_true, if_false])
    h.le ⟨h, rfl⟩
  exact ⟨j, hDescend, hInside, hSame, hStop⟩

theorem previousWordStart_eq (h : i ≤ chars.length) (hSome : i ≠ 0) :
    previousWordStart chars i = .ok (ModalEditor.previousWordStart chars i) := by
  obtain ⟨k, rfl⟩ := Nat.exists_eq_succ_of_ne_zero hSome
  obtain ⟨j, hDescend, hInside, hSame, hStop⟩ := exists_descend_isPassedBackward h
  have hChar := List.getElem?_eq_getElem hInside
  rw [previousWordStart, sub_eq k.succ_pos, ok_bind, Nat.succ_sub_one, hDescend, ok_bind,
    classAt_eq hChar, ok_bind, ModalEditor.previousWordStart, ← hSame, reverse_take_succ hChar,
    beforeLastWord]
  by_cases hBlank : CharClass.ofChar chars[j] = .blank
  · rw [if_neg (not_not.mpr hBlank), hBlank, pure_eq, head?_reverse_take hInside.le]
    cases j with
    | zero => cases hFirst : isEmptyLine (charBefore chars 0) chars[0] <;> simp [beforeLastWord]
    | succ j =>
        rw [isPassedBackward, if_pos j.succ_pos, isPassed_eq hChar, Except.ok.injEq,
          ofChar_eq_blank_iff.mp hBlank, Bool.true_and, Bool.not_eq_false'] at hStop
        simp only [hStop, if_true]
        rw [List.length_reverse, List.length_take, Nat.min_eq_left hInside.le]
  · rw [if_pos hBlank, descend_followsClass _ hInside.le]
    split
    · contradiction
    · rw [List.length_reverse, List.length_take, Nat.min_eq_left hInside.le]

/-! ## Words forward -/

section Forward

variable (hSize : chars.length + 1 < wordSize)

include hSize

/-- Going up in the array comes to an end and keeps what each step keeps. -/
theorem exists_climb_eq (condition : Nat → Checked Bool) (Keeps : Nat → Prop)
    (hStep : ∀ j ≤ chars.length, Keeps j → condition j = .ok false ∨
      condition j = .ok true ∧ j < chars.length ∧ Keeps (j + 1))
    (hInside : i ≤ chars.length) (h : Keeps i) :
    ∃ j, climb chars condition i = .ok j ∧ j ≤ chars.length ∧ Keeps j ∧
      condition j = .ok false := by
  obtain ⟨j, hLast, ⟨hEnd, hKeeps⟩, hStop⟩ := exists_whileLoop_eq
    condition (add · 1) (fun j => j ≤ chars.length ∧ Keeps j) (fun j => chars.length - j)
    (fun j ⟨hLength, hHere⟩ => by
      rcases hStep j hLength hHere with hStop | ⟨hOn, hLess, hNext⟩
      · exact .inl hStop
      · exact .inr ⟨j + 1, hOn, add_eq (by omega), ⟨hLess, hNext⟩, by omega⟩)
    ⟨hInside, h⟩ (chars.length + 1) (by omega)
  exact ⟨j, hLast, hEnd, hKeeps, hStop⟩

/-- A scan that goes on where the condition holds, and nowhere else, tells where going up
ends. -/
theorem climb_eq {condition : Nat → Checked Bool} (scan : Nat → Nat)
    (hScan : ∀ j ≤ chars.length, ∃ on, condition j = .ok on ∧
      (on = true → j < chars.length ∧ scan j = scan (j + 1)) ∧ (on = false → scan j = j))
    (h : i ≤ chars.length) : climb chars condition i = .ok (scan i) := by
  obtain ⟨j, hClimb, hEnd, hSame, hStop⟩ := exists_climb_eq hSize condition
    (fun j => scan j = scan i)
    (fun j hInside hSame => by
      obtain ⟨on, hOn, hGoes, -⟩ := hScan j hInside
      cases on with
      | false => exact .inl hOn
      | true =>
          obtain ⟨hLess, hNext⟩ := hGoes rfl
          exact .inr ⟨hOn, hLess, hNext.symm.trans hSame⟩)
    h rfl
  obtain ⟨on, hOn, -, hStays⟩ := hScan j hEnd
  cases hOn.symm.trans hStop
  rw [hClimb, ← hSame, hStays rfl]

/-- Going up as long as the character some way ahead is of one class. -/
theorem climb_run {condition : Nat → Checked Bool} (ahead : Nat) (cls : CharClass)
    (hCondition : ∀ j ≤ chars.length, condition j =
      .ok ((chars.drop (j + ahead)).head?.any fun c => CharClass.ofChar c == cls))
    (h : i ≤ chars.length) :
    climb chars condition i = .ok (i + runLength cls (chars.drop (i + ahead))) := by
  refine climb_eq hSize (fun j => j + runLength cls (chars.drop (j + ahead)))
    (fun j hInside => ⟨_, hCondition j hInside, ?_⟩) h
  cases hDrop : chars.drop (j + ahead) with
  | nil => simp [runLength]
  | cons d rest =>
      have hLength := length_of_drop_eq_cons hDrop
      refine ⟨fun hOn => ⟨by omega, ?_⟩, fun hOff => ?_⟩
      · rw [runLength_cons_of_eq (by simpa using hOn), Nat.add_right_comm j 1 ahead,
          drop_succ_of_drop_eq_cons hDrop]
        omega
      · rw [runLength_cons_of_ne (by simpa using hOff), Nat.add_zero]

theorem climb_isOfClass (cls : CharClass) (h : i ≤ chars.length) :
    climb chars (isOfClass chars cls) i = .ok (i + runLength cls (chars.drop i)) :=
  climb_run hSize 0 cls (fun j _ => isOfClass_eq chars cls j) h

theorem climb_precedesClass (cls : CharClass) (h : i ≤ chars.length) :
    climb chars (precedesClass chars cls) i =
      .ok (i + runLength cls (chars.drop (i + 1))) :=
  climb_run hSize 1 cls (fun _ _ => precedesClass_eq (by omega) cls) h

/-- Over blanks, up to an empty line. -/
theorem climb_isPassedForward (h : i ≤ chars.length) :
    climb chars (isPassedForward chars) i =
      .ok (i + blanksLength (charBefore chars i) (chars.drop i)) := by
  refine climb_eq hSize
    (fun j => j + blanksLength (charBefore chars j) (chars.drop j))
    (fun j hInside => ?_) h
  cases hDrop : chars.drop j with
  | nil =>
      have hEnd := List.drop_eq_nil_iff.mp hDrop
      exact ⟨false, by rw [isPassedForward, if_neg (by omega), pure_eq], by simp, fun _ => rfl⟩
  | cons d rest =>
      have hLength := length_of_drop_eq_cons hDrop
      refine ⟨isBlank d && !isEmptyLine (charBefore chars j) d, ?_, fun hOn => ⟨by omega, ?_⟩,
        fun hOff => ?_⟩
      · rw [isPassedForward, if_pos (by omega), isPassed_eq (getElem?_of_drop_eq_cons hDrop)]
      · rw [blanksLength, if_pos hOn, drop_succ_of_drop_eq_cons hDrop,
          charBefore_of_drop_eq_cons hDrop]
        omega
      · rw [blanksLength, if_neg (by simp [hOff]), Nat.add_zero]

theorem nextWordStart_eq (h : i < chars.length) :
    nextWordStart chars i = .ok (ModalEditor.nextWordStart chars i) := by
  obtain ⟨c, rest, hDrop⟩ : ∃ c rest, chars.drop i = c :: rest :=
    ⟨_, _, List.drop_eq_getElem_cons h⟩
  have hChar := getElem?_of_drop_eq_cons hDrop
  have hLength := length_of_drop_eq_cons hDrop
  rw [nextWordStart, classAt_eq hChar, ok_bind, ModalEditor.nextWordStart, hDrop]
  by_cases hBlank : CharClass.ofChar c = .blank
  · rw [if_neg (not_not.mpr hBlank), isEmptyLineAt_eq hChar]
    simp only [toNextWord, hBlank, ok_bind]
    cases hFeed : isEmptyLine (charBefore chars i) c with
    | true =>
        simp only [if_true, add_eq (show i + 1 < wordSize by omega), ok_bind]
        rw [climb_isPassedForward hSize (by omega), charBefore_of_drop_eq_cons hDrop,
          drop_succ_of_drop_eq_cons hDrop, Nat.add_assoc]
    | false =>
        simp only [Bool.false_eq_true, if_false, pure_eq, ok_bind]
        rw [climb_isPassedForward hSize h.le, hDrop]
  · have hRun : i + runLength (CharClass.ofChar c) (c :: rest) ≤ chars.length := by
      have hShort := runLength_le (CharClass.ofChar c) (c :: rest)
      rw [List.length_cons] at hShort
      omega
    obtain ⟨d, hLast, hClass⟩ := charBefore_add_runLength hDrop
    rw [← runLength_cons_of_eq rfl] at hLast
    rw [if_pos hBlank, climb_isOfClass hSize _ h.le, ok_bind, hDrop]
    dsimp only
    rw [climb_isPassedForward hSize hRun, hLast, ← List.drop_drop, hDrop,
      toNextWord_of_word hBlank,
      blanksLength_congr (ne_lineFeed_of_ofChar_ne (hClass ▸ hBlank))
        (ne_lineFeed_of_ofChar_ne hBlank), Nat.add_assoc]

/-! ## Word ends -/

theorem climb_isInsideWord (cls : CharClass) (h : i ≤ chars.length) :
    climb chars (isInsideWord chars cls) i =
      .ok (if cls = .blank then i else i + runLength cls (chars.drop (i + 1))) := by
  by_cases hBlank : cls = .blank
  · rw [if_pos hBlank]
    refine climb_eq hSize id (fun j hInside => ⟨false, ?_, by simp, fun _ => rfl⟩) h
    rw [isInsideWord, precedesClass_eq (by omega), ok_bind, hBlank, bne_self_eq_false,
      Bool.and_false, pure_eq]
  · have hSame : isInsideWord chars cls = precedesClass chars cls := by
      funext j
      rw [isInsideWord, bne_iff_ne.mpr hBlank]
      simp only [Bool.and_true, bind_pure]
    rw [if_neg hBlank, hSame, climb_precedesClass hSize cls h]

theorem isBlankBeforeEnd_eq (h : chars.drop i = c :: rest) :
    isBlankBeforeEnd chars i = .ok (!rest.isEmpty && CharClass.ofChar c == .blank) := by
  have hLength := length_of_drop_eq_cons h
  rw [isBlankBeforeEnd, add_eq (by omega), ok_bind]
  cases rest with
  | nil => rw [if_neg (by simp only [List.length_nil] at hLength; omega)]; rfl
  | cons d rest =>
      rw [List.length_cons] at hLength
      rw [if_pos (by omega), classAt_eq (getElem?_of_drop_eq_cons h), ok_bind, pure_eq,
        List.isEmpty_cons, Bool.not_false, Bool.true_and]

/-- Over blanks, up to the last character.  Where the word ends stays the same on the way. -/
theorem exists_climb_isBlankBeforeEnd (h : chars.drop i = c :: rest) :
    ∃ j d tail, climb chars (isBlankBeforeEnd chars) i = .ok j ∧ chars.drop j = d :: tail ∧
      j + toWordEnd (d :: tail) = i + toWordEnd (c :: rest) ∧
      (tail = [] ∨ CharClass.ofChar d ≠ .blank) := by
  have hLength := length_of_drop_eq_cons h
  obtain ⟨j, hClimb, -, ⟨d, tail, hDrop, hSame⟩, hStop⟩ := exists_climb_eq hSize
    (isBlankBeforeEnd chars)
    (fun j => ∃ d tail, chars.drop j = d :: tail ∧
      j + toWordEnd (d :: tail) = i + toWordEnd (c :: rest))
    (fun j _ ⟨d, tail, hDrop, hSame⟩ => by
      rw [isBlankBeforeEnd_eq hSize hDrop]
      cases tail with
      | nil => exact .inl rfl
      | cons e tail =>
          by_cases hBlank : CharClass.ofChar d = .blank
          · have hInside := length_of_drop_eq_cons hDrop
            refine .inr ⟨by rw [hBlank]; rfl, by omega, e, tail,
              drop_succ_of_drop_eq_cons hDrop, ?_⟩
            rw [← hSame, toWordEnd.eq_def (d :: e :: tail)]
            simp only [hBlank, List.isEmpty_cons, Bool.false_eq_true, if_false]
            omega
          · exact .inl (by rw [beq_eq_false_iff_ne.mpr hBlank, Bool.and_false]))
    (by omega) ⟨c, rest, h, rfl⟩
  refine ⟨j, d, tail, hClimb, hDrop, hSame, ?_⟩
  rw [isBlankBeforeEnd_eq hSize hDrop, Except.ok.injEq, Bool.and_eq_false_iff,
    Bool.not_eq_false', List.isEmpty_iff, beq_eq_false_iff_ne] at hStop
  exact hStop

theorem nextWordEnd_eq (h : i + 1 < chars.length) :
    nextWordEnd chars i = .ok (ModalEditor.nextWordEnd chars i) := by
  obtain ⟨c, rest, hFirst⟩ : ∃ c rest, chars.drop (i + 1) = c :: rest :=
    ⟨_, _, List.drop_eq_getElem_cons h⟩
  obtain ⟨j, d, tail, hClimb, hDrop, hSame, hStop⟩ := exists_climb_isBlankBeforeEnd hSize hFirst
  have hLength := length_of_drop_eq_cons hDrop
  rw [nextWordEnd, add_eq (by omega), ok_bind, hClimb, ok_bind,
    classAt_eq (getElem?_of_drop_eq_cons hDrop), ok_bind, climb_isInsideWord hSize _ (by omega),
    drop_succ_of_drop_eq_cons hDrop, ModalEditor.nextWordEnd, hFirst]
  dsimp only
  rw [← hSame, toWordEnd_of_word_or_last hStop]
  split <;> rfl

/-! ## Counts -/

omit hSize in
/-- Rounds that do not fail, and lead from places in the array to places in it, are steps. -/
theorem repeatUntil_eq {done : Nat → Checked Bool} {round : Nat → Checked Nat}
    {isDone : Nat → Bool} {step : Nat → Nat}
    (hDone : ∀ j ≤ chars.length, done j = .ok (isDone j))
    (hRound : ∀ j ≤ chars.length, isDone j = false → round j = .ok (step j))
    (hStep : ∀ j ≤ chars.length, step j ≤ chars.length) (count : Nat) (h : i ≤ chars.length) :
    repeatUntil done round count i = .ok (stepUntil isDone step count i) := by
  induction count generalizing i with
  | zero => rfl
  | succ count ih =>
      rw [repeatUntil, stepUntil, hDone i h, ok_bind]
      cases hEnd : isDone i with
      | true => rfl
      | false =>
          rw [if_neg Bool.false_ne_true, if_neg Bool.false_ne_true, hRound i h hEnd, ok_bind,
            ih (hStep i h)]

theorem wordsForward_eq (count : Nat) (h : i ≤ chars.length) :
    wordsForward chars count i = .ok (ModalEditor.wordsForward chars count i) := by
  refine repeatUntil_eq (fun j _ => rfl) (fun j _ hGoesOn => ?_)
    (fun j hInside => Motion.nextWordStart_le hInside) count h
  exact nextWordStart_eq hSize (by simpa using hGoesOn)

omit hSize in
theorem wordsBackward_eq (count : Nat) (h : i ≤ chars.length) :
    wordsBackward chars count i = .ok (ModalEditor.wordsBackward chars count i) := by
  refine repeatUntil_eq (fun j _ => rfl) (fun j hInside hGoesOn => ?_)
    (fun j hInside => Motion.previousWordStart_le hInside) count h
  exact previousWordStart_eq hInside (by simpa using hGoesOn)

theorem wordEndsForward_eq (count : Nat) (h : i ≤ chars.length) :
    wordEndsForward chars false count i =
      .ok (ModalEditor.wordEndsForward chars count i) := by
  induction count generalizing i with
  | zero => rfl
  | succ count ih =>
      rw [wordEndsForward, ModalEditor.wordEndsForward, stepUntil, Bool.false_and,
        if_neg Bool.false_ne_true]
      dsimp only [pure_eq, ok_bind]
      rw [if_neg Bool.false_ne_true, add_eq (by omega), ok_bind]
      by_cases hLast : chars.length ≤ i + 1
      · rw [if_pos hLast, if_pos (decide_eq_true hLast)]
      · rw [if_neg hLast, if_neg (by simpa using hLast), nextWordEnd_eq hSize (by omega), ok_bind,
          ih (Motion.nextWordEnd_le h)]
        rfl

/-- From a place inside a word the first end is that of the word, and from any other it is the
next one. -/
theorem wordEndsForward_eq_currentWordEnd (count : Nat) (h : i ≤ chars.length) :
    wordEndsForward chars true (count + 1) i =
      .ok (ModalEditor.wordEndsForward chars count (currentWordEnd chars i)) := by
  -- At the end and from a blank the round is an ordinary one.
  have hOrdinary (hRound : wordEndsForward chars true (count + 1) i =
      wordEndsForward chars false (count + 1) i)
      (hPlace : currentWordEnd chars i = ModalEditor.nextWordEnd chars i) :
      wordEndsForward chars true (count + 1) i =
        .ok (ModalEditor.wordEndsForward chars count (currentWordEnd chars i)) := by
    rw [hRound, wordEndsForward_eq hSize _ h, wordEndsForward_eq_iterate, hPlace,
      wordEndsForward_eq_iterate, Function.iterate_succ_apply]
  cases hDrop : chars.drop i with
  | nil =>
      have hEnd := List.drop_eq_nil_iff.mp hDrop
      refine hOrdinary ?_ ?_
      · rw [wordEndsForward, wordEndsForward, decide_eq_false (by omega)]
        rfl
      · rw [currentWordEnd, hDrop, nextWordEnd_of_le (by omega)]
  | cons c rest =>
      have hLength := length_of_drop_eq_cons hDrop
      have hClass := classAt_eq (getElem?_of_drop_eq_cons hDrop)
      by_cases hBlank : CharClass.ofChar c = .blank
      · refine hOrdinary ?_ ?_
        · rw [wordEndsForward, wordEndsForward, decide_eq_true (by omega), hClass, hBlank]
          rfl
        · rw [currentWordEnd, hDrop]
          simp only [hBlank]
      · have hRun := runLength_le (CharClass.ofChar c) rest
        rw [wordEndsForward, decide_eq_true (by omega), Bool.true_and, if_pos rfl, hClass]
        dsimp only [pure_eq, ok_bind]
        rw [if_pos (bne_iff_ne.mpr hBlank), climb_precedesClass hSize _ h, ok_bind,
          drop_succ_of_drop_eq_cons hDrop, wordEndsForward_eq hSize _ (by omega),
          currentWordEnd_of_word hDrop hBlank]

end Forward

end Checked

end ModalEditor
