import Mathlib.Order.Bounds.Basic
import ModalEditor.Motion.Word

namespace ModalEditor

/-!
# Word boundaries

The functions of `Motion.Word` scan runs of characters.  Here the boundaries are properties
of single offsets, which look at one neighbour only, and every scan is shown to find the
nearest offset with its property.  Scans forward are followed along the characters that
remain, scans backward along the number of characters before.  What motions make of the
scans is left to `Proofs.Motion.Words`.
-/

/-! ## Nearest offsets -/

/-- Whether a place is the first one after an offset with a property, or the default where
there is none. -/
def IsNextOr (p : Nat → Prop) (default offset place : Nat) : Prop :=
  IsLeast {i | offset < i ∧ p i} place ∨ (∀ i, offset < i → ¬p i) ∧ place = default

/-- Whether a place is the last one before a bound with a property, or the default where
there is none. -/
def IsPreviousOr (p : Nat → Prop) (default bound place : Nat) : Prop :=
  IsGreatest {i | i < bound ∧ p i} place ∨ (∀ i, i < bound → ¬p i) ∧ place = default

section Nearest

variable {p : Nat → Prop} {default offset bound place other : Nat}

theorem IsNextOr.here (h : p (offset + 1)) : IsNextOr p default offset (offset + 1) :=
  .inl ⟨⟨Nat.lt_succ_self offset, h⟩, fun _ hOther => hOther.1⟩

theorem IsNextOr.none (h : ∀ i, offset < i → ¬p i) : IsNextOr p default offset default :=
  .inr ⟨h, rfl⟩

/-- An offset without the property is passed over. -/
theorem IsNextOr.of_next (h : ¬p (offset + 1)) (hNext : IsNextOr p default (offset + 1) place) :
    IsNextOr p default offset place := by
  have hLater : ∀ i, offset < i → p i → offset + 1 < i := by
    intro i hAfter hHere
    have hOther : i ≠ offset + 1 := fun hSame => h (hSame ▸ hHere)
    omega
  rcases hNext with ⟨⟨hAfter, hHere⟩, hLeast⟩ | ⟨hAbsent, hDefault⟩
  · refine .inl ⟨⟨by omega, hHere⟩, ?_⟩
    rintro i ⟨hOffset, hOther⟩
    exact hLeast ⟨hLater i hOffset hOther, hOther⟩
  · exact .inr ⟨fun i hOffset hOther => hAbsent i (hLater i hOffset hOther) hOther, hDefault⟩

/-- A place that is found has the property, and one that is not is the default. -/
theorem IsNextOr.holds_or_eq (h : IsNextOr p default offset place) :
    p place ∨ place = default :=
  h.imp (fun hLeast => hLeast.1.2) (fun hAbsent => hAbsent.2)

/-- There is one nearest place. -/
theorem IsNextOr.unique (h : IsNextOr p default offset place)
    (hOther : IsNextOr p default offset other) : place = other := by
  rcases h with hLeast | ⟨hAbsent, hDefault⟩
  · rcases hOther with hSame | ⟨hNone, -⟩
    · exact hLeast.unique hSame
    · exact absurd hLeast.1.2 (hNone place hLeast.1.1)
  · rcases hOther with hFound | ⟨-, hSame⟩
    · exact absurd hFound.1.2 (hAbsent other hFound.1.1)
    · rw [hDefault, hSame]

theorem IsPreviousOr.here (h : p offset) : IsPreviousOr p default (offset + 1) offset :=
  .inl ⟨⟨Nat.lt_succ_self offset, h⟩, fun _ hOther => Nat.le_of_lt_succ hOther.1⟩

theorem IsPreviousOr.zero : IsPreviousOr p default 0 default :=
  .inr ⟨fun i hBefore => absurd hBefore (Nat.not_lt_zero i), rfl⟩

/-- An offset without the property is passed over. -/
theorem IsPreviousOr.of_before (h : ¬p bound) (hBefore : IsPreviousOr p default bound place) :
    IsPreviousOr p default (bound + 1) place := by
  have hEarlier : ∀ i, i < bound + 1 → p i → i < bound := by
    intro i hBound hHere
    have hOther : i ≠ bound := fun hSame => h (hSame ▸ hHere)
    omega
  rcases hBefore with ⟨⟨hLess, hHere⟩, hGreatest⟩ | ⟨hAbsent, hDefault⟩
  · refine .inl ⟨⟨by omega, hHere⟩, ?_⟩
    rintro i ⟨hBound, hOther⟩
    exact hGreatest ⟨hEarlier i hBound hOther, hOther⟩
  · exact .inr ⟨fun i hBound hOther => hAbsent i (hEarlier i hBound hOther) hOther, hDefault⟩

theorem IsPreviousOr.lt_or_eq (h : IsPreviousOr p default bound place) :
    place < bound ∨ place = default :=
  h.imp (fun hGreatest => hGreatest.1.1) (fun hAbsent => hAbsent.2)

theorem IsPreviousOr.holds_or_eq (h : IsPreviousOr p default bound place) :
    p place ∨ place = default :=
  h.imp (fun hGreatest => hGreatest.1.2) (fun hAbsent => hAbsent.2)

end Nearest

/-! ## Boundaries -/

/-- Whether a word starts at an offset: a character that is not blank after none of its
class, or an empty line. -/
def IsWordStart (text : Text) (offset : Nat) : Prop :=
  ∃ c ∈ text[offset]?,
    (CharClass.ofChar c ≠ .blank ∧
      ∀ d ∈ charBefore text offset, CharClass.ofChar d ≠ CharClass.ofChar c) ∨
    (c = lineFeed ∧ ∀ d ∈ charBefore text offset, d = lineFeed)

/-- Whether a word ends at an offset: a character that is not blank before none of its
class. -/
def IsWordEnd (text : Text) (offset : Nat) : Prop :=
  ∃ c ∈ text[offset]?, CharClass.ofChar c ≠ .blank ∧
    ∀ d ∈ text[offset + 1]?, CharClass.ofChar d ≠ CharClass.ofChar c

section Boundaries

variable {text rest : Text} {offset : Nat} {c : Char}

theorem ofChar_eq_blank_iff : CharClass.ofChar c = .blank ↔ isBlank c = true := by
  rw [CharClass.ofChar]
  split
  · simp_all
  · split <;> simp_all

theorem ofChar_lineFeed : CharClass.ofChar lineFeed = .blank := by decide

/-- A character that is not blank is no line feed. -/
theorem ne_lineFeed_of_ofChar_ne (h : CharClass.ofChar c ≠ .blank) : c ≠ lineFeed := by
  rintro rfl
  exact h ofChar_lineFeed

theorem isEmptyLine_iff {previous : Option Char} :
    isEmptyLine previous c = true ↔ c = lineFeed ∧ ∀ d ∈ previous, d = lineFeed := by
  cases previous <;> simp [isEmptyLine]

theorem getElem?_of_drop_eq_cons (h : text.drop offset = c :: rest) :
    text[offset]? = some c := by
  rw [← List.head?_drop, h, List.head?_cons]

theorem drop_succ_of_drop_eq_cons (h : text.drop offset = c :: rest) :
    text.drop (offset + 1) = rest := by
  rw [← List.tail_drop, h, List.tail_cons]

theorem length_of_drop_eq_cons (h : text.drop offset = c :: rest) :
    text.length = offset + 1 + rest.length := by
  have hLength := congrArg List.length h
  rw [List.length_drop, List.length_cons] at hLength
  omega

@[simp]
theorem charBefore_succ (text : Text) (offset : Nat) :
    charBefore text (offset + 1) = text[offset]? := by
  simp [charBefore]

theorem charBefore_of_drop_eq_cons (h : text.drop offset = c :: rest) :
    charBefore text (offset + 1) = some c := by
  rw [charBefore_succ, getElem?_of_drop_eq_cons h]

theorem IsWordStart.lt_length (h : IsWordStart text offset) : offset < text.length := by
  obtain ⟨c, hChar, -⟩ := h
  exact (List.getElem?_eq_some_iff.mp hChar).1

theorem IsWordEnd.lt_length (h : IsWordEnd text offset) : offset < text.length := by
  obtain ⟨c, hChar, -⟩ := h
  exact (List.getElem?_eq_some_iff.mp hChar).1

/-- Where a word starts depends on a character and the one before. -/
theorem isWordStart_iff (hChar : text[offset]? = some c) :
    IsWordStart text offset ↔
      (CharClass.ofChar c ≠ .blank ∧
        ∀ d ∈ charBefore text offset, CharClass.ofChar d ≠ CharClass.ofChar c) ∨
      isEmptyLine (charBefore text offset) c = true := by
  rw [isEmptyLine_iff]
  simp [IsWordStart, hChar]

/-- At a blank only an empty line starts. -/
theorem isWordStart_iff_of_blank (hChar : text[offset]? = some c)
    (hBlank : CharClass.ofChar c = .blank) :
    IsWordStart text offset ↔ isEmptyLine (charBefore text offset) c = true := by
  simp [isWordStart_iff hChar, hBlank]

/-- Inside a run of one class no word starts, and at its front one does. -/
theorem isWordStart_iff_of_word (hChar : text[offset]? = some c)
    (hWord : CharClass.ofChar c ≠ .blank) :
    IsWordStart text offset ↔
      ∀ d ∈ charBefore text offset, CharClass.ofChar d ≠ CharClass.ofChar c := by
  have hFeed : isEmptyLine (charBefore text offset) c = false := by
    simp [isEmptyLine, ne_lineFeed_of_ofChar_ne hWord]
  simp [isWordStart_iff hChar, hWord, hFeed]

theorem reverse_take_succ (h : text[offset]? = some c) :
    (text.take (offset + 1)).reverse = c :: (text.take offset).reverse := by
  rw [List.take_add_one, h]
  simp

theorem head?_reverse_take (h : offset ≤ text.length) :
    (text.take offset).reverse.head? = charBefore text offset := by
  cases offset with
  | zero => rfl
  | succ offset =>
      have hChar := List.getElem?_eq_getElem (show offset < text.length from h)
      rw [charBefore_succ, hChar, reverse_take_succ hChar, List.head?_cons]

/-- Blanks are passed over up to an empty line. -/
theorem blanksLength_cons_of_blank (h : CharClass.ofChar c = .blank) {previous : Option Char}
    (hFeed : isEmptyLine previous c = false) (rest : Text) :
    blanksLength previous (c :: rest) = 1 + blanksLength (some c) rest := by
  simp [blanksLength, ofChar_eq_blank_iff.mp h, hFeed]

theorem blanksLength_cons_of_word (h : CharClass.ofChar c ≠ .blank) (previous : Option Char)
    (rest : Text) : blanksLength previous (c :: rest) = 0 := by
  simp [blanksLength, ← ofChar_eq_blank_iff, h]

theorem blanksLength_cons_of_isEmptyLine {previous : Option Char}
    (h : isEmptyLine previous c = true) (rest : Text) :
    blanksLength previous (c :: rest) = 0 := by
  simp [blanksLength, h]

theorem runLength_cons_of_eq {cls : CharClass} (h : CharClass.ofChar c = cls) (rest : Text) :
    runLength cls (c :: rest) = runLength cls rest + 1 := by
  simp [runLength, h]

theorem runLength_cons_of_ne {cls : CharClass} (h : CharClass.ofChar c ≠ cls) (rest : Text) :
    runLength cls (c :: rest) = 0 := by
  simp [runLength, h]

end Boundaries

/-! ## The scans -/

section Scans

variable {text rest : Text} {offset : Nat} {c : Char}

/-- After the last character no word starts. -/
theorem isNextOr_length (h : text.length ≤ offset + 1) :
    IsNextOr (IsWordStart text) text.length offset text.length := by
  refine .none fun i hAfter hStart => ?_
  have hInside := hStart.lt_length
  omega

/-- A blank that starts no empty line is passed over. -/
theorem IsNextOr.of_blank {place : Nat} (hChar : text[offset + 1]? = some c)
    (hBlank : CharClass.ofChar c = .blank)
    (hFeed : isEmptyLine (charBefore text (offset + 1)) c = false)
    (hNext : IsNextOr (IsWordStart text) text.length (offset + 1) place) :
    IsNextOr (IsWordStart text) text.length offset place := by
  refine .of_next ?_ hNext
  rw [isWordStart_iff_of_blank hChar hBlank, hFeed]
  exact Bool.false_ne_true

/-- From a blank the next word starts after the blanks. -/
theorem isNextOr_blanksLength (h : text.drop offset = c :: rest)
    (hBlank : CharClass.ofChar c = .blank) :
    IsNextOr (IsWordStart text) text.length offset
      (offset + 1 + blanksLength (some c) rest) := by
  induction rest generalizing c offset with
  | nil =>
      have hLength : text.length = offset + 1 := length_of_drop_eq_cons h
      rw [blanksLength, Nat.add_zero, ← hLength]
      exact isNextOr_length hLength.le
  | cons d rest ih =>
      have hRest := drop_succ_of_drop_eq_cons h
      have hChar := getElem?_of_drop_eq_cons hRest
      have hBefore := charBefore_of_drop_eq_cons h
      by_cases hNextBlank : CharClass.ofChar d = .blank
      · cases hFeed : isEmptyLine (some c) d with
        | false =>
            rw [blanksLength_cons_of_blank hNextBlank hFeed, ← Nat.add_assoc]
            exact .of_blank hChar hNextBlank (hBefore ▸ hFeed) (ih hRest hNextBlank)
        | true =>
            -- The scan stops in front of an empty line, which is a word of its own.
            rw [blanksLength_cons_of_isEmptyLine hFeed]
            exact .here ((isWordStart_iff_of_blank hChar hNextBlank).mpr (hBefore ▸ hFeed))
      · rw [blanksLength_cons_of_word hNextBlank]
        refine .here ((isWordStart_iff_of_word hChar hNextBlank).mpr ?_)
        rw [hBefore]
        rintro _ ⟨⟩
        rw [hBlank]
        exact Ne.symm hNextBlank

/-- From the last character of a run the next word starts after the blanks behind it.  What
the scan of the blanks takes to come before them only has to be no line feed. -/
theorem isNextOr_after_run (h : text.drop offset = c :: rest)
    (hWord : CharClass.ofChar c ≠ .blank)
    (hLast : ∀ d ∈ rest.head?, CharClass.ofChar d ≠ CharClass.ofChar c) {b : Char}
    (hPrevious : b ≠ lineFeed) :
    IsNextOr (IsWordStart text) text.length offset
      (offset + 1 + blanksLength (some b) rest) := by
  cases rest with
  | nil =>
      have hLength : text.length = offset + 1 := length_of_drop_eq_cons h
      rw [blanksLength, Nat.add_zero, ← hLength]
      exact isNextOr_length hLength.le
  | cons d rest =>
      have hRest := drop_succ_of_drop_eq_cons h
      have hChar := getElem?_of_drop_eq_cons hRest
      have hBefore := charBefore_of_drop_eq_cons h
      by_cases hBlank : CharClass.ofChar d = .blank
      · -- A line feed right after the run ends a line that is not empty.
        have hFeed {previous : Char} (hNoFeed : previous ≠ lineFeed) :
            isEmptyLine (some previous) d = false := by
          simp [isEmptyLine, hNoFeed]
        rw [blanksLength_cons_of_blank hBlank (hFeed hPrevious), ← Nat.add_assoc]
        exact .of_blank hChar hBlank (hBefore ▸ hFeed (ne_lineFeed_of_ofChar_ne hWord))
          (isNextOr_blanksLength hRest hBlank)
      · rw [blanksLength_cons_of_word hBlank]
        refine .here ((isWordStart_iff_of_word hChar hBlank).mpr ?_)
        rw [hBefore]
        rintro _ ⟨⟩
        exact Ne.symm (hLast d rfl)

/-- From inside a run the next word starts after the run and the blanks behind it. -/
theorem isNextOr_runLength (h : text.drop offset = c :: rest)
    (hWord : CharClass.ofChar c ≠ .blank) {b : Char} (hPrevious : b ≠ lineFeed) :
    IsNextOr (IsWordStart text) text.length offset
      (offset + 1 + (runLength (CharClass.ofChar c) rest +
        blanksLength (some b) (rest.drop (runLength (CharClass.ofChar c) rest)))) := by
  induction rest generalizing c offset with
  | nil =>
      simp only [runLength, List.takeWhile_nil, List.length_nil, List.drop_nil, Nat.zero_add]
      exact isNextOr_after_run h hWord (by rintro d ⟨⟩) hPrevious
  | cons d rest ih =>
      have hRest := drop_succ_of_drop_eq_cons h
      by_cases hSame : CharClass.ofChar d = CharClass.ofChar c
      · have hNo : ¬IsWordStart text (offset + 1) := by
          rw [isWordStart_iff_of_word (getElem?_of_drop_eq_cons hRest) (hSame ▸ hWord),
            charBefore_of_drop_eq_cons h]
          exact fun hOther => hOther c rfl hSame.symm
        have hNext := ih hRest (hSame ▸ hWord)
        rw [hSame] at hNext
        rw [runLength_cons_of_eq hSame, List.drop_succ_cons]
        generalize runLength (CharClass.ofChar c) rest = run at hNext ⊢
        rw [show offset + 1 + (run + 1 + blanksLength (some b) (rest.drop run)) =
          offset + 1 + 1 + (run + blanksLength (some b) (rest.drop run)) by omega]
        exact .of_next hNo hNext
      · rw [runLength_cons_of_ne hSame, Nat.zero_add, List.drop_zero]
        refine isNextOr_after_run h hWord ?_ hPrevious
        rintro _ ⟨⟩
        exact hSame

/-- The scan forward finds the next word start, or the end of the text. -/
theorem isNextOr_nextWordStart (h : offset ≤ text.length) :
    IsNextOr (IsWordStart text) text.length offset (nextWordStart text offset) := by
  rw [nextWordStart]
  cases hDrop : text.drop offset with
  | nil =>
      have hEnd : text.length ≤ offset := List.drop_eq_nil_iff.mp hDrop
      rw [toNextWord, show offset + 0 = text.length by omega]
      exact isNextOr_length (by omega)
  | cons c rest =>
      by_cases hBlank : CharClass.ofChar c = .blank
      · have hScan : toNextWord (charBefore text offset) (c :: rest) =
            1 + blanksLength (some c) rest := by
          simp only [toNextWord, hBlank]
          split
          · rfl
          · rename_i hFeed
            exact blanksLength_cons_of_blank hBlank (Bool.eq_false_of_not_eq_true hFeed) rest
        rw [hScan, ← Nat.add_assoc]
        exact isNextOr_blanksLength hDrop hBlank
      · have hScan : toNextWord (charBefore text offset) (c :: rest) =
            1 + (runLength (CharClass.ofChar c) rest +
              blanksLength (some c) (rest.drop (runLength (CharClass.ofChar c) rest))) := by
          rw [toNextWord]
          split
          · rename_i hClass
            exact absurd hClass hBlank
          · simp only [runLength_cons_of_eq rfl, List.drop_succ_cons]
            omega
        rw [hScan, ← Nat.add_assoc]
        exact isNextOr_runLength hDrop hBlank (ne_lineFeed_of_ofChar_ne hBlank)

/-- From inside a run the word before starts at the front of the run. -/
theorem isPreviousOr_runLength (hChar : text[offset]? = some c)
    (hWord : CharClass.ofChar c ≠ .blank) :
    IsPreviousOr (IsWordStart text) 0 (offset + 1)
      (offset - runLength (CharClass.ofChar c) (text.take offset).reverse) := by
  induction offset generalizing c with
  | zero =>
      refine .here ((isWordStart_iff_of_word hChar hWord).mpr ?_)
      rintro d ⟨⟩
  | succ offset ih =>
      have hInside := (List.getElem?_eq_some_iff.mp hChar).1
      obtain ⟨d, hBefore⟩ : ∃ d, text[offset]? = some d :=
        ⟨_, List.getElem?_eq_getElem (by omega)⟩
      rw [reverse_take_succ hBefore]
      by_cases hSame : CharClass.ofChar d = CharClass.ofChar c
      · have hNo : ¬IsWordStart text (offset + 1) := by
          rw [isWordStart_iff_of_word hChar hWord, charBefore_succ, hBefore]
          exact fun hOther => hOther d rfl hSame
        have hFront := ih hBefore (hSame ▸ hWord)
        rw [hSame] at hFront
        rw [runLength_cons_of_eq hSame, Nat.add_sub_add_right]
        exact .of_before hNo hFront
      · rw [runLength_cons_of_ne hSame]
        refine .here ((isWordStart_iff_of_word hChar hWord).mpr ?_)
        rw [charBefore_succ, hBefore]
        rintro _ ⟨⟩
        exact hSame

/-- The scan back finds the word start before, or the start of the text. -/
theorem isPreviousOr_previousWordStart (h : offset ≤ text.length) :
    IsPreviousOr (IsWordStart text) 0 offset (previousWordStart text offset) := by
  rw [previousWordStart]
  induction offset with
  | zero => exact .zero
  | succ offset ih =>
      obtain ⟨c, hChar⟩ : ∃ c, text[offset]? = some c :=
        ⟨_, List.getElem?_eq_getElem (by omega)⟩
      have hLength : (text.take offset).reverse.length = offset := by
        rw [List.length_reverse, List.length_take]
        omega
      rw [reverse_take_succ hChar, beforeLastWord]
      split
      · rename_i hBlank
        rw [head?_reverse_take (by omega), hLength]
        split
        · rename_i hFeed
          exact .here ((isWordStart_iff_of_blank hChar hBlank).mpr hFeed)
        · rename_i hFeed
          exact .of_before (fun hStart => hFeed ((isWordStart_iff_of_blank hChar hBlank).mp hStart))
            (ih (by omega))
      · rename_i hWord
        rw [hLength]
        exact isPreviousOr_runLength hChar hWord

/-- From inside a word its end is that of the run. -/
theorem isNextOr_wordEnd_of_word (h : text.drop (offset + 1) = c :: rest)
    (hWord : CharClass.ofChar c ≠ .blank) (default : Nat) :
    IsNextOr (IsWordEnd text) default offset
      (offset + 1 + runLength (CharClass.ofChar c) rest) := by
  induction rest generalizing c offset with
  | nil =>
      refine .here ⟨c, getElem?_of_drop_eq_cons h, hWord, ?_⟩
      rw [← List.head?_drop, drop_succ_of_drop_eq_cons h]
      rintro d ⟨⟩
  | cons d rest ih =>
      have hRest := drop_succ_of_drop_eq_cons h
      have hNext := getElem?_of_drop_eq_cons hRest
      by_cases hSame : CharClass.ofChar d = CharClass.ofChar c
      · have hNo : ¬IsWordEnd text (offset + 1) := by
          simp [IsWordEnd, getElem?_of_drop_eq_cons h, hNext, hSame]
        have hEnd := ih hRest (hSame ▸ hWord)
        rw [hSame] at hEnd
        rw [runLength_cons_of_eq hSame, Nat.add_comm (runLength _ rest), ← Nat.add_assoc]
        exact .of_next hNo hEnd
      · rw [runLength_cons_of_ne hSame]
        refine .here ⟨c, getElem?_of_drop_eq_cons h, hWord, ?_⟩
        rw [hNext]
        rintro _ ⟨⟩
        exact hSame

/-- From the character after an offset the scan finds the next word end, or the last
character. -/
theorem isNextOr_toWordEnd (h : text.drop (offset + 1) = c :: rest) :
    IsNextOr (IsWordEnd text) (text.length - 1) offset
      (offset + 1 + toWordEnd (c :: rest)) := by
  induction rest generalizing c offset with
  | nil =>
      rw [toWordEnd]
      split
      · rename_i hBlank
        have hLength : text.length = offset + 1 + 1 := length_of_drop_eq_cons h
        have hNo : ∀ i, offset < i → ¬IsWordEnd text i := by
          intro i hAfter hEnd
          have hInside := hEnd.lt_length
          obtain rfl : i = offset + 1 := by omega
          obtain ⟨d, hChar, hWord, -⟩ := hEnd
          rw [getElem?_of_drop_eq_cons h] at hChar
          cases hChar
          exact hWord hBlank
        rw [show offset + 1 + (if ([] : Text).isEmpty then 0 else 1 + toWordEnd []) =
          text.length - 1 by rw [hLength]; rfl]
        exact .none hNo
      · rename_i hWord
        exact isNextOr_wordEnd_of_word h hWord _
  | cons d rest ih =>
      rw [toWordEnd]
      split
      · rename_i hBlank
        have hNo : ¬IsWordEnd text (offset + 1) := by
          simp [IsWordEnd, getElem?_of_drop_eq_cons h, hBlank]
        rw [List.isEmpty_cons, if_neg Bool.false_ne_true, ← Nat.add_assoc]
        exact .of_next hNo (ih (drop_succ_of_drop_eq_cons h))
      · rename_i hWord
        exact isNextOr_wordEnd_of_word h hWord _

/-- The scan for a word end finds the next one, or the last character, and does not go
back to it. -/
theorem isNextOr_nextWordEnd (text : Text) (offset : Nat) :
    IsNextOr (IsWordEnd text) (max offset (text.length - 1)) offset
      (nextWordEnd text offset) := by
  rw [nextWordEnd]
  cases hDrop : text.drop (offset + 1) with
  | nil =>
      have hEnd : text.length ≤ offset + 1 := List.drop_eq_nil_iff.mp hDrop
      have hStay : offset = max offset (text.length - 1) := by omega
      have hNo : ∀ i, offset < i → ¬IsWordEnd text i := by
        intro i hAfter hWord
        have hInside := hWord.lt_length
        omega
      exact .inr ⟨hNo, hStay⟩
  | cons c rest =>
      have hLength := length_of_drop_eq_cons hDrop
      rw [show max offset (text.length - 1) = text.length - 1 by omega]
      exact isNextOr_toWordEnd hDrop

end Scans

end ModalEditor
