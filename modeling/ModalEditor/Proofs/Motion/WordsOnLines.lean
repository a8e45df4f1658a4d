import ModalEditor.Proofs.Motion.WordBoundary
import ModalEditor.Proofs.Text.Blank
import ModalEditor.Proofs.Text.LineCharacters

namespace ModalEditor

/-!
# Words on lines

Where words start and end is said of offsets.  Here it is said of lines: the first character
of a line that is not blank starts a word, an empty line is one, a line of blanks has none,
and the end of a line with characters neither starts nor ends one.
-/

variable {text : Text} {number : Nat} {p : Position}

/-- Before the start of a line there is nothing but a line feed. -/
theorem charBefore_lineStart (h : number < (splitLines text).length) :
    ∀ d ∈ charBefore text (lineStart (splitLines text) number), d = lineFeed := by
  intro d hBefore
  cases number with
  | zero =>
      have hStart : lineStart (splitLines text) 0 = 0 := by
        cases splitLines text <;> rfl
      rw [hStart] at hBefore
      cases hBefore
  | succ number =>
      have hFeed := getElem?_lineEnd h
      rw [lineStart_succ (by omega), charBefore_succ] at hBefore
      rw [joinLines_splitLines] at hFeed
      rw [hFeed] at hBefore
      exact (Option.some_inj.mp hBefore).symm

/-- On a line that is not all blank a word starts at the first character that is not, or is
the empty line itself. -/
theorem isWordStart_firstNonBlank (hNumber : number < (splitLines text).length)
    (hLine : ¬IsBlankLine (lineAt (splitLines text) number))
    (hEnd : lineAt (splitLines text) number = [] → number + 1 < (splitLines text).length) :
    IsWordStart text (lineStart (splitLines text) number +
      firstNonBlankColumn (lineAt (splitLines text) number)) := by
  have hBefore := charBefore_lineStart hNumber
  by_cases hEmpty : lineAt (splitLines text) number = []
  · have hFeed := getElem?_lineEnd (hEnd hEmpty)
    rw [joinLines_splitLines, lineLength, hEmpty, List.length_nil, Nat.add_zero] at hFeed
    rw [hEmpty, show firstNonBlankColumn [] = 0 from rfl, Nat.add_zero,
      isWordStart_iff hFeed, isEmptyLine_iff]
    exact Or.inr ⟨rfl, hBefore⟩
  · obtain ⟨c, hChar, hWord, hBlanks⟩ := exists_firstNonBlank hEmpty hLine
    have hInside := (List.getElem?_eq_some_iff.mp hChar).1
    have hText := getElem?_lineStart_add hInside
    rw [joinLines_splitLines, hChar] at hText
    have hClass : CharClass.ofChar c ≠ .blank := by simp [ofChar_eq_blank_iff, hWord]
    rw [isWordStart_iff_of_word hText hClass]
    intro d hPrevious
    suffices hBlank : CharClass.ofChar d = .blank by
      rw [hBlank]
      exact hClass.symm
    -- What comes before is the line feed of the line before, or a blank of the line.
    cases hColumn : firstNonBlankColumn (lineAt (splitLines text) number) with
    | zero =>
        rw [hColumn, Nat.add_zero] at hPrevious
        rw [hBefore d hPrevious]
        exact ofChar_lineFeed
    | succ column =>
        rw [hColumn] at hInside hBlanks hPrevious
        have hPlace := getElem?_lineStart_add (Nat.lt_of_succ_lt hInside)
        rw [joinLines_splitLines] at hPlace
        rw [← Nat.add_assoc, charBefore_succ, hPlace] at hPrevious
        exact ofChar_eq_blank_iff.mpr (hBlanks column (Nat.lt_succ_self column) d hPrevious)

/-- The end of a line that has characters comes after one that is no line feed, so neither an
empty line nor a word starts there. -/
theorem not_isWordStart_of_lineEnd (hIn : p.IsIn text)
    (hEnd : p.column = lineLength (splitLines text) p.line) (hColumn : 0 < p.column) :
    ¬IsWordStart text p.offset := by
  obtain ⟨hLine, -, hOffset⟩ := Position.isIn_iff.mp hIn
  have hLast : p.column - 1 < lineLength (splitLines text) p.line := by omega
  have hPlace := getElem?_lineStart_add hLast
  rw [joinLines_splitLines, List.getElem?_eq_getElem hLast] at hPlace
  rintro ⟨c, hChar, hStart⟩
  have hFeed := hIn.eq_lineFeed hEnd hChar
  rcases hStart with ⟨hWord, -⟩ | ⟨-, hBefore⟩
  · exact hWord (hFeed ▸ ofChar_lineFeed)
  · rw [show p.offset = lineStart (splitLines text) p.line + (p.column - 1) + 1 by omega,
      charBefore_succ, hPlace] at hBefore
    exact noFeed_lineAt text p.line (hBefore _ rfl ▸ List.getElem_mem hLast)

/-- Nor does a word end at the end of a line. -/
theorem not_isWordEnd_of_lineEnd (hIn : p.IsIn text)
    (hEnd : p.column = lineLength (splitLines text) p.line) : ¬IsWordEnd text p.offset := by
  rintro ⟨c, hChar, hWord, -⟩
  exact hWord (hIn.eq_lineFeed hEnd hChar ▸ ofChar_lineFeed)

/-- On a line of blanks no word starts. -/
theorem not_isWordStart_of_isBlankLine (hIn : p.IsIn text)
    (h : IsBlankLine (lineAt (splitLines text) p.line)) : ¬IsWordStart text p.offset := by
  obtain ⟨hSome, hBlank⟩ := h
  obtain ⟨hLine, hColumn, -⟩ := Position.isIn_iff.mp hIn
  rcases Nat.lt_or_ge p.column (lineLength (splitLines text) p.line) with hInside | hEnd
  · rintro ⟨c, hChar, hStart⟩
    rw [hIn.getElem?_eq hInside] at hChar
    have hMem := List.mem_of_getElem? hChar
    rcases hStart with ⟨hWord, -⟩ | ⟨rfl, -⟩
    · exact hWord (ofChar_eq_blank_iff.mpr (hBlank c hMem))
    · exact noFeed_lineAt text p.line hMem
  · have hLength : 0 < lineLength (splitLines text) p.line := List.length_pos_iff.mpr hSome
    exact not_isWordStart_of_lineEnd hIn (by omega) (by omega)

end ModalEditor
