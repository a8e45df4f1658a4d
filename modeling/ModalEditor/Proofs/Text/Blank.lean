import ModalEditor.Text.Basic
import ModalEditor.Text.Blank

namespace ModalEditor

/-!
# The first character of a line that is not blank

It comes after blanks only.  A line that has none is empty or a line of blanks, and its
first column stands in for it.
-/

/-- Whether a line has characters and all of them are blank. -/
def IsBlankLine (line : Text) : Prop :=
  line ≠ [] ∧ ∀ c ∈ line, isBlank c = true

instance (line : Text) : Decidable (IsBlankLine line) :=
  inferInstanceAs (Decidable (_ ∧ _))

variable {text : Text} {column : Nat} {c : Char}

/-- A line has no characters, or the first that is not blank is one of them. -/
theorem firstNonBlankColumn_lt (line : Text) :
    firstNonBlankColumn line = 0 ∨ firstNonBlankColumn line < line.length := by
  rw [firstNonBlankColumn]
  cases hFind : line.findIdx? fun c => !isBlank c with
  | none => exact Or.inl rfl
  | some column =>
      obtain ⟨hColumn, -⟩ := List.findIdx?_eq_some_iff_getElem.mp hFind
      exact Or.inr hColumn

/-- No character that is not blank comes before the first one. -/
theorem firstNonBlankColumn_le (h : text[column]? = some c) (hWord : isBlank c = false) :
    firstNonBlankColumn text ≤ column := by
  obtain ⟨hColumn, hChar⟩ := List.getElem?_eq_some_iff.mp h
  rw [firstNonBlankColumn]
  cases hFind : text.findIdx? fun c => !isBlank c with
  | none => exact Nat.zero_le _
  | some first =>
      obtain ⟨hFirst, -, hBefore⟩ := List.findIdx?_eq_some_iff_getElem.mp hFind
      refine Nat.le_of_not_lt fun hLess => ?_
      have hBlank := hBefore column hLess
      simp [hChar, hWord] at hBlank

/-- In a line of blanks the first column stands in for it. -/
theorem IsBlankLine.firstNonBlankColumn_eq (h : IsBlankLine text) :
    firstNonBlankColumn text = 0 := by
  have hNone : text.findIdx? (fun c => !isBlank c) = none := by
    rw [List.findIdx?_eq_none_iff]
    intro c hChar
    simp [h.2 c hChar]
  rw [firstNonBlankColumn, hNone, Option.getD_none]

/-- In a line that is neither empty nor all blank, it comes after blanks only. -/
theorem exists_firstNonBlank (hSome : text ≠ []) (h : ¬IsBlankLine text) :
    ∃ c, text[firstNonBlankColumn text]? = some c ∧ isBlank c = false ∧
      ∀ column < firstNonBlankColumn text, ∀ d ∈ text[column]?, isBlank d = true := by
  rw [firstNonBlankColumn]
  cases hFind : text.findIdx? fun c => !isBlank c with
  | none =>
      refine absurd ⟨hSome, fun c hChar => ?_⟩ h
      simpa using List.findIdx?_eq_none_iff.mp hFind c hChar
  | some first =>
      obtain ⟨hFirst, hWord, hBefore⟩ := List.findIdx?_eq_some_iff_getElem.mp hFind
      refine ⟨text[first], by simp, by simpa using hWord, ?_⟩
      intro column hColumn d hChar
      obtain ⟨hInside, rfl⟩ := List.getElem?_eq_some_iff.mp hChar
      simpa using hBefore column hColumn

end ModalEditor
