import ModalEditor.Text.Basic
import ModalEditor.Text.CharRange

namespace ModalEditor

/-!
# Blank characters

Blanks separate words, indent lines and are trimmed from commands.  They are
the characters of the property White_Space, line feed included.
-/

/-- The characters with the property White_Space. -/
def blankRanges : List CharRange :=
  [⟨0x9, 0xD, 1⟩, ⟨0x20, 0x20, 1⟩, ⟨0x85, 0x85, 1⟩, ⟨0xA0, 0xA0, 1⟩, ⟨0x1680, 0x1680, 1⟩,
    ⟨0x2000, 0x200A, 1⟩, ⟨0x2028, 0x2029, 1⟩, ⟨0x202F, 0x202F, 1⟩, ⟨0x205F, 0x205F, 1⟩,
    ⟨0x3000, 0x3000, 1⟩]

/-- Whether a character is blank. -/
def isBlank (c : Char) : Bool :=
  CharRange.anyHolds blankRanges c.toNat

/-- Removes the blanks at both ends. -/
def trimBlanks (text : Text) : Text :=
  ((text.dropWhile isBlank).reverse.dropWhile isBlank).reverse

/-- Column of the first character of a line that is not blank, zero when all
are. -/
def firstNonBlankColumn (line : Text) : Nat :=
  (line.findIdx? fun c => !isBlank c).getD 0

end ModalEditor
