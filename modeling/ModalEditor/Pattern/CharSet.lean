import ModalEditor.Text.Alphanumeric
import ModalEditor.Text.Blank
import ModalEditor.Text.LetterCase

namespace ModalEditor

/-!
# Sets of characters

The sets that a pattern can name: single characters and ranges, the classes of
Unicode, and what can be built from these.
-/

/-- A set of characters, as a pattern describes it. -/
inductive CharSet where
  | empty
  | range (first last : Char)
  /-- Alphabetic characters. -/
  | alphabetic
  | letter
  | uppercase
  | lowercase
  | decimalDigit
  /-- Characters that can be part of an identifier. -/
  | word
  | blank
  | complement (set : CharSet)
  | union (first second : CharSet)
  | intersection (first second : CharSet)
  /-- All characters of which some form, in upper or lower case, is in the
  set. -/
  | caseless (set : CharSet)
  deriving DecidableEq, Repr, Inhabited

namespace CharSet

/-- Whether a character is in the set. -/
def contains : CharSet → Char → Bool
  | .empty, _ => false
  | .range first last, c => first ≤ c && c ≤ last
  | .alphabetic, c => isAlphabetic c
  | .letter, c => isLetter c
  | .uppercase, c => isUppercase c
  | .lowercase, c => isLowercase c
  | .decimalDigit, c => isDecimalDigit c
  | .word, c => isIdentifierPart c
  | .blank, c => isBlank c
  | .complement set, c => !set.contains c
  | .union first second, c => first.contains c || second.contains c
  | .intersection first second, c => first.contains c && second.contains c
  | .caseless set, c => (caseVariants c).any set.contains

/-- The set of one character. -/
def single (c : Char) : CharSet := .range c c

/-- All characters. -/
def all : CharSet := .complement .empty

/-- The characters of the first set that are not in the second. -/
def difference (first second : CharSet) : CharSet :=
  .intersection first (.complement second)

/-- The characters that are in one of two sets but not in both. -/
def symmetricDifference (first second : CharSet) : CharSet :=
  .union (difference first second) (difference second first)

/-- The set, or the set without regard to case. -/
def caselessIf (ignoreCase : Bool) (set : CharSet) : CharSet :=
  if ignoreCase then .caseless set else set

/-- The set, or all characters that are not in it. -/
def complementIf (negated : Bool) (set : CharSet) : CharSet :=
  if negated then .complement set else set

end CharSet

end ModalEditor
