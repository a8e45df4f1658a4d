import ModalEditor.Text.Alphanumeric
import ModalEditor.Text.Blank

namespace ModalEditor

/-!
# Words

A word is a longest run of letters, digits and low lines, or a longest run of
other characters that are not blank.  An empty line also counts as a word.
The functions here find, from an offset, the offsets at which words start and
end; the end of the text stands in for a word that is not there.
-/

/-- The classes of characters that words are made of. -/
inductive CharClass where
  | blank
  | word
  | punctuation
  deriving DecidableEq, Repr

/-- The class of a character. -/
def CharClass.ofChar (c : Char) : CharClass :=
  if isBlank c then .blank
  else if isAlphanumeric c || c == '_' then .word
  else .punctuation

/-- Number of characters of one class that a text starts with. -/
def runLength (cls : CharClass) (text : Text) : Nat :=
  (text.takeWhile fun c => CharClass.ofChar c == cls).length

/-- Whether a character that comes after `previous` is an empty line: a line
feed that is the first character or comes after another line feed. -/
def isEmptyLine (previous : Option Char) (c : Char) : Bool :=
  c == lineFeed && previous.all (· == lineFeed)

/-- Number of blanks that a text starts with, up to the first empty line. -/
def blanksLength (previous : Option Char) : Text → Nat
  | [] => 0
  | c :: rest =>
      if isBlank c && !isEmptyLine previous c then 1 + blanksLength (some c) rest else 0

/-- The character before an offset. -/
def charBefore (text : Text) (offset : Nat) : Option Char :=
  if offset = 0 then none else text[offset - 1]?

/-- Number of characters from the start of a text, which comes after
`previous`, to the next word. -/
def toNextWord (previous : Option Char) : Text → Nat
  | [] => 0
  | c :: rest =>
      match CharClass.ofChar c with
      | .blank =>
          if isEmptyLine previous c then 1 + blanksLength (some c) rest
          else blanksLength previous (c :: rest)
      | cls =>
          let run := runLength cls (c :: rest)
          run + blanksLength (some c) ((c :: rest).drop run)

/-- Where the next word starts. -/
def nextWordStart (text : Text) (offset : Nat) : Nat :=
  offset + toNextWord (charBefore text offset) (text.drop offset)

/-- Length of what remains of a text, given backwards, before its last word. -/
def beforeLastWord : Text → Nat
  | [] => 0
  | c :: before =>
      match CharClass.ofChar c with
      | .blank => if isEmptyLine before.head? c then before.length else beforeLastWord before
      | cls => before.length - runLength cls before

/-- Where the word before an offset starts. -/
def previousWordStart (text : Text) (offset : Nat) : Nat :=
  beforeLastWord (text.take offset).reverse

/-- Distance from the first character of a text to the last character of the
first word in it.  In a text of blanks that is its last character. -/
def toWordEnd : Text → Nat
  | [] => 0
  | c :: rest =>
      match CharClass.ofChar c with
      | .blank => if rest.isEmpty then 0 else 1 + toWordEnd rest
      | cls => runLength cls rest

/-- Where the next word ends, looking from the character after an offset. -/
def nextWordEnd (text : Text) (offset : Nat) : Nat :=
  match text.drop (offset + 1) with
  | [] => offset
  | rest => offset + 1 + toWordEnd rest

/-- Where the word at an offset ends.  From a blank that is where the next one
does. -/
def currentWordEnd (text : Text) (offset : Nat) : Nat :=
  match text.drop offset with
  | [] => offset
  | c :: rest =>
      match CharClass.ofChar c with
      | .blank => nextWordEnd text offset
      | cls => offset + runLength cls rest

/-- Does a step a number of times, or until there is nowhere left to go. -/
def stepUntil (done : Nat → Bool) (step : Nat → Nat) : Nat → Nat → Nat
  | 0, offset => offset
  | count + 1, offset =>
      if done offset then offset else stepUntil done step count (step offset)

/-- The start of the word that is `count` words on. -/
def wordsForward (text : Text) (count offset : Nat) : Nat :=
  stepUntil (fun offset => text.length ≤ offset) (nextWordStart text) count offset

/-- The start of the word that is `count` words back. -/
def wordsBackward (text : Text) (count offset : Nat) : Nat :=
  stepUntil (fun offset => offset == 0) (previousWordStart text) count offset

/-- The end of the word that is `count` word ends on. -/
def wordEndsForward (text : Text) (count offset : Nat) : Nat :=
  stepUntil (fun offset => text.length ≤ offset + 1) (nextWordEnd text) count offset

end ModalEditor
