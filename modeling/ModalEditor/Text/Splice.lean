import ModalEditor.Text.Difference

namespace ModalEditor

/-!
# Splices

A splice replaces one stretch of a text by another.  It names the place by a
byte offset and carries the text it expects there, so it applies only to a text
that holds that, and its inverse undoes it.
-/

/-- Replace `deleted`, found at byte `position`, by `inserted`. -/
structure Splice where
  position : Nat
  deleted : Text
  inserted : Text
  deriving DecidableEq, Repr, Inhabited

/-- Cuts a text after a number of bytes, if a character ends there. -/
def splitAtByte? : Text → Nat → Option (Text × Text)
  | text, 0 => some ([], text)
  | [], _ + 1 => none
  | c :: rest, bytes + 1 =>
      if bytes + 1 < c.utf8Size then none
      else
        (splitAtByte? rest (bytes + 1 - c.utf8Size)).map fun (before, after) =>
          (c :: before, after)

namespace Splice

/-- The splice that turns one text into another, none when they are equal. -/
def between (old new : Text) : Option Splice :=
  if old = new then none
  else
    let difference := Difference.between old new
    some ⟨byteLength difference.head, difference.removed, difference.added⟩

/-- The splice that takes another one back. -/
def inverse (splice : Splice) : Splice :=
  ⟨splice.position, splice.inserted, splice.deleted⟩

/-- Applies a splice.  There is no result when the text does not hold the
deleted text at the position. -/
def apply (splice : Splice) (text : Text) : Option Text :=
  match splitAtByte? text splice.position with
  | none => none
  | some (before, after) =>
      if splice.deleted.isPrefixOf after then
        some (before ++ splice.inserted ++ after.drop splice.deleted.length)
      else none

/-- Applies splices in order, stopping at the first that does not fit. -/
def applyAll (text : Text) : List Splice → Option Text
  | [] => some text
  | splice :: splices => (splice.apply text).bind fun next => applyAll next splices

end Splice

end ModalEditor
