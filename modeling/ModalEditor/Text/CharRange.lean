namespace ModalEditor

/-!
# Ranges of characters

Properties of characters are given as sorted lists of ranges of code points.
A range has a stride, since in many scripts every second character is the
capital of the next one.
-/

/-- The code points `first`, `first + stride`, ... up to `last`. -/
structure CharRange where
  first : Nat
  last : Nat
  stride : Nat
  deriving DecidableEq, Repr, Inhabited

namespace CharRange

/-- Whether a code point is one of the range. -/
def holds (range : CharRange) (code : Nat) : Bool :=
  range.first ≤ code && code ≤ range.last && (code - range.first) % range.stride == 0

/-- Whether a code point is in a list of ranges sorted by their first code
points.  The search stops at the first range that starts beyond it. -/
def anyHolds : List CharRange → Nat → Bool
  | [], _ => false
  | range :: ranges, code =>
      if code < range.first then false
      else range.holds code || anyHolds ranges code

end CharRange

end ModalEditor
