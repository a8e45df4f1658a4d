namespace ModalEditor

/-!
# Matches

A match of a search is the stretch of text it found.
-/

/-- The characters from offset `start` up to but not including `stop`. -/
structure Match where
  start : Nat
  stop : Nat
  deriving DecidableEq, Repr, Inhabited

namespace Match

/-- Number of characters of a match. -/
def length (found : Match) : Nat :=
  found.stop - found.start

/-- Whether a match holds no character. -/
def isEmpty (found : Match) : Bool :=
  found.start == found.stop

end Match

/-- The first match that starts after an offset, or else the first of all. -/
def Match.nextAfter (found : List Match) (offset : Nat) : Option Match :=
  (found.find? fun m => m.start > offset).or found.head?

/-- The last match that starts before an offset, or else the last of all. -/
def Match.previousBefore (found : List Match) (offset : Nat) : Option Match :=
  (found.reverse.find? fun m => m.start < offset).or found.getLast?

end ModalEditor
