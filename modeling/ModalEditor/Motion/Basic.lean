import ModalEditor.Search.Match
import ModalEditor.Viewport

namespace ModalEditor

/-!
# Motions

A motion names a way to get from the cursor to another place.  Whether it is
linewise or inclusive depends on the motion alone:

* `j k gg G H M L` and the doubled operator pass over whole lines,
* `e` and `$` include the character they land on,
* all others stop before it.
-/

/-- A motion. -/
inductive Motion where
  | left
  | right
  | down
  | up
  | wordForward
  | wordBackward
  | wordEnd
  | lineStart
  | firstNonBlank
  | lineEnd
  | fileStart
  | fileEnd
  | screenTop
  | screenMiddle
  | screenBottom
  /-- The lines from the cursor on, as many as the count says. -/
  | currentLine
  | nextMatch
  | previousMatch
  deriving DecidableEq, Repr, Inhabited

namespace Motion

/-- The motion that a key stands for. -/
def ofKey? : Char → Option Motion
  | 'h' => some .left
  | 'l' | ' ' => some .right
  | 'j' => some .down
  | 'k' => some .up
  | 'w' => some .wordForward
  | 'b' => some .wordBackward
  | 'e' => some .wordEnd
  | '0' => some .lineStart
  | '^' => some .firstNonBlank
  | '$' => some .lineEnd
  | 'G' => some .fileEnd
  | 'H' => some .screenTop
  | 'M' => some .screenMiddle
  | 'L' => some .screenBottom
  | 'n' => some .nextMatch
  | 'N' => some .previousMatch
  | _ => none

/-- Whether the motion passes over whole lines. -/
def isLinewise : Motion → Bool
  | .down | .up | .fileStart | .fileEnd | .screenTop | .screenMiddle | .screenBottom
  | .currentLine => true
  | _ => false

/-- Whether the motion includes the character it lands on. -/
def isInclusive : Motion → Bool
  | .wordEnd | .lineEnd => true
  | _ => false

/-- Whether the motion keeps to the column the cursor came from. -/
def isVertical : Motion → Bool
  | .down | .up => true
  | _ => false

end Motion

/-- How often to do something, and whether that was typed or is the
default. -/
structure Count where
  value : Nat
  typed : Bool
  deriving DecidableEq, Repr, Inhabited

namespace Count

/-- Once, with no count typed. -/
def once : Count := ⟨1, false⟩

end Count

/-- The column that vertical motions try to keep to. -/
inductive GoalColumn where
  | column (n : Nat)
  /-- The end of every line, however long. -/
  | lineEnd
  deriving DecidableEq, Repr

/-- What is visible and what a search found, which some motions go by. -/
structure Surroundings where
  screen : Option Geometry
  found : List Match
  deriving DecidableEq, Repr, Inhabited

namespace Surroundings

/-- Nothing is known to be visible and nothing was searched for. -/
def unknown : Surroundings := ⟨none, []⟩

end Surroundings

end ModalEditor
