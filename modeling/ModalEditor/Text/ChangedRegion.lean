import ModalEditor.Text.Difference
import ModalEditor.Text.Position

namespace ModalEditor

/-!
# The changed region between two versions of a text

An incremental parser is told which bytes of the old text were replaced and
where the replacement ends in the new one.  Offsets count bytes and so do the
columns of the points.
-/

/-- The bytes from `start` to `oldEnd` of the old text became the bytes from
`start` to `newEnd` of the new text. -/
structure ChangedRegion where
  start : Nat
  oldEnd : Nat
  newEnd : Nat
  startPoint : Point
  oldEndPoint : Point
  newEndPoint : Point
  deriving DecidableEq, Repr

/-- Why no region can be given. -/
inductive RegionError where
  /-- The region would start after one of its own ends. -/
  | startPastEnd (start oldEnd newEnd : Nat)
  deriving DecidableEq, Repr

/-- The wording of a region error. -/
def RegionError.message : RegionError → String
  | .startPastEnd start oldEnd newEnd =>
      s!"inconsistent edit region: start {start} past old end {oldEnd} or new end {newEnd}"

/-- How an incremental parser should treat a change. -/
inductive Complexity where
  | simple
  | complex
  deriving DecidableEq, Repr

namespace ChangedRegion

/-- Largest change of length, in bytes, of a simple change. -/
def maxSimpleDelta : Nat := 100

/-- Largest region, in bytes, of a simple change. -/
def maxSimpleLength : Nat := 1000

/-- The region of the difference between two texts, none when they are
equal. -/
def between (old new : Text) : Except RegionError (Option ChangedRegion) :=
  if old = new then .ok none
  else
    let difference := Difference.between old new
    let start := byteLength difference.head
    let oldEnd := byteLength old - byteLength difference.tail
    let newEnd := byteLength new - byteLength difference.tail
    if start > oldEnd ∨ start > newEnd then
      .error (.startPastEnd start oldEnd newEnd)
    else
      .ok (some
        { start, oldEnd, newEnd
          startPoint := bytePointAt old start
          oldEndPoint := bytePointAt old oldEnd
          newEndPoint := bytePointAt new newEnd })

/-- By how many bytes the length of the text changed. -/
def lengthDelta (region : ChangedRegion) : Nat :=
  (region.newEnd - region.oldEnd) + (region.oldEnd - region.newEnd)

/-- Number of bytes from the start of the region to its farther end. -/
def length (region : ChangedRegion) : Nat :=
  max region.oldEnd region.newEnd - region.start

/-- A change is simple if it is short and changes the length by little. -/
def complexity (region : ChangedRegion) : Complexity :=
  if region.lengthDelta ≤ maxSimpleDelta ∧ region.length ≤ maxSimpleLength then .simple
  else .complex

end ChangedRegion

end ModalEditor
