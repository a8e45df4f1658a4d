namespace ModalEditor

/-!
# The viewport

The viewport follows the lines that a renderer shows.  Around them it keeps a
padded range of lines worth highlighting, and it reports a new range only when
the range moved by more than a threshold, so that small scrolling does no work.

Pixels enter only in `VisibleLines.ofPixels?`; everything after that counts
lines.
-/

/-- Settings of a viewport. -/
structure ViewportConfig where
  /-- Lines of padding above and below the visible ones. -/
  bufferLines : Nat
  /-- Moves of at most this many lines are not reported. -/
  smallChangeThreshold : Nat
  deriving DecidableEq, Repr

namespace ViewportConfig

/-- Ten lines of padding, and moves of up to five lines go unreported. -/
def default : ViewportConfig := ⟨10, 5⟩

end ViewportConfig

/-- A range of lines, ends included, of a text with `totalLines` lines. -/
structure LineRange where
  startLine : Nat
  endLine : Nat
  totalLines : Nat
  deriving DecidableEq, Repr, Inhabited

namespace LineRange

/-- All lines of a text. -/
def whole (totalLines : Nat) : LineRange :=
  ⟨0, totalLines - 1, totalLines⟩

/-- Whether a line is in the range. -/
def contains (range : LineRange) (line : Nat) : Bool :=
  range.startLine ≤ line && line ≤ range.endLine

/-- Number of lines in the range. -/
def lineCount (range : LineRange) : Nat :=
  range.endLine + 1 - range.startLine

end LineRange

/-- The visible area in lines, without padding. -/
structure Geometry where
  topLine : Nat
  visibleLines : Nat
  deriving DecidableEq, Repr, Inhabited

/-- First and last line that a scroll position shows, were the text long
enough. -/
structure VisibleLines where
  first : Nat
  last : Nat
  first_le_last : first ≤ last
  deriving DecidableEq, Repr

namespace VisibleLines

/-- The lines from `first` to `last`, at least one. -/
def ofEnds (first last : Nat) : VisibleLines :=
  ⟨first, max first last, Nat.le_max_left first last⟩

/-- The larger of a number of pixels and zero. -/
def atLeastZero (pixels : Float32) : Float32 :=
  if pixels > 0.0 then pixels else 0.0

/-- The lines that an area of `height` pixels shows when the text is scrolled
down by `scrollTop` pixels, where a part of a line counts as the line.  There is
no answer for lines without height, nor for a scroll position or a height that is
not a finite number. -/
def ofPixels? (scrollTop height lineHeight : Float32) : Option VisibleLines :=
  if lineHeight ≤ 0.0 || !scrollTop.isFinite || !height.isFinite then none
  else
    let top := atLeastZero scrollTop
    let bottom := top + atLeastZero height
    let line (pixels : Float32) : Nat := (pixels / lineHeight).toUInt64.toNat
    some (ofEnds (line top) (line bottom))

end VisibleLines

/-- What is known of the visible lines of one buffer. -/
structure Viewport where
  config : ViewportConfig
  /-- The range reported last. -/
  range : Option LineRange
  /-- The visible area, whether it was reported or not. -/
  geometry : Option Geometry
  deriving DecidableEq, Repr

namespace Viewport

/-- A viewport that nothing was reported to. -/
def ofConfig (config : ViewportConfig) : Viewport :=
  ⟨config, none, none⟩

/-- The visible lines with their padding, cut at the ends of the text. -/
def paddedRange (config : ViewportConfig) (visible : VisibleLines) (totalLines : Nat) :
    LineRange :=
  let last := totalLines - 1
  { startLine := min (visible.first - config.bufferLines) last
    endLine := min (visible.last + config.bufferLines) last
    totalLines }

/-- Distance between two line numbers. -/
def lineDistance (a b : Nat) : Nat :=
  (a - b) + (b - a)

/-- Whether a range differs enough from the one reported before. -/
def isLargeChange (config : ViewportConfig) (candidate : LineRange) :
    Option LineRange → Bool
  | none => true
  | some previous =>
      previous.totalLines != candidate.totalLines ||
        lineDistance previous.startLine candidate.startLine > config.smallChangeThreshold ||
        lineDistance previous.endLine candidate.endLine > config.smallChangeThreshold

/-- Takes note of the visible lines of a text with `totalLines` lines, an empty
text counting as one line.  The second component is the range to report, if
any. -/
def observe (viewport : Viewport) (visible : VisibleLines) (totalLines : Nat) :
    Viewport × Option LineRange :=
  let totalLines := max totalLines 1
  let geometry : Geometry :=
    ⟨min visible.first (totalLines - 1), max (visible.last - visible.first) 1⟩
  let candidate := paddedRange viewport.config visible totalLines
  if isLargeChange viewport.config candidate viewport.range then
    ({ viewport with geometry := some geometry, range := some candidate }, some candidate)
  else ({ viewport with geometry := some geometry }, none)

/-- Takes note of a scroll position.  One that makes no sense is ignored. -/
def scroll (viewport : Viewport) (scrollTop height lineHeight : Float32) (totalLines : Nat) :
    Viewport × Option LineRange :=
  match VisibleLines.ofPixels? scrollTop height lineHeight with
  | none => (viewport, none)
  | some visible => viewport.observe visible totalLines

/-- Forgets the reported range, so that the next one is reported whatever it
is. -/
def reset (viewport : Viewport) : Viewport :=
  { viewport with range := none }

end Viewport

end ModalEditor
