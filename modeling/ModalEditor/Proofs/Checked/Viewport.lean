import Mathlib.Data.List.Induction
import ModalEditor.Proofs.Checked.Basic
import ModalEditor.Proofs.Viewport

namespace ModalEditor

/-!
# Viewports step by step

What `Viewport.observe` computes, with the numbers of a machine: the last line and the number
of lines of a range are differences that have to exist, and the padding below is cut at the
largest number before it is cut at the end of the text.  No step fails, whichever lines are
said to be visible of however long a text.

The range that is held was the padded range of some earlier scroll position, perhaps of a text
of another length.  It stays as long as the text has as many lines and no end of the padded
range is farther off than the threshold, so after any number of scroll positions that went
unreported it is still that close to the padded range of the last one.
-/

/-- What happens to a viewport.  Of pixels it is enough to know the lines they stand for. -/
inductive ViewportEvent where
  /-- A scroll position shows these lines of a text with so many lines. -/
  | seen (visible : VisibleLines) (totalLines : UInt64)
  /-- A scroll position makes no sense. -/
  | refused
  | reset
  deriving DecidableEq, Repr

namespace ViewportEvent

/-- What a scroll position comes to. -/
def ofPixels (scrollTop height lineHeight : Float32) (totalLines : UInt64) : ViewportEvent :=
  (VisibleLines.ofPixels? scrollTop height lineHeight).elim .refused (.seen · totalLines)

/-- The number of lines of the text that is seen, an empty one counting as one line. -/
def lines? : ViewportEvent → Option Nat
  | .seen _ totalLines => some (max totalLines.toNat 1)
  | .refused => none
  | .reset => none

/-- The number of lines of the text that was seen last. -/
def latestLines? (events : List ViewportEvent) : Option Nat :=
  (events.filterMap lines?).getLast?

theorem latestLines?_concat (events : List ViewportEvent) (event : ViewportEvent) :
    latestLines? (events ++ [event]) = event.lines?.or (latestLines? events) := by
  rw [latestLines?, List.filterMap_append, List.getLast?_append]
  cases hLines : event.lines? <;> simp [hLines, latestLines?]

end ViewportEvent

/-- Whether a range has a line, and its last line is one of the text. -/
structure LineRange.IsValid (range : LineRange) : Prop where
  start_le : range.startLine ≤ range.endLine
  end_lt : range.endLine < range.totalLines

/-- Whether a visible area starts in a text and has a line. -/
structure Geometry.IsWithin (geometry : Geometry) (totalLines : Nat) : Prop where
  top_lt : geometry.topLine < totalLines
  visible_pos : 1 ≤ geometry.visibleLines

theorem Geometry.isWithin_ofVisible {totalLines : Nat} (h : 0 < totalLines)
    (visible : VisibleLines) : (ofVisible visible totalLines).IsWithin totalLines := by
  constructor <;> simp only [ofVisible] <;> omega

namespace Viewport

/-- The viewport after an event, and the range to report, if any. -/
def follow (viewport : Viewport) : ViewportEvent → Viewport × Option LineRange
  | .seen visible totalLines => viewport.observe visible totalLines.toNat
  | .refused => (viewport, none)
  | .reset => (viewport.reset, none)

/-- Events in order. -/
def followAll (viewport : Viewport) (events : List ViewportEvent) : Viewport :=
  events.foldl (fun viewport event => (viewport.follow event).1) viewport

/-- A scroll position is followed by what it comes to. -/
theorem follow_ofPixels (viewport : Viewport) (scrollTop height lineHeight : Float32)
    (totalLines : UInt64) :
    viewport.follow (.ofPixels scrollTop height lineHeight totalLines) =
      viewport.scroll scrollTop height lineHeight totalLines.toNat := by
  rw [ViewportEvent.ofPixels, scroll]
  cases VisibleLines.ofPixels? scrollTop height lineHeight <;> rfl

end Viewport

namespace Checked

/-- Number of lines in a range. -/
def lineCount (range : LineRange) : Checked Nat := do
  let after ← add range.endLine 1
  sub after range.startLine

/-- Takes note of the visible lines of a text. -/
def observe (viewport : Viewport) (visible : VisibleLines) (totalLines : Nat) :
    Checked (Viewport × Option LineRange) := do
  let totalLines := max totalLines 1
  let last ← sub totalLines 1
  let geometry : Geometry :=
    ⟨min visible.first last, max (visible.last - visible.first) 1⟩
  let candidate : LineRange :=
    { startLine := min (visible.first - viewport.config.bufferLines) last
      endLine := min (saturatingAdd visible.last viewport.config.bufferLines) last
      totalLines }
  if Viewport.isLargeChange viewport.config candidate viewport.range then
    pure ({ viewport with geometry := some geometry, range := some candidate }, some candidate)
  else pure ({ viewport with geometry := some geometry }, none)

/-- The viewport after an event, and the range to report, if any. -/
def follow (viewport : Viewport) : ViewportEvent → Checked (Viewport × Option LineRange)
  | .seen visible totalLines => observe viewport visible totalLines.toNat
  | .refused => pure (viewport, none)
  | .reset => pure (viewport.reset, none)

/-- Events in order. -/
def followAll (viewport : Viewport) (events : List ViewportEvent) : Checked Viewport :=
  events.foldlM (fun viewport event => Prod.fst <$> follow viewport event) viewport

theorem observe_eq {totalLines : Nat} (h : totalLines < wordSize) (viewport : Viewport)
    (visible : VisibleLines) :
    observe viewport visible totalLines = .ok (viewport.observe visible totalLines) := by
  have hLast : max totalLines 1 - 1 < wordSize := by omega
  rw [observe, Viewport.observe, sub_eq (by omega), ok_bind]
  simp only [min_saturatingAdd hLast, pure_eq, Viewport.paddedRange]
  exact (apply_ite Except.ok _ _ _).symm

theorem follow_eq (viewport : Viewport) (event : ViewportEvent) :
    follow viewport event = .ok (viewport.follow event) := by
  cases event with
  | seen visible totalLines => exact observe_eq totalLines.toNat_lt_size viewport visible
  | refused => rfl
  | reset => rfl

theorem followAll_eq (viewport : Viewport) (events : List ViewportEvent) :
    followAll viewport events = .ok (viewport.followAll events) := by
  simp only [followAll, follow_eq, map_ok]
  exact List.foldlM_pure

/-- The lines of a range of a text can be counted. -/
theorem lineCount_eq {range : LineRange} (h : range.IsValid)
    (hTotal : range.totalLines < wordSize) : lineCount range = .ok range.lineCount := by
  have hStart := h.start_le
  have hEnd := h.end_lt
  rw [lineCount, add_eq (by omega), ok_bind, sub_eq (by omega), LineRange.lineCount]

end Checked

namespace Viewport

variable {viewport : Viewport} {config : ViewportConfig} {totalLines : Nat}
  {events : List ViewportEvent}

/-- The padded range has a line, since the first visible line is none after the last. -/
theorem isValid_paddedRange (h : 0 < totalLines) (config : ViewportConfig)
    (visible : VisibleLines) : (paddedRange config visible totalLines).IsValid := by
  have hOrder := visible.first_le_last
  constructor <;> simp only [paddedRange] <;> omega

theorem max_toNat_one_lt (totalLines : UInt64) : max totalLines.toNat 1 < Checked.wordSize := by
  have hTotal := totalLines.toNat_lt_size
  simp only [Checked.wordSize, UInt64.size] at hTotal ⊢
  omega

/-- A padded range is close to itself. -/
theorem isClose_paddedRange (config : ViewportConfig) (visible : VisibleLines)
    (totalLines : Nat) : IsClose config visible (paddedRange config visible totalLines) := by
  constructor <;> rw [lineDistance_le_iff] <;> exact ⟨Nat.le_add_right _ _, Nat.le_add_right _ _⟩

/-- The invariant: the range that is held was one of a text, and the visible area is in the
text that was seen last. -/
structure IsSound (viewport : Viewport) (events : List ViewportEvent) : Prop where
  range : ∀ range ∈ viewport.range, range.IsValid ∧ range.totalLines < Checked.wordSize
  geometry : Option.Rel Geometry.IsWithin viewport.geometry (ViewportEvent.latestLines? events)

theorem IsSound.lineCount_eq {range : LineRange} (h : viewport.IsSound events)
    (hRange : viewport.range = some range) :
    range.IsValid ∧ Checked.lineCount range = .ok range.lineCount := by
  obtain ⟨hValid, hTotal⟩ := h.range range hRange
  exact ⟨hValid, Checked.lineCount_eq hValid hTotal⟩

/-- After lines were seen the range that is held is their padded range or that of before. -/
theorem IsSound.observe (h : viewport.IsSound events) (visible : VisibleLines)
    (totalLines : UInt64) :
    (viewport.observe visible totalLines.toNat).1.IsSound
      (events ++ [.seen visible totalLines]) := by
  obtain ⟨hGeometry, -, hRange⟩ := viewport.observe_cases visible totalLines.toNat
  constructor
  · -- A range that stays was sound before, whatever is seen now.
    intro range hHeld
    rcases hRange with ⟨hPadded, -⟩ | ⟨previous, hPrevious, hKept, -⟩
    · obtain rfl := Option.some.inj (hPadded.symm.trans hHeld)
      exact ⟨isValid_paddedRange (by omega) _ _, max_toNat_one_lt totalLines⟩
    · obtain rfl := Option.some.inj (hKept.symm.trans hHeld)
      exact h.range previous hPrevious
  · rw [ViewportEvent.latestLines?_concat, hGeometry]
    exact .some (Geometry.isWithin_ofVisible (by omega) visible)

theorem IsSound.follow (h : viewport.IsSound events) (event : ViewportEvent) :
    (viewport.follow event).1.IsSound (events ++ [event]) := by
  cases event with
  | seen visible totalLines => exact h.observe visible totalLines
  | refused =>
      refine ⟨h.range, ?_⟩
      rw [ViewportEvent.latestLines?_concat]
      exact h.geometry
  | reset =>
      refine ⟨fun range hRange => (nomatch (hRange : none = some range)), ?_⟩
      rw [ViewportEvent.latestLines?_concat]
      exact h.geometry

@[simp]
theorem follow_config (viewport : Viewport) (event : ViewportEvent) :
    (viewport.follow event).1.config = viewport.config := by
  cases event with
  | seen visible totalLines => exact (viewport.observe_cases visible totalLines.toNat).2.1
  | refused => rfl
  | reset => rfl

theorem isSound_followAll (config : ViewportConfig) (events : List ViewportEvent) :
    ((ofConfig config).followAll events).IsSound events ∧
      ((ofConfig config).followAll events).config = config := by
  induction events using List.reverseRecOn with
  | nil => exact ⟨⟨fun range hRange => (nomatch (hRange : none = some range)), .none⟩, rfl⟩
  | append_singleton events event ih =>
      rw [followAll, List.foldl_append]
      exact ⟨ih.1.follow event, (follow_config _ event).trans ih.2⟩

/-- The range that is held after lines were seen belongs to their text and is close to the
padded range. -/
theorem exists_range_observe (viewport : Viewport) (visible : VisibleLines) (totalLines : Nat) :
    ∃ range, (viewport.observe visible totalLines).1.range = some range ∧
      range.totalLines = max totalLines 1 ∧ IsClose viewport.config visible range := by
  rcases (viewport.observe_cases visible totalLines).2.2 with
    ⟨hPadded, -⟩ | ⟨range, -, hKept, -, hTotal, hClose⟩
  · exact ⟨_, hPadded, rfl, isClose_paddedRange _ _ _⟩
  · exact ⟨range, hKept, hTotal, hClose⟩

/-- A padded range is a large change if no range is held, or one of a text of another length,
or one with an end farther off than the threshold. -/
theorem isLargeChange_eq_true_iff {candidate : LineRange} {held : Option LineRange} :
    isLargeChange config candidate held = true ↔
      held = none ∨ ∃ range, held = some range ∧ (range.totalLines ≠ candidate.totalLines ∨
        config.smallChangeThreshold < lineDistance range.startLine candidate.startLine ∨
        config.smallChangeThreshold < lineDistance range.endLine candidate.endLine) := by
  cases held with
  | none => simp [isLargeChange]
  | some range => simp [isLargeChange, or_assoc]

theorem isSome_observe_snd (viewport : Viewport) (visible : VisibleLines) (totalLines : Nat) :
    (viewport.observe visible totalLines).2.isSome = isLargeChange viewport.config
      (paddedRange viewport.config visible (max totalLines 1)) viewport.range := by
  cases hLarge : isLargeChange viewport.config
      (paddedRange viewport.config visible (max totalLines 1)) viewport.range with
  | true =>
      rw [observe_of_isLargeChange_eq_true hLarge]
      rfl
  | false =>
      rw [observe_of_isLargeChange_eq_false hLarge]
      rfl

/-- What is reported is held. -/
theorem range_observe_of_reported {reported : LineRange} {visible : VisibleLines}
    (h : (viewport.observe visible totalLines).2 = some reported) :
    (viewport.observe visible totalLines).1.range = some reported := by
  rcases (viewport.observe_cases visible totalLines).2.2 with
    ⟨hPadded, hReported⟩ | ⟨range, -, -, hNone, -⟩
  · rw [hPadded, ← hReported, h]
  · rw [hNone] at h
    cases h

/-- After any events, and scroll positions are such, no step has failed.  The range that is
held has a line and ends on a line of its text, and its lines can be counted.  A visible area
is known if lines were seen, and it starts in the text that was seen last.  When lines are seen
next, the range held then belongs to their text, and each of its ends is as close to that of
the padded range as the threshold says.  A range is reported exactly if none was held before,
or one of a text of another length, or one with an end farther off. -/
theorem ranges_are_valid_and_close (config : ViewportConfig) (events : List ViewportEvent) :
    let viewport := (ofConfig config).followAll events
    Checked.followAll (ofConfig config) events = .ok viewport ∧
      (∀ scrollTop height lineHeight totalLines,
        viewport.scroll scrollTop height lineHeight (UInt64.toNat totalLines) =
          viewport.follow (.ofPixels scrollTop height lineHeight totalLines)) ∧
      (∀ range, viewport.range = some range →
        range.IsValid ∧ Checked.lineCount range = .ok range.lineCount) ∧
      Option.Rel Geometry.IsWithin viewport.geometry (ViewportEvent.latestLines? events) ∧
      ∀ (visible : VisibleLines) (totalLines : UInt64),
        let total := max totalLines.toNat 1
        let padded := paddedRange config visible total
        let next := viewport.follow (.seen visible totalLines)
        (∃ range, next.1.range = some range ∧ range.totalLines = total ∧
            lineDistance range.startLine padded.startLine ≤ config.smallChangeThreshold ∧
            lineDistance range.endLine padded.endLine ≤ config.smallChangeThreshold) ∧
          (∀ reported, next.2 = some reported → next.1.range = some reported ∧
            reported.IsValid ∧ Checked.lineCount reported = .ok reported.lineCount) ∧
          (next.2.isSome = true ↔ viewport.range = none ∨
            ∃ held, viewport.range = some held ∧ (held.totalLines ≠ total ∨
              config.smallChangeThreshold < lineDistance held.startLine padded.startLine ∨
              config.smallChangeThreshold < lineDistance held.endLine padded.endLine)) := by
  intro viewport
  obtain ⟨hSound, hConfig⟩ := isSound_followAll config events
  change viewport.config = config at hConfig
  refine ⟨Checked.followAll_eq _ events,
    fun scrollTop height lineHeight totalLines => (follow_ofPixels viewport _ _ _ _).symm,
    fun range hRange => hSound.lineCount_eq hRange, hSound.geometry,
    fun visible totalLines => ?_⟩
  intro total padded next
  have hPadded : paddedRange viewport.config visible total = padded := by
    rw [hConfig]
  refine ⟨?_, ?_, ?_⟩
  · -- Suppressed before or not, the range held now was compared with the present one.
    obtain ⟨range, hRange, hTotal, hClose⟩ :=
      viewport.exists_range_observe visible totalLines.toNat
    have hStart := hClose.start
    have hStop := hClose.stop
    rw [hTotal, hPadded, hConfig] at hStart hStop
    exact ⟨range, hRange, hTotal, hStart, hStop⟩
  · intro reported hReported
    have hNext : next.1.IsSound (events ++ [.seen visible totalLines]) := hSound.follow _
    have hHeld : next.1.range = some reported := range_observe_of_reported hReported
    exact ⟨hHeld, hNext.lineCount_eq hHeld⟩
  · have hLarge := viewport.isSome_observe_snd visible totalLines.toNat
    rw [hPadded, hConfig] at hLarge
    change next.2.isSome = _ at hLarge
    rw [hLarge]
    exact isLargeChange_eq_true_iff

end Viewport

end ModalEditor
