import ModalEditor.Proofs.Buffer
import ModalEditor.Proofs.Checked.Basic
import ModalEditor.Proofs.Text.ChangedRegion
import ModalEditor.Proofs.Text.Offsets

namespace ModalEditor

/-!
# A buffer on a rope

A rope stores a long text so that a piece of it can be exchanged without touching the rest.
How it does that is its own affair.  Here it is any type with operations that do to the
characters what they promise, and that may fail for places outside the text.

A buffer on a rope gets a new text by an exchange of what differs.  The region of the change
is found in bytes, a rope counts characters, and removing nothing is left out.  All the same
no step fails, the rope holds exactly the new text, and the cursor is where it is after a
plain replacement: it need not have been in the old text for that.
-/

/-- The operations of ropes.  Places are counted in characters. -/
structure RopeLibrary (Rope : Type) where
  ofText : Text → Rope
  toText : Rope → Text
  length : Rope → Nat
  /-- Takes out the characters from the first place up to the second. -/
  remove : Rope → Nat → Nat → Checked Rope
  /-- Puts in a text at a place. -/
  insert : Rope → Nat → Text → Checked Rope
  /-- The line of a place. -/
  lineOfChar : Rope → Nat → Checked Nat
  /-- The place where a line starts. -/
  charOfLine : Rope → Nat → Checked Nat

/-- What the operations promise.  Only the line feed breaks lines. -/
structure RopeLibrary.IsLawful {Rope : Type} (lib : RopeLibrary Rope) : Prop where
  toText_ofText : ∀ text, lib.toText (lib.ofText text) = text
  length_eq : ∀ rope, lib.length rope = (lib.toText rope).length
  remove : ∀ rope first stop, first ≤ stop → stop ≤ (lib.toText rope).length →
    ∃ after, lib.remove rope first stop = .ok after ∧
      lib.toText after = (lib.toText rope).take first ++ (lib.toText rope).drop stop
  insert : ∀ rope place added, place ≤ (lib.toText rope).length →
    ∃ after, lib.insert rope place added = .ok after ∧
      lib.toText after = (lib.toText rope).take place ++ added ++ (lib.toText rope).drop place
  lineOfChar : ∀ rope place, place ≤ (lib.toText rope).length →
    lib.lineOfChar rope place = .ok (((lib.toText rope).take place).count lineFeed)
  charOfLine : ∀ rope line, line < (splitLines (lib.toText rope)).length →
    lib.charOfLine rope line = .ok (lineStart (splitLines (lib.toText rope)) line)

namespace RopeLibrary

variable {Rope : Type} {lib : RopeLibrary Rope} {rope : Rope} {region : ChangedRegion}
  {head removed added tail new : Text}

open Checked

/-- Takes out the characters between two places, if there are any. -/
def takeOut (lib : RopeLibrary Rope) (rope : Rope) (first stop : Nat) : Checked Rope :=
  if first < stop then lib.remove rope first stop else pure rope

/-- Exchanges what a rope holds in a region for what the new text holds there. -/
def exchange (lib : RopeLibrary Rope) (rope : Rope) (new : Text) (region : ChangedRegion) :
    Checked Rope := do
  let first := charOffset (lib.toText rope) region.start
  let stop := charOffset (lib.toText rope) region.oldEnd
  let rope ← lib.takeOut rope first stop
  lib.insert rope first (← sliceBytes new region.start region.newEnd)

/-- Makes a rope hold a new text.  Without a region the rope is built anew. -/
def rewrite (lib : RopeLibrary Rope) (rope : Rope) (new : Text) : Checked Rope :=
  match ChangedRegion.between (lib.toText rope) new with
  | .ok none => pure rope
  | .ok (some region) => lib.exchange rope new region
  | .error _ => pure (lib.ofText new)

/-- The position of a place, at most the end. -/
def position (lib : RopeLibrary Rope) (rope : Rope) (place : Nat) : Checked Position := do
  let place := min place (lib.length rope)
  let line ← lib.lineOfChar rope place
  let column ← sub place (← lib.charOfLine rope line)
  pure ⟨line, column, place⟩

/-- Taking out what stands between a head and a tail leaves these two. -/
theorem IsLawful.takeOut_eq (h : lib.IsLawful)
    (hText : lib.toText rope = head ++ (removed ++ tail)) :
    ∃ after, lib.takeOut rope head.length (head.length + removed.length) = .ok after ∧
      lib.toText after = head ++ tail := by
  rw [takeOut]
  by_cases hNone : removed.length = 0
  · obtain rfl := List.eq_nil_of_length_eq_zero hNone
    exact ⟨rope, by simp, hText⟩
  · obtain ⟨after, hAfter, hLeft⟩ := h.remove rope head.length (head.length + removed.length)
      (Nat.le_add_right _ _) (by simp [hText])
    refine ⟨after, by rw [if_pos (by omega)]; exact hAfter, ?_⟩
    rw [hLeft, hText, List.take_left, ← List.append_assoc, ← List.length_append, List.drop_left]

/-- Exchanging what stands between a head and a tail puts together the new text. -/
theorem IsLawful.exchange_eq (h : lib.IsLawful)
    (hRegion : region.IsAround head removed added)
    (hText : lib.toText rope = head ++ (removed ++ tail)) :
    ∃ after, lib.exchange rope (head ++ (added ++ tail)) region = .ok after ∧
      lib.toText after = head ++ (added ++ tail) := by
  have hFirst : charOffset (lib.toText rope) region.start = head.length := by
    rw [hText, hRegion.start, charOffset_append_byteLength]
  have hStop : charOffset (lib.toText rope) region.oldEnd = head.length + removed.length := by
    rw [hText, hRegion.oldEnd, ← List.append_assoc, charOffset_append_byteLength,
      List.length_append]
  have hAdded : sliceBytes (head ++ (added ++ tail)) region.start region.newEnd = .ok added := by
    rw [hRegion.start, hRegion.newEnd, ← List.append_assoc]
    exact sliceBytes_append head added tail
  obtain ⟨between, hBetween, hShort⟩ := h.takeOut_eq hText
  obtain ⟨after, hAfter, hNew⟩ := h.insert between head.length added (by simp [hShort])
  refine ⟨after, ?_, ?_⟩
  · simp only [exchange, hFirst, hStop, hBetween, hAdded, ok_bind, hAfter]
  · rw [hNew, hShort, List.take_left, List.drop_left, List.append_assoc]

theorem IsLawful.rewrite_eq (h : lib.IsLawful) (rope : Rope) (new : Text) :
    ∃ after, lib.rewrite rope new = .ok after ∧ lib.toText after = new := by
  rw [rewrite]
  by_cases hSame : lib.toText rope = new
  · rw [hSame, ChangedRegion.between_self]
    exact ⟨rope, rfl, hSame⟩
  · obtain ⟨region, hRegion, hAround, -⟩ := ChangedRegion.exists_isAround_of_ne hSame
    have hOld := (Difference.head_removed_tail (lib.toText rope) new).symm
    have hNew := Difference.head_added_tail (lib.toText rope) new
    rw [hRegion]
    obtain ⟨after, hAfter, hText⟩ := h.exchange_eq hAround hOld
    rw [hNew] at hAfter hText
    exact ⟨after, hAfter, hText⟩

/-- A rope knows the position of a place. -/
theorem IsLawful.position_eq (h : lib.IsLawful) (rope : Rope) (place : Nat) :
    lib.position rope place =
      .ok (Position.ofOffset (lib.toText rope) (min place (lib.toText rope).length)) := by
  have hPlace := Nat.min_le_right place (lib.toText rope).length
  generalize hOffset : min place (lib.toText rope).length = offset at hPlace
  -- The start of the line and the column add up to the place.
  obtain ⟨hLine, -, hSum⟩ :=
    Position.isIn_iff.mp (Position.isIn_ofOffset (lib.toText rope) offset)
  have hRow : (Position.ofOffset (lib.toText rope) offset).line =
      ((lib.toText rope).take offset).count lineFeed := pointAt_row (lib.toText rope) offset
  rw [Position.ofOffset_offset, Nat.min_eq_left hPlace, hRow] at hSum
  rw [hRow] at hLine
  have hColumn : offset - lineStart (splitLines (lib.toText rope))
      (((lib.toText rope).take offset).count lineFeed) =
        (Position.ofOffset (lib.toText rope) offset).column := by
    omega
  rw [position, h.length_eq, hOffset, h.lineOfChar rope offset hPlace]
  simp only [ok_bind, h.charOfLine rope _ hLine]
  rw [sub_eq (by omega), ok_bind, hColumn, ← hRow, pure_eq, Except.ok.injEq]
  exact congrArg (Position.mk _ _) (Nat.min_eq_left hPlace).symm

/-- A rope of pieces.  After a change it has those before, in and after the place of the
change. -/
def pieces : RopeLibrary (List Text) where
  ofText text := [text]
  toText := List.flatten
  length rope := rope.flatten.length
  remove rope first stop :=
    if first ≤ stop ∧ stop ≤ rope.flatten.length then
      .ok [rope.flatten.take first, rope.flatten.drop stop]
    else .error .index
  insert rope place added :=
    if place ≤ rope.flatten.length then
      .ok [rope.flatten.take place, added, rope.flatten.drop place]
    else .error .index
  lineOfChar rope place :=
    if place ≤ rope.flatten.length then .ok ((rope.flatten.take place).count lineFeed)
    else .error .index
  charOfLine rope line :=
    if line < (splitLines rope.flatten).length then
      .ok (lineStart (splitLines rope.flatten) line)
    else .error .index

theorem isLawful_pieces : pieces.IsLawful where
  toText_ofText text := by simp [pieces]
  length_eq _ := rfl
  remove rope first stop hOrder hStop :=
    ⟨[rope.flatten.take first, rope.flatten.drop stop], if_pos ⟨hOrder, hStop⟩, by simp [pieces]⟩
  insert rope place added hPlace :=
    ⟨[rope.flatten.take place, added, rope.flatten.drop place], if_pos hPlace, by simp [pieces]⟩
  lineOfChar _ _ hPlace := if_pos hPlace
  charOfLine _ _ hLine := if_pos hLine

end RopeLibrary

/-- A buffer whose text is a rope. -/
structure RopeBuffer (Rope : Type) where
  rope : Rope
  cursor : Position
  tabSize : Nat

namespace RopeBuffer

variable {Rope : Type}

/-- The buffer as others see it. -/
def view (lib : RopeLibrary Rope) (buffer : RopeBuffer Rope) : Buffer :=
  ⟨lib.toText buffer.rope, buffer.cursor, buffer.tabSize⟩

/-- Replaces the text, touching only what differs, and keeps the cursor inside it. -/
def replaceText (lib : RopeLibrary Rope) (buffer : RopeBuffer Rope) (text : Text) :
    Checked (RopeBuffer Rope) := do
  let rope ← lib.rewrite buffer.rope text
  let cursor ← lib.position rope buffer.cursor.offset
  pure { buffer with rope, cursor }

/-- Touching only what differs is replacing the whole text: nothing fails on the way, the text
is the new one, and the cursor is at its old offset or, if that is past the end, at the end.
Others see the buffer whose text was replaced. -/
theorem touching_difference_replaces_text (lib : RopeLibrary Rope) (h : lib.IsLawful)
    (buffer : RopeBuffer Rope) (text : Text) :
    ∃ after, buffer.replaceText lib text = .ok after ∧
      lib.toText after.rope = text ∧
      after.cursor = Position.ofOffset text (min buffer.cursor.offset text.length) ∧
      after.view lib = (buffer.view lib).replaceText text := by
  obtain ⟨rope, hRope, hText⟩ := h.rewrite_eq buffer.rope text
  have hCursor := h.position_eq rope buffer.cursor.offset
  rw [hText] at hCursor
  refine ⟨⟨rope, Position.ofOffset text (min buffer.cursor.offset text.length),
    buffer.tabSize⟩, ?_, hText, rfl, ?_⟩
  · simp only [RopeBuffer.replaceText, hRope, hCursor, Checked.ok_bind, Checked.pure_eq]
  · simp only [view, hText, Buffer.replaceText, Buffer.splicedText_eq]

/-- One of two equal letters goes, after a letter of two bytes, and the cursor that was past
the end is at the end. -/
theorem touching_difference_removes_repeated_letter :
    let buffer : RopeBuffer (List Text) := ⟨[['é', '\n'], ['b', 'b']], ⟨5, 5, 9⟩, 4⟩
    RopeLibrary.pieces.IsLawful ∧
      ∃ after, buffer.replaceText RopeLibrary.pieces ['é', '\n', 'b'] = .ok after ∧
        RopeLibrary.pieces.toText after.rope = ['é', '\n', 'b'] ∧
        after.cursor = ⟨1, 1, 3⟩ ∧
        after.view RopeLibrary.pieces =
          (buffer.view RopeLibrary.pieces).replaceText ['é', '\n', 'b'] := by
  intro buffer
  obtain ⟨after, hAfter, hText, hCursor, hView⟩ := touching_difference_replaces_text
    RopeLibrary.pieces RopeLibrary.isLawful_pieces buffer ['é', '\n', 'b']
  exact ⟨RopeLibrary.isLawful_pieces, after, hAfter, hText, hCursor, hView⟩

end RopeBuffer

end ModalEditor
