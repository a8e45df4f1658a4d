import ModalEditor.Proofs.Checked.Word
import ModalEditor.Proofs.Text.Offsets

namespace ModalEditor

/-!
# Converting an offset in one way or another

Motions put the lines of a text in one row, go along it by offsets, and find the line of an
offset by taking away the lengths of lines; elsewhere the line of an offset is found by going
through the characters before it.  Splices and highlighting count in bytes, and convert with a
list of the bytes at which characters start.  All these name the same places: at the ends of
lines, on empty lines, between characters of several bytes, at the end of the text, and, for
offsets, past it.
-/

/-- The characters of a text, each with the byte at which it starts, the first one starting
at a given byte. -/
def charIndicesFrom (start : Nat) : Text → List (Nat × Char)
  | [] => []
  | c :: rest => (start, c) :: charIndicesFrom (start + c.utf8Size) rest

/-- The characters of a text, each with the byte at which it starts. -/
def charIndices (text : Text) : List (Nat × Char) :=
  charIndicesFrom 0 text

/-- The byte at which the character of an offset starts, or the end. -/
def byteIndex (text : Text) (offset : Nat) : Nat :=
  (charIndices text)[offset]?.elim (byteLength text) (·.1)

/-- Number of characters that start before a byte, or before the end. -/
def charIndex (text : Text) (bytes : Nat) : Nat :=
  ((charIndices text).takeWhile fun entry => entry.1 < min bytes (byteLength text)).length

variable {text : Text}

/-! ## Bytes and characters -/

/-- Up to the character of an offset there are the bytes of those before it. -/
theorem elim_getElem?_charIndicesFrom (text : Text) (start offset : Nat) :
    (charIndicesFrom start text)[offset]?.elim (start + byteLength text) (·.1) =
      start + byteLength (text.take offset) := by
  -- The rest of a text starts later, so the first byte is any.
  induction text generalizing start offset with
  | nil => simp [charIndicesFrom]
  | cons c text ih =>
      cases offset with
      | zero => rfl
      | succ offset =>
          rw [charIndicesFrom, List.getElem?_cons_succ, List.take_succ_cons, byteLength_cons,
            byteLength_cons, ← Nat.add_assoc, ← Nat.add_assoc]
          exact ih (start + c.utf8Size) offset

theorem byteIndex_eq (text : Text) (offset : Nat) :
    byteIndex text offset = byteOffset text offset := by
  have hIndex := elim_getElem?_charIndicesFrom text 0 offset
  rwa [Nat.zero_add, Nat.zero_add] at hIndex

/-- As long as characters start before a byte, they are counted. -/
theorem length_takeWhile_charIndicesFrom (text : Text) (start stop : Nat) :
    ((charIndicesFrom start text).takeWhile fun entry => entry.1 < stop).length =
      charOffset text (stop - start) := by
  induction text generalizing start with
  | nil => rfl
  | cons c text ih =>
      rw [charIndicesFrom, charOffset, List.takeWhile_cons]
      by_cases hBefore : start < stop
      · rw [if_pos (by simpa using hBefore), if_neg (by omega), List.length_cons, ih,
          Nat.sub_add_eq, Nat.add_comm]
      · rw [if_neg (by simpa using hBefore), if_pos (by omega), List.length_nil]

/-- Past the end there is no other character. -/
theorem charOffset_min (text : Text) (bytes : Nat) :
    charOffset text (min bytes (byteLength text)) = charOffset text bytes := by
  induction text generalizing bytes with
  | nil => rfl
  | cons c text ih =>
      have hSize := c.utf8Size_pos
      have hRest : min bytes (c.utf8Size + byteLength text) - c.utf8Size =
          min (bytes - c.utf8Size) (byteLength text) := by omega
      have hZero : min bytes (c.utf8Size + byteLength text) = 0 ↔ bytes = 0 := by omega
      simp only [charOffset, byteLength_cons, hRest, hZero, ih]

theorem charIndex_eq (text : Text) (bytes : Nat) :
    charIndex text bytes = charOffset text bytes := by
  rw [charIndex, charIndices, length_takeWhile_charIndicesFrom, Nat.sub_zero, charOffset_min]

/-- From an offset in characters to bytes and back. -/
theorem charOffset_byteOffset {offset : Nat} (h : offset ≤ text.length) :
    charOffset text (byteOffset text offset) = offset := by
  have hTaken := charOffset_append_byteLength (text.take offset) (text.drop offset)
  rwa [List.take_append_drop, List.length_take_of_le h] at hTaken

/-- From a byte at which a character starts, or the end, to characters and back. -/
theorem byteOffset_charOffset {bytes : Nat} (h : isBoundary text bytes = true) :
    byteOffset text (charOffset text bytes) = bytes := by
  obtain ⟨before, after, rfl, rfl⟩ := isBoundary_iff.mp h
  rw [charOffset_append_byteLength, byteOffset, List.take_left]

/-! ## Lines and characters -/

/-- The lines of a text in one row are the text. -/
theorem flatten_splitLines (text : Text) : Checked.flatten (splitLines text) = text := by
  rw [Checked.flatten_eq, joinLines_splitLines]

/-- The lines of a text in one row are its characters.  Every offset, also past the end, has
the same position whether it is found along the lines or along the characters, and a machine
finds it in either way, if the text fits in its memory.  An offset of the text goes to bytes
and back, and so does a byte between two characters. -/
theorem conversions_of_offsets_agree (text : Text) :
    Checked.flatten (splitLines text) = text ∧
      (∀ offset,
        Position.ofOffsetInLines (splitLines text) offset = Position.ofOffset text offset ∧
        (byteLength text ≤ Checked.maxBytes →
          Checked.ofOffsetInLines (splitLines text) offset = .ok (Position.ofOffset text offset) ∧
          Checked.ofOffset text offset = .ok (Position.ofOffset text offset))) ∧
      (∀ offset, byteIndex text offset = byteOffset text offset) ∧
      (∀ bytes, charIndex text bytes = charOffset text bytes) ∧
      (∀ offset ≤ text.length, charIndex text (byteIndex text offset) = offset) ∧
      ∀ bytes, isBoundary text bytes = true → byteIndex text (charIndex text bytes) = bytes := by
  refine ⟨flatten_splitLines text, fun offset => ?_, byteIndex_eq text, charIndex_eq text,
    fun offset h => ?_, fun bytes h => ?_⟩
  · refine ⟨Position.ofOffsetInLines_splitLines text offset, fun hFits => ?_⟩
    have hLength := Checked.length_add_maxBytes_lt hFits
    rw [Checked.ofOffsetInLines_splitLines (by omega), Checked.ofOffset_eq (by omega),
      Position.ofOffsetInLines_splitLines]
    exact ⟨rfl, rfl⟩
  · rw [charIndex_eq, byteIndex_eq, charOffset_byteOffset h]
  · rw [charIndex_eq, byteIndex_eq, byteOffset_charOffset h]

end ModalEditor
