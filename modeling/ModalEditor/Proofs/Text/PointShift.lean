import Mathlib.Data.List.TakeWhile
import ModalEditor.Proofs.Text.ChangedRegion
import ModalEditor.Proofs.Text.Coordinates

namespace ModalEditor

/-!
# How a change moves the points after it

A point counts the line feeds in the bytes before it and the bytes after the last of them.
So points add up: the point of a later place is that of an earlier one and, counted from
there, that of the bytes between.  A change puts other bytes in front of the tail that both
texts share and leaves the tail itself alone.  Every place in it therefore moves by as many
rows as the end of the region does, and the column moves only on the row where the region
ends.  What comes before the region stays where it is.
-/

/-- The byte of a line feed. -/
def feedByte : UInt8 := 10

/-- No other character has that byte in its UTF-8 form. -/
theorem feedByte_notMem_of_ne {c : Char} (h : c ≠ lineFeed) :
    feedByte ∉ String.utf8EncodeChar c := by
  have hCode : c.val.toNat ≠ 10 := by
    intro hTen
    exact h (Char.ext (UInt32.toNat_inj.mp hTen))
  -- Forms of several bytes have only bytes from 128 on.
  have hOfNat {n : Nat} (hSmall : n < 256) (hTen : n ≠ 10) : feedByte ≠ UInt8.ofNat n := by
    intro hByte
    have hNat := congrArg UInt8.toNat hByte
    rw [UInt8.toNat_ofNat_of_lt' hSmall] at hNat
    exact hTen hNat.symm
  unfold String.utf8EncodeChar
  dsimp only
  split
  · simp only [List.mem_singleton]
    exact hOfNat (by omega) hCode
  · split
    · simp only [List.mem_cons, List.not_mem_nil, or_false, not_or]
      exact ⟨hOfNat (by omega) (by omega), hOfNat (by omega) (by omega)⟩
    · split
      · simp only [List.mem_cons, List.not_mem_nil, or_false, not_or]
        exact ⟨hOfNat (by omega) (by omega), hOfNat (by omega) (by omega),
          hOfNat (by omega) (by omega)⟩
      · simp only [List.mem_cons, List.not_mem_nil, or_false, not_or]
        exact ⟨hOfNat (by omega) (by omega), hOfNat (by omega) (by omega),
          hOfNat (by omega) (by omega), hOfNat (by omega) (by omega)⟩

namespace Point

/-- The place that lies at `q` when counted from `p`.  Columns count on from `p` on its own
row only. -/
def add (p q : Point) : Point :=
  ⟨p.row + q.row, if q.row = 0 then p.column + q.column else q.column⟩

/-- The point after some bytes: the line feeds among them, and the bytes after the last. -/
def ofBytes (bytes : List UInt8) : Point :=
  ⟨bytes.count feedByte, (bytes.reverse.takeWhile fun byte => byte != feedByte).length⟩

@[simp]
theorem origin_add (p : Point) : origin.add p = p := by
  simp [add, origin]

@[simp]
theorem add_origin (p : Point) : p.add origin = p := by
  simp [add, origin]

theorem add_assoc (p q r : Point) : (p.add q).add r = p.add (q.add r) := by
  simp only [add, Nat.add_assoc, Nat.add_eq_zero_iff]
  by_cases hLast : r.row = 0
  · by_cases hMiddle : q.row = 0 <;> simp [hLast, hMiddle, Nat.add_assoc]
  · simp [hLast]

theorem ofBytes_nil : ofBytes [] = origin := rfl

theorem ne_feedByte_of_notMem {bytes : List UInt8} (h : feedByte ∉ bytes) :
    ∀ byte ∈ bytes.reverse, (byte != feedByte) = true := by
  intro byte hByte
  rw [bne_iff_ne]
  rintro rfl
  exact h (List.mem_reverse.mp hByte)

theorem ofBytes_of_notMem {bytes : List UInt8} (h : feedByte ∉ bytes) :
    ofBytes bytes = ⟨0, bytes.length⟩ := by
  rw [ofBytes, List.count_eq_zero_of_not_mem h,
    List.takeWhile_eq_self_iff.mpr (ne_feedByte_of_notMem h), List.length_reverse]

/-- Bytes one after the other lead to the point of the second, counted from that of the
first. -/
theorem ofBytes_append (first second : List UInt8) :
    ofBytes (first ++ second) = (ofBytes first).add (ofBytes second) := by
  by_cases hFeed : feedByte ∈ second
  · -- The last line feed is among the second bytes.
    have hRow : (ofBytes second).row ≠ 0 := Nat.pos_iff_ne_zero.mp (List.count_pos_iff.mpr hFeed)
    have hShort : (second.reverse.takeWhile fun byte => byte != feedByte).length ≠
        second.reverse.length := by
      intro hLength
      have hAll := List.takeWhile_eq_self_iff.mp
        ((List.takeWhile_prefix _).eq_of_length hLength) feedByte (List.mem_reverse.mpr hFeed)
      simp at hAll
    rw [add, if_neg hRow]
    simp only [ofBytes, List.count_append, List.reverse_append, List.takeWhile_append,
      if_neg hShort]
  · rw [ofBytes_of_notMem hFeed]
    simp only [ofBytes, add, List.count_append, List.count_eq_zero_of_not_mem hFeed,
      List.reverse_append, List.takeWhile_append_of_pos (ne_feedByte_of_notMem hFeed),
      List.length_append, List.length_reverse, if_true, Nat.add_comm second.length]

/-- A step over a character leads to the point of its bytes, counted from before. -/
theorem step_eq_add (p : Point) (c : Char) :
    p.step c.utf8Size c = p.add (ofBytes (String.utf8EncodeChar c)) := by
  by_cases hFeed : c = lineFeed
  · subst hFeed
    rfl
  · rw [ofBytes_of_notMem (feedByte_notMem_of_ne hFeed), String.length_utf8EncodeChar, step,
      if_neg hFeed, add, if_pos rfl, Nat.add_zero]

/-- Moving over bytes of a text leads to their point, counted from before. -/
theorem afterBytes_eq_add (p : Point) (text : Text) (count : Nat) :
    p.afterBytes text count = p.add (ofBytes ((utf8Bytes text).take count)) := by
  induction text generalizing p count with
  | nil => rw [afterBytes, utf8Bytes_nil, List.take_nil, ofBytes_nil, add_origin]
  | cons c text ih =>
      rw [afterBytes, utf8Bytes_cons]
      by_cases hInside : count < c.utf8Size
      · -- A character that is cut short has several bytes, so it is no line feed.
        have hPart : ((String.utf8EncodeChar c).take count).length = count := by
          rw [List.length_take, String.length_utf8EncodeChar]
          omega
        have hFeed : feedByte ∉ (String.utf8EncodeChar c).take count := by
          by_cases hChar : c = lineFeed
          · subst hChar
            obtain rfl : count = 0 := by
              have hSize : lineFeed.utf8Size = 1 := rfl
              omega
            exact List.not_mem_nil
          · exact fun hByte => feedByte_notMem_of_ne hChar (List.mem_of_mem_take hByte)
        rw [if_pos hInside, List.take_append_of_le_length (by
          rw [String.length_utf8EncodeChar]
          omega), ofBytes_of_notMem hFeed, hPart]
        simp [add]
      · have hTake : (String.utf8EncodeChar c ++ utf8Bytes text).take count =
            String.utf8EncodeChar c ++ (utf8Bytes text).take (count - c.utf8Size) := by
          rw [List.take_append, String.length_utf8EncodeChar, List.take_of_length_le (by
            rw [String.length_utf8EncodeChar]
            omega)]
        rw [if_neg hInside, hTake, ofBytes_append, ← add_assoc, ← step_eq_add]
        exact ih (p.step c.utf8Size c) (count - c.utf8Size)

end Point

/-- The point of a byte offset is that of the bytes before it. -/
theorem bytePointAt_eq_ofBytes (text : Text) (offset : Nat) :
    bytePointAt text offset = Point.ofBytes ((utf8Bytes text).take offset) := by
  rw [bytePointAt, Point.afterBytes_eq_add, Point.origin_add]

-- The second byte of the letter is in the third column of its row.
example : bytePointAt ['a', '\n', 'b', 'é'] 4 = ⟨1, 2⟩ := by decide

/-- What comes later does not matter to the point of an offset. -/
theorem bytePointAt_append_of_le {first : Text} {offset : Nat} (h : offset ≤ byteLength first)
    (second : Text) : bytePointAt (first ++ second) offset = bytePointAt first offset := by
  rw [bytePointAt_eq_ofBytes, bytePointAt_eq_ofBytes, utf8Bytes_append,
    List.take_append_of_le_length (by rwa [length_utf8Bytes])]

/-- A later point is an earlier one and, counted from it, that of the text between. -/
theorem bytePointAt_append_add (first second : Text) (offset : Nat) :
    bytePointAt (first ++ second) (byteLength first + offset) =
      (bytePointAt (first ++ second) (byteLength first)).add (bytePointAt second offset) := by
  simp only [bytePointAt_eq_ofBytes, utf8Bytes_append, ← length_utf8Bytes, List.take_left]
  rw [List.take_length_add_append, Point.ofBytes_append]

theorem Point.precedes_add (p q : Point) : p.Precedes (p.add q) := by
  by_cases hRow : q.row = 0
  · exact Or.inr ⟨by simp [add, hRow], by simp [add, hRow]⟩
  · exact Or.inl (by simp only [add]; omega)

namespace ChangedRegion

variable {old new : Text}

/-- Where a change moves a point that does not come before the end of its region: by as many
rows as that end, and by as many columns on the row of that end only. -/
def shift (region : ChangedRegion) (p : Point) : Point where
  row := p.row - region.oldEndPoint.row + region.newEndPoint.row
  column :=
    if p.row = region.oldEndPoint.row then
      p.column - region.oldEndPoint.column + region.newEndPoint.column
    else p.column

theorem shift_add (region : ChangedRegion) (p : Point) :
    region.shift (region.oldEndPoint.add p) = region.newEndPoint.add p := by
  by_cases hRow : p.row = 0
  · simp [shift, Point.add, hRow, Nat.add_comm]
  · simp [shift, Point.add, hRow, Nat.add_comm]

/-- A change leaves the points up to its region where they are.  The points from the end of
the region on come after that end, and move as it says. -/
theorem points_move_with_region (h : old ≠ new) :
    ∃ region, between old new = .ok (some region) ∧
      (region.oldEndPoint = bytePointAt old region.oldEnd ∧
        region.newEndPoint = bytePointAt new region.newEnd) ∧
      (∀ offset ≤ region.start, bytePointAt new offset = bytePointAt old offset) ∧
      ∀ offset, region.oldEnd ≤ offset →
        region.oldEndPoint.Precedes (bytePointAt old offset) ∧
        bytePointAt new (offset - region.oldEnd + region.newEnd) =
          region.shift (bytePointAt old offset) := by
  obtain ⟨region, hRegion, hAround, -, hOldEnd, hNewEnd⟩ := exists_isAround_of_ne h
  have hOld := Difference.head_removed_tail old new
  have hNew := Difference.head_added_tail old new
  generalize Difference.between old new = difference at hAround hOld hNew
  obtain ⟨head, removed, added, tail⟩ := difference
  dsimp only at hAround hOld hNew
  refine ⟨region, hRegion, ⟨hOldEnd, hNewEnd⟩, ?_, ?_⟩
  · intro offset hOffset
    rw [hAround.start] at hOffset
    rw [← hOld, ← hNew, bytePointAt_append_of_le hOffset, bytePointAt_append_of_le hOffset]
  · intro offset hOffset
    obtain ⟨count, rfl⟩ : ∃ count, offset = region.oldEnd + count :=
      ⟨offset - region.oldEnd, by omega⟩
    -- Both points are that of the same place in the tail, counted from the ends.
    rw [← List.append_assoc] at hOld hNew
    have hOldPoint : bytePointAt old (region.oldEnd + count) =
        region.oldEndPoint.add (bytePointAt tail count) := by
      rw [hOldEnd, hAround.oldEnd, ← hOld]
      exact bytePointAt_append_add _ tail count
    have hNewPoint : bytePointAt new (region.newEnd + count) =
        region.newEndPoint.add (bytePointAt tail count) := by
      rw [hNewEnd, hAround.newEnd, ← hNew]
      exact bytePointAt_append_add _ tail count
    rw [Nat.add_sub_cancel_left, Nat.add_comm count, hOldPoint, hNewPoint, shift_add]
    exact ⟨Point.precedes_add _ _, rfl⟩

/-- Where two lines become one, the end of the second goes up a row and on to the end of
that line. -/
theorem joined_line_moves_up :
    (['a', 'b', '\n', 'é', 'd'] : Text) ≠ ['a', 'b', 'é', 'd'] ∧
      ∃ region, between ['a', 'b', '\n', 'é', 'd'] ['a', 'b', 'é', 'd'] = .ok (some region) ∧
        region.oldEnd ≤ 6 ∧ bytePointAt ['a', 'b', '\n', 'é', 'd'] 6 = ⟨1, 3⟩ ∧
        region.shift ⟨1, 3⟩ = ⟨0, 5⟩ ∧
        bytePointAt ['a', 'b', 'é', 'd'] (6 - region.oldEnd + region.newEnd) =
          region.shift ⟨1, 3⟩ := by
  have hDiffer : (['a', 'b', '\n', 'é', 'd'] : Text) ≠ ['a', 'b', 'é', 'd'] := by decide
  obtain ⟨region, hRegion, -, -, hMoves⟩ := points_move_with_region hDiffer
  have hComputed : between ['a', 'b', '\n', 'é', 'd'] ['a', 'b', 'é', 'd'] =
      .ok (some ⟨2, 3, 2, ⟨0, 2⟩, ⟨1, 0⟩, ⟨0, 2⟩⟩) := by decide
  rw [hComputed] at hRegion
  cases hRegion
  exact ⟨hDiffer, _, hComputed, by decide, by decide, by decide, (hMoves 6 (by decide)).2⟩

end ChangedRegion

end ModalEditor
