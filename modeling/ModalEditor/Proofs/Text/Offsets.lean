import ModalEditor.Proofs.Text.PointShift

namespace ModalEditor

/-!
# What comes before a place

The characters before a byte at which one starts are those of the text before it, and the row
of a place is the number of line feeds before it, whether places are counted in characters or
in bytes.
-/

theorem charOffset_append_byteLength (before after : Text) :
    charOffset (before ++ after) (byteLength before) = before.length := by
  induction before with
  | nil => cases after <;> rfl
  | cons c before ih =>
      have hSize := c.utf8Size_pos
      rw [List.cons_append, charOffset, byteLength_cons, if_neg (by omega),
        Nat.add_sub_cancel_left, ih, List.length_cons, Nat.add_comm]

/-! ## Rows -/

theorem pointAt_row (text : Text) (offset : Nat) :
    (pointAt text offset).row = (text.take offset).count lineFeed := by
  have hFold (text : Text) (p : Point) :
      (text.foldl (Point.step 1) p).row = p.row + text.count lineFeed := by
    induction text generalizing p with
    | nil => rfl
    | cons c text ih =>
        rw [List.foldl_cons, ih, Point.step, List.count_cons]
        by_cases hFeed : c = lineFeed
        · simp [hFeed, Nat.add_assoc, Nat.add_comm 1]
        · simp [hFeed]
  rw [pointAt, hFold]
  exact Nat.zero_add _

theorem count_feedByte_utf8Bytes (text : Text) :
    (utf8Bytes text).count feedByte = text.count lineFeed := by
  induction text with
  | nil => rfl
  | cons c text ih =>
      rw [utf8Bytes_cons, List.count_append, ih, List.count_cons]
      by_cases hFeed : c = lineFeed
      · subst hFeed
        rw [show (String.utf8EncodeChar lineFeed).count feedByte = 1 from rfl]
        simp [Nat.add_comm]
      · rw [List.count_eq_zero_of_not_mem (feedByte_notMem_of_ne hFeed)]
        simp [hFeed]

theorem bytePointAt_row_append (before after : Text) :
    (bytePointAt (before ++ after) (byteLength before)).row = before.count lineFeed := by
  rw [bytePointAt_eq_ofBytes, take_utf8Bytes_append]
  exact count_feedByte_utf8Bytes before

theorem bytePointAt_row_le {first second : Nat} (h : first ≤ second) (text : Text) :
    (bytePointAt text first).row ≤ (bytePointAt text second).row := by
  rw [bytePointAt_eq_ofBytes, bytePointAt_eq_ofBytes]
  exact (List.take_prefix_take_left h).sublist.count_le feedByte

end ModalEditor
