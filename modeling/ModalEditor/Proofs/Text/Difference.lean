import ModalEditor.Text.Difference

namespace ModalEditor

/-!
# A difference takes both texts apart

What two texts share at their ends, and what stands between in each, put
together again are the two texts.  No text that both start with is longer than the
shared head, and no text that both end with after it is longer than the shared
tail.  Taking a shorter head never leaves room for a tail so much longer that less
is left between.
-/

/-- A text that both texts start with is at the start of what they share. -/
theorem prefix_commonHead {text first second : Text} (hFirst : text <+: first)
    (hSecond : text <+: second) : text <+: commonHead first second := by
  induction text generalizing first second with
  | nil => exact List.nil_prefix
  | cons c text ih =>
      obtain ⟨firstRest, rfl⟩ := hFirst
      obtain ⟨secondRest, rfl⟩ := hSecond
      rw [List.cons_append, List.cons_append, commonHead, if_pos rfl]
      exact List.cons_prefix_cons.mpr
        ⟨rfl, ih (List.prefix_append text firstRest) (List.prefix_append text secondRest)⟩

namespace Difference

/-- What two texts share at the end, found from behind, is at the end of both. -/
theorem reverse_commonHead_suffix_left (first second : Text) :
    (commonHead first.reverse second.reverse).reverse <:+ first := by
  have h := List.reverse_suffix.mpr (commonHead_prefix_left first.reverse second.reverse)
  rwa [List.reverse_reverse] at h

theorem reverse_commonHead_suffix_right (first second : Text) :
    (commonHead first.reverse second.reverse).reverse <:+ second := by
  have h := List.reverse_suffix.mpr (commonHead_prefix_right first.reverse second.reverse)
  rwa [List.reverse_reverse] at h

-- Read backwards, the rests start with the text that both end with.
theorem suffix_tail {text old new : Text}
    (hOld : text <:+ old.drop (between old new).head.length)
    (hNew : text <:+ new.drop (between old new).head.length) :
    text <:+ (between old new).tail := by
  have h := prefix_commonHead (List.reverse_prefix.mpr hOld) (List.reverse_prefix.mpr hNew)
  have hTail := List.reverse_suffix.mpr h
  rwa [List.reverse_reverse] at hTail

theorem head_removed_tail (old new : Text) :
    (between old new).head ++ ((between old new).removed ++ (between old new).tail) = old := by
  have hTail := List.suffix_iff_eq_append.mp (reverse_commonHead_suffix_left
    (old.drop (commonHead old new).length) (new.drop (commonHead old new).length))
  simp only [between, hTail]
  exact List.prefix_iff_eq_append.mp (commonHead_prefix_left old new)

theorem head_added_tail (old new : Text) :
    (between old new).head ++ ((between old new).added ++ (between old new).tail) = new := by
  have hTail := List.suffix_iff_eq_append.mp (reverse_commonHead_suffix_right
    (old.drop (commonHead old new).length) (new.drop (commonHead old new).length))
  simp only [between, hTail]
  exact List.prefix_iff_eq_append.mp (commonHead_prefix_right old new)

/-! ## No other way takes more from the ends -/

theorem drop_head_old (old new : Text) :
    old.drop (between old new).head.length = (between old new).removed ++ (between old new).tail := by
  have hDrop := congrArg (List.drop (between old new).head.length) (head_removed_tail old new)
  rw [List.drop_left] at hDrop
  exact hDrop.symm

theorem drop_head_new (old new : Text) :
    new.drop (between old new).head.length = (between old new).added ++ (between old new).tail := by
  have hDrop := congrArg (List.drop (between old new).head.length) (head_added_tail old new)
  rw [List.drop_left] at hDrop
  exact hDrop.symm

/-- Where all that is left of the old text ends what is left of the new one, nothing was
removed. -/
theorem removed_eq_nil_of_suffix {old new : Text}
    (h : old.drop (between old new).head.length <:+ new.drop (between old new).head.length) :
    (between old new).removed = [] := by
  have hTail := (suffix_tail List.suffix_rfl h).length_le
  rw [drop_head_old, List.length_append] at hTail
  exact List.length_eq_zero_iff.mp (by omega)

theorem added_eq_nil_of_suffix {old new : Text}
    (h : new.drop (between old new).head.length <:+ old.drop (between old new).head.length) :
    (between old new).added = [] := by
  have hTail := (suffix_tail h List.suffix_rfl).length_le
  rw [drop_head_new, List.length_append] at hTail
  exact List.length_eq_zero_iff.mp (by omega)

/-- A text that both texts end with is at the end of the shared tail, unless the shared head
already took part of it.  In that case all that is left of one of the two texts is shared. -/
theorem suffix_tail_or_eq_nil {text old new : Text} (hOld : text <:+ old) (hNew : text <:+ new) :
    text <:+ (between old new).tail ∨ (between old new).removed = [] ∨
      (between old new).added = [] := by
  have hOldRest := List.drop_suffix (between old new).head.length old
  have hNewRest := List.drop_suffix (between old new).head.length new
  rcases List.suffix_or_suffix_of_suffix hOld hOldRest with hFits | hShort
  · rcases List.suffix_or_suffix_of_suffix hNew hNewRest with hAlso | hShort
    · exact Or.inl (suffix_tail hFits hAlso)
    · -- What is left of the new text ends the old one as well.
      rcases List.suffix_or_suffix_of_suffix (hShort.trans hOld) hOldRest with hAdded | hRemoved
      · exact Or.inr (Or.inr (added_eq_nil_of_suffix hAdded))
      · exact Or.inr (Or.inl (removed_eq_nil_of_suffix hRemoved))
  · rcases List.suffix_or_suffix_of_suffix (hShort.trans hNew) hNewRest with hRemoved | hAdded
    · exact Or.inr (Or.inl (removed_eq_nil_of_suffix hRemoved))
    · exact Or.inr (Or.inr (added_eq_nil_of_suffix hAdded))

end Difference

end ModalEditor
