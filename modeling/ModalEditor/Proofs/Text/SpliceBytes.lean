import ModalEditor.Proofs.Text.Bytes
import ModalEditor.Proofs.Text.Splice

namespace ModalEditor

/-!
# Splices in bytes

A splice names its place in bytes, so it can be applied to the UTF-8 form of a text without
a look at the characters.  Then it has to be checked that the bytes to be deleted start and
end where characters do and that they are those of the deleted text.  This accepts the same
splices and leads to the same texts.

A splice and its inverse ask for the same of two texts that are the result of each other.
So a list of splices leads from one text to another exactly if the inverses in reverse order
lead back, whatever the splices are and wherever they come from.
-/

/-- Whether an offset lies at the end of some bytes or before one that can start a
character. -/
def isByteBoundary (bytes : List UInt8) (offset : Nat) : Bool :=
  offset == bytes.length || bytes[offset]?.any fun byte => decide byte.IsUTF8FirstByte

theorem isByteBoundary_utf8Bytes (text : Text) (offset : Nat) :
    isByteBoundary (utf8Bytes text) offset = isBoundary text offset := by
  rw [isByteBoundary, isBoundary, length_utf8Bytes]

namespace Splice

/-- The byte after the last that a splice deletes. -/
def stop (splice : Splice) : Nat :=
  splice.position + byteLength splice.deleted

/-- Whether some bytes hold the deleted text at the position of a splice, cut where
characters end. -/
def FitsBytes (splice : Splice) (bytes : List UInt8) : Prop :=
  isByteBoundary bytes splice.position = true ∧ isByteBoundary bytes splice.stop = true ∧
    (bytes.take splice.stop).drop splice.position = utf8Bytes splice.deleted

instance (splice : Splice) (bytes : List UInt8) : Decidable (splice.FitsBytes bytes) :=
  inferInstanceAs (Decidable (_ ∧ _ ∧ _))

/-- Applies a splice to the bytes of a text. -/
def applyBytes (splice : Splice) (bytes : List UInt8) : Option (List UInt8) :=
  if splice.FitsBytes bytes then
    some (bytes.take splice.position ++ utf8Bytes splice.inserted ++ bytes.drop splice.stop)
  else none

/-- Applies splices to bytes in order, stopping at the first that does not fit. -/
def applyAllBytes (bytes : List UInt8) : List Splice → Option (List UInt8)
  | [] => some bytes
  | splice :: splices => (splice.applyBytes bytes).bind fun next => applyAllBytes next splices

variable {splice : Splice} {old new text : Text}

/-- The bytes of a text hold the deleted text exactly if its characters do. -/
theorem fitsBytes_iff :
    splice.FitsBytes (utf8Bytes text) ↔
      ∃ before after, text = before ++ (splice.deleted ++ after) ∧
        byteLength before = splice.position := by
  simp only [FitsBytes, isByteBoundary_utf8Bytes, isBoundary_iff]
  constructor
  · rintro ⟨⟨before, rest, rfl, hBefore⟩, ⟨start, after, hText, hStop⟩, hDeleted⟩
    -- The cut at the position comes first, so what lies between the two is a text.
    have hOrder : byteLength before ≤ byteLength start := by
      rw [hBefore, hStop, stop]
      exact Nat.le_add_right _ _
    obtain ⟨middle, rfl⟩ := prefix_of_byteLength_le
      (List.prefix_append before rest) ⟨after, hText.symm⟩ hOrder
    have hMiddle : utf8Bytes middle = utf8Bytes splice.deleted := by
      rw [← hDeleted, hText, ← hStop, ← hBefore, take_utf8Bytes_append, drop_utf8Bytes_append]
    refine ⟨before, after, ?_, hBefore⟩
    rw [hText, utf8Bytes_injective hMiddle, List.append_assoc]
  · rintro ⟨before, after, rfl, hBefore⟩
    have hStop : byteLength (before ++ splice.deleted) = splice.stop := by
      rw [byteLength_append, hBefore, stop]
    refine ⟨⟨before, _, rfl, hBefore⟩, ⟨before ++ splice.deleted, after, ?_, hStop⟩, ?_⟩
    · rw [List.append_assoc]
    · rw [← List.append_assoc, ← hStop, take_utf8Bytes_append, ← hBefore, drop_utf8Bytes_append]

/-- Applying a splice in bytes is applying it. -/
theorem applyBytes_utf8Bytes (splice : Splice) (text : Text) :
    splice.applyBytes (utf8Bytes text) = (splice.apply text).map utf8Bytes := by
  rw [applyBytes]
  by_cases hFits : splice.FitsBytes (utf8Bytes text)
  · obtain ⟨before, after, rfl, hBefore⟩ := fitsBytes_iff.mp hFits
    have hStop : byteLength (before ++ splice.deleted) = splice.stop := by
      rw [byteLength_append, hBefore, stop]
    have hApply : splice.apply (before ++ (splice.deleted ++ after)) =
        some (before ++ (splice.inserted ++ after)) :=
      apply_eq_some_iff.mpr ⟨before, after, rfl, hBefore, rfl⟩
    have hAfter : (utf8Bytes (before ++ (splice.deleted ++ after))).drop splice.stop =
        utf8Bytes after := by
      rw [← List.append_assoc, ← hStop, drop_utf8Bytes_append]
    rw [if_pos hFits, hApply, hAfter, ← hBefore, take_utf8Bytes_append]
    simp
  · have hNone : splice.apply text = none := by
      rw [Option.eq_none_iff_forall_ne_some]
      intro next hNext
      obtain ⟨before, after, hText, hBefore, -⟩ := apply_eq_some_iff.mp hNext
      exact hFits (fitsBytes_iff.mpr ⟨before, after, hText, hBefore⟩)
    rw [if_neg hFits, hNone]
    rfl

theorem applyAllBytes_utf8Bytes (text : Text) (splices : List Splice) :
    applyAllBytes (utf8Bytes text) splices = (applyAll text splices).map utf8Bytes := by
  induction splices generalizing text with
  | nil => rfl
  | cons splice splices ih =>
      rw [applyAllBytes, applyAll, applyBytes_utf8Bytes]
      cases splice.apply text with
      | none => rfl
      | some next => exact ih next

@[simp]
theorem inverse_inverse (splice : Splice) : splice.inverse.inverse = splice := rfl

theorem reverse_inverse_reverse_inverse (splices : List Splice) :
    (splices.reverse.map inverse).reverse.map inverse = splices := by
  have hTwice : inverse ∘ inverse = id := funext inverse_inverse
  rw [← List.map_reverse, List.reverse_reverse, List.map_map, hTwice, List.map_id]

/-- Splices lead from one text to another exactly if their inverses in reverse order lead
back.  It makes no difference whether they are applied in characters or in bytes. -/
theorem splices_lead_on_iff_inverses_lead_back (old : Text) (splices : List Splice) :
    applyAllBytes (utf8Bytes old) splices = (applyAll old splices).map utf8Bytes ∧
      ∀ new, applyAll old splices = some new ↔
        applyAll new (splices.reverse.map inverse) = some old := by
  refine ⟨applyAllBytes_utf8Bytes old splices, fun new => ⟨applyAll_reverse_inverse, ?_⟩⟩
  intro hBack
  have hOn := applyAll_reverse_inverse hBack
  rwa [reverse_inverse_reverse_inverse] at hOn

end Splice

end ModalEditor
