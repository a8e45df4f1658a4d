import ModalEditor.Proofs.Text.Difference
import ModalEditor.Text.Splice

namespace ModalEditor

/-!
# What splices do

A splice applies exactly to the texts that hold what it deletes at its place.
The splice between two texts turns the old one into the new one, and its inverse
turns the new one back.  A list of splices is taken back by the inverses in
reverse order.
-/

/-- A text is cut after a number of bytes exactly where a beginning of it has
that many. -/
theorem splitAtByte?_eq_some_iff {text before after : Text} {bytes : Nat} :
    splitAtByte? text bytes = some (before, after) ↔
      text = before ++ after ∧ byteLength before = bytes := by
  induction text generalizing bytes before with
  | nil =>
      cases bytes with
      | zero => cases before <;> simp [splitAtByte?, eq_comm]
      | succ bytes => cases before <;> simp [splitAtByte?]
  | cons c rest ih =>
      -- No character is empty, so a cut at zero takes none and any other takes one.
      have hSize := c.utf8Size_pos
      cases bytes with
      | zero =>
          cases before with
          | nil => simp [splitAtByte?, eq_comm]
          | cons d before =>
              have hOther := d.utf8Size_pos
              simp only [splitAtByte?, byteLength_cons]
              constructor
              · rintro ⟨⟩
              · rintro ⟨-, hBytes⟩
                omega
      | succ bytes =>
          rw [splitAtByte?]
          by_cases hShort : bytes + 1 < c.utf8Size
          · rw [if_pos hShort]
            constructor
            · rintro ⟨⟩
            · rintro ⟨hText, hBytes⟩
              cases before with
              | nil => simp at hBytes
              | cons d before =>
                  obtain ⟨rfl, -⟩ := List.cons.inj hText
                  rw [byteLength_cons] at hBytes
                  omega
          · rw [if_neg hShort, Option.map_eq_some_iff]
            constructor
            · rintro ⟨⟨shorter, left⟩, hSplit, hPair⟩
              cases hPair
              obtain ⟨rfl, hBytes⟩ := ih.mp hSplit
              refine ⟨rfl, ?_⟩
              rw [byteLength_cons]
              omega
            · rintro ⟨hText, hBytes⟩
              cases before with
              | nil => simp at hBytes
              | cons d before =>
                  obtain ⟨rfl, rfl⟩ := List.cons.inj hText
                  rw [byteLength_cons] at hBytes
                  exact ⟨(before, after), ih.mpr ⟨rfl, by omega⟩, rfl⟩

namespace Splice

/-- A splice applies exactly to a text with the deleted text at its place. -/
theorem apply_eq_some_iff {splice : Splice} {old new : Text} :
    splice.apply old = some new ↔
      ∃ before after, old = before ++ (splice.deleted ++ after) ∧
        byteLength before = splice.position ∧
        new = before ++ (splice.inserted ++ after) := by
  constructor
  · intro h
    rw [apply] at h
    cases hSplit : splitAtByte? old splice.position with
    | none => simp [hSplit] at h
    | some parts =>
        obtain ⟨before, rest⟩ := parts
        obtain ⟨rfl, hBytes⟩ := splitAtByte?_eq_some_iff.mp hSplit
        simp only [hSplit] at h
        split at h
        next hHolds =>
          obtain ⟨after, rfl⟩ := List.isPrefixOf_iff_prefix.mp hHolds
          refine ⟨before, after, rfl, hBytes, ?_⟩
          simpa [eq_comm] using h
        next => cases h
  · rintro ⟨before, after, rfl, hBytes, rfl⟩
    have hSplit := splitAtByte?_eq_some_iff.mpr
      ⟨(rfl : before ++ (splice.deleted ++ after) = _), hBytes⟩
    simp [apply, hSplit, List.isPrefixOf_iff_prefix]

/-- What a splice did, its inverse takes back. -/
theorem apply_inverse {splice : Splice} {old new : Text} (h : splice.apply old = some new) :
    splice.inverse.apply new = some old := by
  obtain ⟨before, after, hOld, hBytes, hNew⟩ := apply_eq_some_iff.mp h
  exact apply_eq_some_iff.mpr ⟨before, after, hNew, hBytes, hOld⟩

theorem between_eq_none_iff {old new : Text} : between old new = none ↔ old = new := by
  rw [between]
  split <;> simp_all

/-- The splice between two texts leads from one to the other. -/
theorem apply_between {old new : Text} {splice : Splice} (h : between old new = some splice) :
    splice.apply old = some new := by
  rw [between] at h
  split at h
  next => cases h
  next =>
    cases h
    exact apply_eq_some_iff.mpr
      ⟨(Difference.between old new).head, (Difference.between old new).tail,
        (Difference.head_removed_tail old new).symm, rfl,
        (Difference.head_added_tail old new).symm⟩

theorem applyAll_append (text : Text) (first second : List Splice) :
    applyAll text (first ++ second) = (applyAll text first).bind (applyAll · second) := by
  induction first generalizing text with
  | nil => rfl
  | cons splice first ih =>
      rw [List.cons_append, applyAll, applyAll, Option.bind_assoc]
      congr 1
      funext next
      exact ih next

@[simp]
theorem applyAll_singleton (text : Text) (splice : Splice) :
    applyAll text [splice] = splice.apply text := by
  simp [applyAll]

/-- What splices did in order, their inverses take back in reverse order. -/
theorem applyAll_reverse_inverse {splices : List Splice} {old new : Text}
    (h : applyAll old splices = some new) :
    applyAll new (splices.reverse.map inverse) = some old := by
  induction splices generalizing old with
  | nil =>
      rw [applyAll, Option.some.injEq] at h
      rw [h]
      rfl
  | cons splice splices ih =>
      -- The inverse of the first splice comes last.
      obtain ⟨next, hFirst, hRest⟩ := Option.bind_eq_some_iff.mp h
      rw [List.reverse_cons, List.map_append, applyAll_append, ih hRest]
      exact (applyAll_singleton next splice.inverse).trans (apply_inverse hFirst)

end Splice

end ModalEditor
