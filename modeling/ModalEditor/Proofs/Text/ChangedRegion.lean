import Mathlib.Data.Nat.Find
import ModalEditor.Proofs.Text.Bytes
import ModalEditor.Proofs.Text.Difference
import ModalEditor.Proofs.Text.Splice
import ModalEditor.Text.ChangedRegion

namespace ModalEditor

/-!
# The changed region, found in the bytes

What two texts share at their ends can be found in their bytes: count the bytes
that agree, then go back to where a character ends in both texts.  That yields the
characters that both texts share, so no region starts or ends inside a character,
the two shared parts never overlap, and putting the new bytes of the region in the
place of the old ones makes the new text.  No other way to share text at both ends leaves
a smaller region.
-/

/-- Number of bytes that two lists have in common at their starts. -/
def agreement (first second : List UInt8) : Nat :=
  ((first.zip second).takeWhile fun (a, b) => a == b).length

theorem agreement_cons_cons (a b : UInt8) (first second : List UInt8) :
    agreement (a :: first) (b :: second) = if a = b then agreement first second + 1 else 0 := by
  by_cases h : a = b <;> simp [agreement, h]

theorem le_agreement_iff {first second : List UInt8} {n : Nat} :
    n ≤ agreement first second ↔
      n ≤ first.length ∧ n ≤ second.length ∧ first.take n = second.take n := by
  induction first generalizing second n with
  | nil => cases n <;> simp [agreement]
  | cons a first ih =>
      cases second with
      | nil => cases n <;> simp [agreement]
      | cons b second =>
          cases n with
          | zero => simp
          | succ n =>
              rw [agreement_cons_cons]
              by_cases hSame : a = b
              · simp only [hSame, if_true, Nat.succ_le_succ_iff, ih, List.length_cons,
                  List.take_succ_cons, List.cons.injEq, true_and]
              · simp [hSame]

/-- Bytes that two texts share at their starts, back to where a character ends in
both. -/
def sharedHeadBytes (old new : Text) : Nat :=
  Nat.findGreatest (fun n => isBoundary old n = true ∧ isBoundary new n = true)
    (agreement (utf8Bytes old) (utf8Bytes new))

/-- Bytes that two texts share at their ends, besides those they share at their
starts, on to where a character starts in both. -/
def sharedTailBytes (old new : Text) : Nat :=
  Nat.findGreatest
    (fun n => isBoundary old (byteLength old - n) = true ∧
      isBoundary new (byteLength new - n) = true)
    (min (min (byteLength old) (byteLength new) - sharedHeadBytes old new)
      (agreement (utf8Bytes old).reverse (utf8Bytes new).reverse))

namespace Difference

/-- The shared head is as long as the bytes say. -/
theorem byteLength_head (old new : Text) :
    byteLength (between old new).head = sharedHeadBytes old new := by
  have hOld := head_removed_tail old new
  have hNew := head_added_tail old new
  have hOldBytes := congrArg byteLength hOld
  have hNewBytes := congrArg byteLength hNew
  rw [byteLength_append] at hOldBytes hNewBytes
  symm
  rw [sharedHeadBytes, Nat.findGreatest_eq_iff]
  refine ⟨?_, fun _ => ⟨isBoundary_of_append hOld.symm, isBoundary_of_append hNew.symm⟩, ?_⟩
  · have hOldHead := hOld ▸ take_utf8Bytes_append (between old new).head _
    have hNewHead := hNew ▸ take_utf8Bytes_append (between old new).head _
    rw [le_agreement_iff, length_utf8Bytes, length_utf8Bytes]
    exact ⟨by omega, by omega, hOldHead.trans hNewHead.symm⟩
  · -- What stands before a later boundary has the same bytes in both texts, so it is
    -- the same text and at the start of the shared head.
    rintro n hMore hAgree ⟨hOldBoundary, hNewBoundary⟩
    obtain ⟨first, firstRest, rfl, rfl⟩ := isBoundary_iff.mp hOldBoundary
    obtain ⟨second, secondRest, rfl, hLength⟩ := isBoundary_iff.mp hNewBoundary
    obtain ⟨-, -, hTake⟩ := le_agreement_iff.mp hAgree
    rw [take_utf8Bytes_append, ← hLength, take_utf8Bytes_append] at hTake
    obtain rfl := utf8Bytes_injective hTake
    have hShared : first <+: (between (first ++ firstRest) (first ++ secondRest)).head :=
      prefix_commonHead (List.prefix_append first firstRest) (List.prefix_append first secondRest)
    have hFewer := byteLength_le_of_prefix hShared
    omega

-- The letters share their first byte, but no character ends there.
example : agreement (utf8Bytes ['x', 'é']) (utf8Bytes ['x', 'è']) = 2 ∧
    sharedHeadBytes ['x', 'é'] ['x', 'è'] = 1 := by decide

/-- The shared tail is as long as the bytes say. -/
theorem byteLength_tail (old new : Text) :
    byteLength (between old new).tail = sharedTailBytes old new := by
  have hOld := (List.append_assoc _ _ _).trans (head_removed_tail old new)
  have hNew := (List.append_assoc _ _ _).trans (head_added_tail old new)
  have hOldBytes := congrArg byteLength hOld
  have hNewBytes := congrArg byteLength hNew
  simp only [byteLength_append] at hOldBytes hNewBytes
  symm
  rw [sharedTailBytes, ← byteLength_head, Nat.findGreatest_eq_iff]
  refine ⟨?_, fun _ => ⟨isBoundary_sub_of_append hOld.symm, isBoundary_sub_of_append hNew.symm⟩,
    ?_⟩
  · have hOldTail := hOld ▸ take_reverse_utf8Bytes_append _ (between old new).tail
    have hNewTail := hNew ▸ take_reverse_utf8Bytes_append _ (between old new).tail
    rw [Nat.le_min, le_agreement_iff, List.length_reverse, List.length_reverse, length_utf8Bytes,
      length_utf8Bytes]
    exact ⟨by omega, by omega, by omega, hOldTail.trans hNewTail.symm⟩
  · -- What stands after an earlier boundary past the shared head has the same bytes in
    -- both texts, so it is the same text and at the end of the shared tail.
    rintro n hMore hBound ⟨hOldBoundary, hNewBoundary⟩
    obtain ⟨hRoom, hAgree⟩ := Nat.le_min.mp hBound
    obtain ⟨first, firstRest, rfl, hFirst⟩ := isBoundary_iff.mp hOldBoundary
    obtain ⟨second, secondRest, rfl, hSecond⟩ := isBoundary_iff.mp hNewBoundary
    obtain ⟨-, -, hTake⟩ := le_agreement_iff.mp hAgree
    rw [byteLength_append] at hFirst hSecond hRoom
    rw [byteLength_append] at hRoom
    obtain rfl : byteLength firstRest = n := by omega
    have hSame : byteLength secondRest = byteLength firstRest := by omega
    rw [take_reverse_utf8Bytes_append, ← hSame, take_reverse_utf8Bytes_append] at hTake
    obtain rfl := utf8Bytes_injective (List.reverse_inj.mp hTake)
    have hShared : firstRest <:+ (between (first ++ firstRest) (second ++ firstRest)).tail :=
      suffix_tail (suffix_drop_of_byteLength_le (commonHead_prefix_left _ _) (by omega))
        (suffix_drop_of_byteLength_le (commonHead_prefix_right _ _) (by omega))
    have hFewer := byteLength_le_of_suffix hShared
    omega

theorem byteLength_head_removed (old new : Text) :
    byteLength ((between old new).head ++ (between old new).removed) =
      byteLength old - sharedTailBytes old new := by
  have hOld := congrArg byteLength (head_removed_tail old new)
  simp only [byteLength_append, byteLength_tail] at hOld ⊢
  omega

theorem byteLength_head_added (old new : Text) :
    byteLength ((between old new).head ++ (between old new).added) =
      byteLength new - sharedTailBytes old new := by
  have hNew := congrArg byteLength (head_added_tail old new)
  simp only [byteLength_append, byteLength_tail] at hNew ⊢
  omega

/-- However two texts are written with a common start and a common end, their difference
removes and adds no more bytes than what stands between. -/
theorem byteLength_removed_le_and_added_le {old new first removed added last : Text}
    (hOld : old = first ++ (removed ++ last)) (hNew : new = first ++ (added ++ last)) :
    byteLength (between old new).removed ≤ byteLength removed ∧
      byteLength (between old new).added ≤ byteLength added := by
  have hHead := byteLength_le_of_prefix
    (prefix_commonHead ⟨removed ++ last, hOld.symm⟩ ⟨added ++ last, hNew.symm⟩)
  have hOldBytes := congrArg byteLength ((head_removed_tail old new).trans hOld)
  have hNewBytes := congrArg byteLength ((head_added_tail old new).trans hNew)
  simp only [byteLength_append] at hOldBytes hNewBytes
  change byteLength first ≤ byteLength (between old new).head at hHead
  have hOldLast : last <:+ old := ⟨first ++ removed, by rw [hOld, List.append_assoc]⟩
  have hNewLast : last <:+ new := ⟨first ++ added, by rw [hNew, List.append_assoc]⟩
  rcases suffix_tail_or_eq_nil hOldLast hNewLast with hTail | hRemoved | hAdded
  · have hShared := byteLength_le_of_suffix hTail
    omega
  -- All of one text is shared, so the other has only the difference of the lengths left.
  · rw [hRemoved, byteLength_nil] at hOldBytes ⊢
    omega
  · rw [hAdded, byteLength_nil] at hNewBytes ⊢
    omega

end Difference

/-- The bytes of a text from one offset to another. -/
def byteSlice (text : Text) (start stop : Nat) : List UInt8 :=
  ((utf8Bytes text).take stop).drop start

theorem byteSlice_append (before middle after : Text) :
    byteSlice (before ++ (middle ++ after)) (byteLength before) (byteLength (before ++ middle)) =
      utf8Bytes middle := by
  unfold byteSlice
  rw [← List.append_assoc, take_utf8Bytes_append, drop_utf8Bytes_append]

/-- A splice replaces the bytes of a region. -/
structure Splice.Records (splice : Splice) (region : ChangedRegion) (old new : Text) : Prop where
  position : splice.position = region.start
  deleted : utf8Bytes splice.deleted = byteSlice old region.start region.oldEnd
  inserted : utf8Bytes splice.inserted = byteSlice new region.start region.newEnd

namespace ChangedRegion

/-- What a region promises about two texts: it lies in both, starts and ends where a
character does, and its bytes of the new text in the place of its bytes of the old
one make the new text. -/
structure IsExact (region : ChangedRegion) (old new : Text) : Prop where
  start_le_oldEnd : region.start ≤ region.oldEnd
  start_le_newEnd : region.start ≤ region.newEnd
  oldStart : isBoundary old region.start = true
  newStart : isBoundary new region.start = true
  oldStop : isBoundary old region.oldEnd = true
  newStop : isBoundary new region.newEnd = true
  replaced : (utf8Bytes old).take region.start ++ byteSlice new region.start region.newEnd ++
    (utf8Bytes old).drop region.oldEnd = utf8Bytes new

variable {region : ChangedRegion} {head removed added tail old new : Text}

/-- Whether a region is around what stands between a head and a tail of both texts. -/
structure IsAround (region : ChangedRegion) (head removed added : Text) : Prop where
  start : region.start = byteLength head
  oldEnd : region.oldEnd = byteLength (head ++ removed)
  newEnd : region.newEnd = byteLength (head ++ added)

theorem IsAround.isExact (h : region.IsAround head removed added) (tail : Text) :
    region.IsExact (head ++ (removed ++ tail)) (head ++ (added ++ tail)) := by
  constructor
  · rw [h.start, h.oldEnd, byteLength_append]
    exact Nat.le_add_right _ _
  · rw [h.start, h.newEnd, byteLength_append]
    exact Nat.le_add_right _ _
  · rw [h.start]
    exact isBoundary_of_append rfl
  · rw [h.start]
    exact isBoundary_of_append rfl
  · rw [h.oldEnd]
    exact isBoundary_of_append (List.append_assoc head removed tail).symm
  · rw [h.newEnd]
    exact isBoundary_of_append (List.append_assoc head added tail).symm
  · rw [h.start, h.oldEnd, h.newEnd, byteSlice_append, take_utf8Bytes_append,
      ← List.append_assoc head removed tail, drop_utf8Bytes_append, utf8Bytes_append,
      utf8Bytes_append, List.append_assoc]

theorem IsAround.records (h : region.IsAround head removed added) (tail : Text) :
    Splice.Records ⟨byteLength head, removed, added⟩ region (head ++ (removed ++ tail))
      (head ++ (added ++ tail)) := by
  constructor
  · exact h.start.symm
  · rw [h.start, h.oldEnd, byteSlice_append]
  · rw [h.start, h.newEnd, byteSlice_append]

/-- The region between two texts that differ is found in their bytes. -/
theorem between_of_ne (h : old ≠ new) :
    ∃ region, between old new = .ok (some region) ∧
      region.start = sharedHeadBytes old new ∧
      region.oldEnd = byteLength old - sharedTailBytes old new ∧
      region.newEnd = byteLength new - sharedTailBytes old new := by
  -- The head ends before the tail starts, so there is no error.
  have hOrder := Difference.byteLength_head_removed old new
  have hOrderNew := Difference.byteLength_head_added old new
  rw [byteLength_append, Difference.byteLength_head] at hOrder hOrderNew
  unfold between
  rw [if_neg h]
  dsimp only
  rw [Difference.byteLength_head, Difference.byteLength_tail, if_neg (by omega)]
  exact ⟨_, rfl, rfl, rfl, rfl⟩

theorem between_self (text : Text) : between text text = .ok none := by
  rw [between, if_pos rfl]

/-- Two texts have no region and no splice exactly if they are equal.  Otherwise the
region is found in the bytes and exact, the splice replaces its bytes and turns the
old text into the new one, and the inverse of the splice turns the new one back. -/
theorem region_and_splice_are_exact (old new : Text) :
    (old = new ∧ between old new = .ok none ∧ Splice.between old new = none) ∨
      (old ≠ new ∧ ∃ region splice,
        between old new = .ok (some region) ∧ Splice.between old new = some splice ∧
        region.start = sharedHeadBytes old new ∧
        region.oldEnd = byteLength old - sharedTailBytes old new ∧
        region.newEnd = byteLength new - sharedTailBytes old new ∧
        region.IsExact old new ∧ splice.Records region old new ∧
        splice.apply old = some new ∧ splice.inverse.apply new = some old) := by
  by_cases hSame : old = new
  · subst hSame
    exact Or.inl ⟨rfl, between_self old, Splice.between_eq_none_iff.mpr rfl⟩
  · obtain ⟨region, hRegion, hStart, hOldEnd, hNewEnd⟩ := between_of_ne hSame
    have hSplice : Splice.between old new = some ⟨byteLength (Difference.between old new).head,
        (Difference.between old new).removed, (Difference.between old new).added⟩ := if_neg hSame
    have hApply := Splice.apply_between hSplice
    have hAround : region.IsAround (Difference.between old new).head
        (Difference.between old new).removed (Difference.between old new).added :=
      ⟨hStart.trans (Difference.byteLength_head old new).symm,
        hOldEnd.trans (Difference.byteLength_head_removed old new).symm,
        hNewEnd.trans (Difference.byteLength_head_added old new).symm⟩
    have hExact := hAround.isExact (Difference.between old new).tail
    have hRecords := hAround.records (Difference.between old new).tail
    rw [Difference.head_removed_tail, Difference.head_added_tail] at hExact hRecords
    exact Or.inr ⟨hSame, region, _, hRegion, hSplice, hStart, hOldEnd, hNewEnd, hExact, hRecords,
      hApply, Splice.apply_inverse hApply⟩

/-! ## No smaller region would do -/

/-- The region between two texts that differ is around what their difference removes and
adds, and its points are those of its offsets. -/
theorem exists_isAround_of_ne (h : old ≠ new) :
    ∃ region, between old new = .ok (some region) ∧
      region.IsAround (Difference.between old new).head (Difference.between old new).removed
        (Difference.between old new).added ∧
      region.startPoint = bytePointAt old region.start ∧
      region.oldEndPoint = bytePointAt old region.oldEnd ∧
      region.newEndPoint = bytePointAt new region.newEnd := by
  obtain ⟨region, hRegion, hStart, hOldEnd, hNewEnd⟩ := between_of_ne h
  refine ⟨region, hRegion, ⟨?_, ?_, ?_⟩, ?_⟩
  · exact hStart.trans (Difference.byteLength_head old new).symm
  · exact hOldEnd.trans (Difference.byteLength_head_removed old new).symm
  · exact hNewEnd.trans (Difference.byteLength_head_added old new).symm
  · rw [between, if_neg h] at hRegion
    dsimp only at hRegion
    split at hRegion
    · cases hRegion
    · cases hRegion
      exact ⟨rfl, rfl, rfl⟩

/-- However two texts that differ are written with a common start and a common end, their
region takes no more bytes of either than what stands between. -/
theorem region_is_smallest (hDiffer : old ≠ new) (hOld : old = head ++ (removed ++ tail))
    (hNew : new = head ++ (added ++ tail)) :
    ∃ region, between old new = .ok (some region) ∧
      region.oldEnd - region.start ≤ byteLength removed ∧
      region.newEnd - region.start ≤ byteLength added := by
  obtain ⟨region, hRegion, hAround, -⟩ := exists_isAround_of_ne hDiffer
  have hSizes := Difference.byteLength_removed_le_and_added_le hOld hNew
  refine ⟨region, hRegion, ?_⟩
  rw [hAround.start, hAround.oldEnd, hAround.newEnd, byteLength_append, byteLength_append,
    Nat.add_sub_cancel_left, Nat.add_sub_cancel_left]
  exact hSizes

/-- Of a text repeated twice the second time is removed, though the first would do as well:
no way to write the two texts has less between. -/
theorem repeated_text_region_is_smallest :
    (['é', 'b', 'é', 'b'] : Text) ≠ ['é', 'b'] ∧
      (['é', 'b', 'é', 'b'] : Text) = [] ++ (['é', 'b'] ++ ['é', 'b']) ∧
      (['é', 'b'] : Text) = [] ++ ([] ++ ['é', 'b']) ∧
      ∃ region, between ['é', 'b', 'é', 'b'] ['é', 'b'] = .ok (some region) ∧
        region.oldEnd - region.start ≤ 3 ∧ region.newEnd - region.start ≤ 0 := by
  have hOld : (['é', 'b', 'é', 'b'] : Text) = [] ++ (['é', 'b'] ++ ['é', 'b']) := rfl
  have hNew : (['é', 'b'] : Text) = [] ++ ([] ++ ['é', 'b']) := rfl
  exact ⟨by decide, hOld, hNew, region_is_smallest (by decide) hOld hNew⟩

end ChangedRegion

end ModalEditor
