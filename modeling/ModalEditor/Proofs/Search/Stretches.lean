import ModalEditor.Proofs.Checked.Basic
import ModalEditor.Proofs.Text.Offsets
import ModalEditor.Search.Match

namespace ModalEditor

/-!
# Stretches of bytes and matches

A stretch is a part of a text that is told in bytes.  If it cuts no character, it is a match,
which is told in characters.  To find where stretches in order are in characters, one pass over
them is enough: the count goes on from each end to the next, and the text is cut there.
-/

/-- A part of a text, from one byte up to another. -/
structure Stretch where
  start : Nat
  stop : Nat
  deriving DecidableEq, Repr

namespace Stretch

/-- Whether there is nothing in a stretch. -/
def isEmpty (stretch : Stretch) : Bool :=
  stretch.start == stretch.stop

/-- Whether a stretch and a match are the same part of a text, which is counted in bytes for
the one and in characters for the other. -/
def IsMatch (text : Text) (stretch : Stretch) (m : Match) : Prop :=
  ∃ before between after, text = before ++ between ++ after ∧
    stretch = ⟨byteLength before, byteLength (before ++ between)⟩ ∧
    m = ⟨before.length, (before ++ between).length⟩

/-- Whether a stretch cuts no character of a text. -/
structure IsPartOf (text : Text) (stretch : Stretch) : Prop where
  start_le_stop : stretch.start ≤ stretch.stop
  isBoundary_start : isBoundary text stretch.start = true
  isBoundary_stop : isBoundary text stretch.stop = true

/-- Whether stretches of a text come in order without overlapping. -/
structure Orderly (text : Text) (stretches : List Stretch) : Prop where
  isPartOf : ∀ stretch ∈ stretches, stretch.IsPartOf text
  inOrder : stretches.Pairwise (·.stop ≤ ·.start)

/-- The match at a stretch: how many characters come before its ends. -/
def toMatch (text : Text) (stretch : Stretch) : Match :=
  ⟨charOffset text stretch.start, charOffset text stretch.stop⟩

end Stretch

/-- Whether matches are parts of a text in order, each with at least one character, that do not
overlap. -/
structure Match.WellFormed (found : List Match) (text : Text) : Prop where
  inOrder : found.Pairwise (·.start < ·.start)
  start_lt_stop : ∀ m ∈ found, m.start < m.stop
  stop_le : ∀ m ∈ found, m.stop ≤ text.length
  apart : found.Pairwise (·.stop ≤ ·.start)

/-- Where a match is in bytes. -/
def Match.toStretch (text : Text) (m : Match) : Stretch :=
  ⟨byteOffset text m.start, byteOffset text m.stop⟩

/-! ## What a stretch is in characters -/

namespace Stretch

variable {text before : Text} {stretch other : Stretch} {stretches : List Stretch}

/-- A stretch that cuts no character is what stands between two beginnings of the text. -/
theorem IsPartOf.exists_prefixes (h : stretch.IsPartOf text) :
    ∃ first last, first <+: last ∧ last <+: text ∧
      stretch = ⟨byteLength first, byteLength last⟩ := by
  obtain ⟨hOrder, hStart, hStop⟩ := h
  obtain ⟨first, afterFirst, hFirst, hFirstBytes⟩ := isBoundary_iff.mp hStart
  obtain ⟨last, afterLast, hLast, hLastBytes⟩ := isBoundary_iff.mp hStop
  rw [← hFirstBytes, ← hLastBytes] at hOrder
  refine ⟨first, last, ?_, ⟨afterLast, hLast.symm⟩, ?_⟩
  · exact prefix_of_byteLength_le ⟨afterFirst, hFirst.symm⟩ ⟨afterLast, hLast.symm⟩ hOrder
  · rw [hFirstBytes, hLastBytes]

theorem charOffset_of_prefix (h : before <+: text) :
    charOffset text (byteLength before) = before.length := by
  obtain ⟨rest, rfl⟩ := h
  exact charOffset_append_byteLength before rest

theorem toMatch_of_prefixes {first last : Text} (hFirst : first <+: last)
    (hLast : last <+: text) :
    toMatch text ⟨byteLength first, byteLength last⟩ = ⟨first.length, last.length⟩ := by
  rw [toMatch, charOffset_of_prefix (hFirst.trans hLast), charOffset_of_prefix hLast]

/-- A stretch and the match at it are the same part of the text. -/
theorem IsPartOf.isMatch_toMatch (h : stretch.IsPartOf text) :
    IsMatch text stretch (stretch.toMatch text) := by
  obtain ⟨first, last, hFirst, hLast, rfl⟩ := h.exists_prefixes
  rw [toMatch_of_prefixes hFirst hLast]
  obtain ⟨between, rfl⟩ := hFirst
  obtain ⟨after, rfl⟩ := hLast
  exact ⟨first, between, after, rfl, rfl, rfl⟩

theorem IsPartOf.stop_toMatch_le (h : stretch.IsPartOf text) :
    (stretch.toMatch text).stop ≤ text.length := by
  obtain ⟨first, last, hFirst, hLast, rfl⟩ := h.exists_prefixes
  rw [toMatch_of_prefixes hFirst hLast]
  exact hLast.length_le

/-- With bytes in it there are characters in it. -/
theorem IsPartOf.start_lt_stop (h : stretch.IsPartOf text) (hSome : stretch.isEmpty = false) :
    (stretch.toMatch text).start < (stretch.toMatch text).stop := by
  obtain ⟨first, last, hFirst, hLast, rfl⟩ := h.exists_prefixes
  rw [toMatch_of_prefixes hFirst hLast]
  refine Nat.lt_of_le_of_ne hFirst.length_le fun hLength => ?_
  obtain rfl := hFirst.eq_of_length hLength
  simp [isEmpty] at hSome

/-- What comes later in bytes comes later in characters. -/
theorem IsPartOf.stop_le_start (h : stretch.IsPartOf text) (hOther : other.IsPartOf text)
    (hLess : stretch.stop ≤ other.start) :
    (stretch.toMatch text).stop ≤ (other.toMatch text).start := by
  obtain ⟨first, last, hFirst, hLast, rfl⟩ := h.exists_prefixes
  obtain ⟨first', last', hFirst', hLast', rfl⟩ := hOther.exists_prefixes
  rw [toMatch_of_prefixes hFirst hLast, toMatch_of_prefixes hFirst' hLast']
  exact (prefix_of_byteLength_le hLast (hFirst'.trans hLast') hLess).length_le

theorem Orderly.filter (h : Orderly text stretches) (keep : Stretch → Bool) :
    Orderly text (stretches.filter keep) :=
  ⟨fun stretch hMem => h.isPartOf stretch (List.mem_filter.mp hMem).1, h.inOrder.filter keep⟩

/-- The matches at stretches in order that have characters are well formed. -/
theorem Orderly.wellFormed (h : Orderly text stretches)
    (hSome : ∀ stretch ∈ stretches, stretch.isEmpty = false) :
    Match.WellFormed (stretches.map (toMatch text)) text := by
  have hTakes : ∀ stretch ∈ stretches,
      (stretch.toMatch text).start < (stretch.toMatch text).stop :=
    fun stretch hMem => (h.isPartOf stretch hMem).start_lt_stop (hSome stretch hMem)
  have hApart : stretches.Pairwise fun first later =>
      (first.toMatch text).stop ≤ (later.toMatch text).start :=
    h.inOrder.imp_of_mem fun hFirst hLater =>
      (h.isPartOf _ hFirst).stop_le_start (h.isPartOf _ hLater)
  refine ⟨?_, ?_, ?_, ?_⟩
  · refine List.pairwise_map.mpr (hApart.imp_of_mem fun hFirst _ hLess => ?_)
    exact Nat.lt_of_lt_of_le (hTakes _ hFirst) hLess
  · exact List.forall_mem_map.mpr hTakes
  · exact List.forall_mem_map.mpr fun stretch hMem => (h.isPartOf stretch hMem).stop_toMatch_le
  · exact List.pairwise_map.mpr hApart

end Stretch

/-! ## What a match is in bytes -/

theorem byteOffset_le {first second : Nat} (h : first ≤ second) (text : Text) :
    byteOffset text first ≤ byteOffset text second :=
  byteLength_le_of_prefix (List.take_prefix_take_left h)

theorem isBoundary_byteOffset (text : Text) (offset : Nat) :
    isBoundary text (byteOffset text offset) = true :=
  isBoundary_of_append (List.take_append_drop offset text).symm

namespace Match

variable {text : Text} {m : Match}

theorem toMatch_toStretch (hOrder : m.start ≤ m.stop) (hStop : m.stop ≤ text.length) :
    (m.toStretch text).toMatch text = m := by
  have hFirst := List.take_prefix_take_left hOrder (l := text)
  rw [Match.toStretch, byteOffset, byteOffset,
    Stretch.toMatch_of_prefixes hFirst (List.take_prefix _ _)]
  simp only [List.length_take, Nat.min_eq_left hStop, Nat.min_eq_left (Nat.le_trans hOrder hStop)]

/-- There is nothing in a stretch exactly if there is nothing in the match. -/
theorem isEmpty_toStretch_iff (hOrder : m.start ≤ m.stop) (hStop : m.stop ≤ text.length) :
    (m.toStretch text).isEmpty = true ↔ m.stop ≤ m.start := by
  have hBack := toMatch_toStretch hOrder hStop
  constructor
  · intro hEmpty
    have hBytes := beq_iff_eq.mp hEmpty
    rw [Stretch.toMatch, ← hBytes] at hBack
    rw [← hBack]
  · intro hLess
    rw [Stretch.isEmpty, Match.toStretch, Nat.le_antisymm hOrder hLess, beq_self_eq_true]

theorem map_toMatch_map_toStretch {found : List Match}
    (h : ∀ m ∈ found, m.start ≤ m.stop ∧ m.stop ≤ text.length) :
    (found.map (Match.toStretch text)).map (Stretch.toMatch text) = found := by
  rw [List.map_map]
  exact (List.map_congr_left fun m hm => toMatch_toStretch (h m hm).1 (h m hm).2).trans
    (List.map_id found)

end Match

/-! ## Counting characters -/

/-- How far a text was counted, in characters and in bytes. -/
structure Tally where
  chars : Nat
  bytes : Nat

namespace Tally

open Checked

/-- The count after the first characters of a text. -/
def after (before : Text) : Tally :=
  ⟨before.length, byteLength before⟩

/-- Counts on up to a byte. -/
def moveTo (text : Text) (tally : Tally) (byte : Nat) : Checked Tally := do
  let between ← sliceBytes text tally.bytes byte
  pure ⟨tally.chars + between.length, byte⟩

/-- Takes up the match at a stretch, unless there is nothing in it. -/
def collect (text : Text) (state : Tally × List Match) (stretch : Stretch) :
    Checked (Tally × List Match) :=
  if stretch.isEmpty then pure state
  else do
    let first ← state.1.moveTo text stretch.start
    let last ← first.moveTo text stretch.stop
    pure (last, state.2 ++ [⟨first.chars, last.chars⟩])

variable {text before : Text} {stretch : Stretch} {stretches : List Stretch}

/-- Counting on from the end of some characters leads to the end of more. -/
theorem moveTo_eq {later : Text} (h : before <+: later) (hLater : later <+: text) :
    (after before).moveTo text (byteLength later) = .ok (after later) := by
  obtain ⟨between, rfl⟩ := h
  obtain ⟨rest, rfl⟩ := hLater
  rw [moveTo, after, sliceBytes_append, ok_bind, after, List.length_append]
  rfl

/-- A match with characters is taken up, and the count goes on at its end. -/
theorem collect_eq (h : stretch.IsPartOf text) (hSome : stretch.isEmpty = false)
    (hBefore : before <+: text) (hLess : byteLength before ≤ stretch.start)
    (found : List Match) :
    ∃ last, last <+: text ∧ byteLength last = stretch.stop ∧
      collect text (after before, found) stretch =
        .ok (after last, found ++ [stretch.toMatch text]) := by
  obtain ⟨first, last, hFirst, hLast, rfl⟩ := h.exists_prefixes
  have hFrom := prefix_of_byteLength_le hBefore (hFirst.trans hLast) hLess
  refine ⟨last, hLast, rfl, ?_⟩
  rw [collect, hSome, Stretch.toMatch_of_prefixes hFirst hLast]
  simp only [moveTo_eq hFrom (hFirst.trans hLast), moveTo_eq hFirst hLast, ok_bind, pure_eq]
  rfl

/-- One pass over the matches takes up those with characters, each where it is. -/
theorem foldlM_collect (h : Stretch.Orderly text stretches) (hBefore : before <+: text)
    (hLess : ∀ stretch ∈ stretches, byteLength before ≤ stretch.start) (found : List Match) :
    ∃ last, stretches.foldlM (collect text) (after before, found) =
      .ok (last, found ++ (stretches.filter (!·.isEmpty)).map (Stretch.toMatch text)) := by
  induction stretches generalizing before found with
  | nil => exact ⟨after before, by simp⟩
  | cons stretch stretches ih =>
      obtain ⟨hPart, hParts⟩ := List.forall_mem_cons.mp h.isPartOf
      obtain ⟨hLater, hOrder⟩ := List.pairwise_cons.mp h.inOrder
      obtain ⟨hHere, hRest⟩ := List.forall_mem_cons.mp hLess
      rw [List.foldlM_cons]
      cases hEmpty : stretch.isEmpty with
      | true =>
          -- The count stays where it is, which is before all later matches too.
          obtain ⟨last, hLast⟩ := ih ⟨hParts, hOrder⟩ hBefore hRest found
          refine ⟨last, ?_⟩
          rw [collect, hEmpty, if_pos rfl, pure_eq, ok_bind, hLast,
            List.filter_cons_of_neg (by simp [hEmpty])]
      | false =>
          obtain ⟨next, hNext, hStop, hCollect⟩ := collect_eq hPart hEmpty hBefore hHere found
          obtain ⟨last, hLast⟩ := ih ⟨hParts, hOrder⟩ hNext (hStop ▸ hLater) _
          refine ⟨last, ?_⟩
          rw [hCollect, ok_bind, hLast, List.filter_cons_of_pos (by simp [hEmpty]),
            List.map_cons, List.append_assoc, List.singleton_append]

end Tally

end ModalEditor
