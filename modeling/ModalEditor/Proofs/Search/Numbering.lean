import ModalEditor.Proofs.Motion.Target
import ModalEditor.Proofs.Search.Tour

namespace ModalEditor

/-!
# Matches by number

Matches in the order of their starts are numbered from zero.  From the start of a match the
next one has the next number, the one before has the number before, and both go round at the
ends.  So steps from match to match are sums modulo the number of matches: with a count, the
motion to a later match adds one less than the count to the number of the first match after
the cursor, and the motion to an earlier one subtracts as much from the number of the last
match before it.
-/

namespace Match

/-- The number of the first match that starts after an offset, zero if there is none. -/
def indexAfter (found : List Match) (offset : Nat) : Nat :=
  (found.findIdx? fun m => m.start > offset).getD 0

/-- The number of the last match that starts before an offset, that of the last of all if there
is none. -/
def indexBefore (found : List Match) (offset : Nat) : Nat :=
  found.length - 1 - (found.reverse.findIdx? fun m => m.start < offset).getD 0

variable {found : List Match} {m : Match} {offset i : Nat}

theorem nextAfter_eq_getElem? (found : List Match) (offset : Nat) :
    nextAfter found offset = found[indexAfter found offset]? := by
  rw [nextAfter, indexAfter, List.find?_eq_bind_findIdx?_getElem?]
  cases hIndex : found.findIdx? fun m => m.start > offset with
  | none => exact List.head?_eq_getElem?
  | some i =>
      obtain ⟨hLess, -⟩ := List.findIdx?_eq_some_iff_getElem.mp hIndex
      simp [hLess]

theorem previousBefore_eq_getElem? (found : List Match) (offset : Nat) :
    previousBefore found offset = found[indexBefore found offset]? := by
  rw [previousBefore, indexBefore, List.find?_eq_bind_findIdx?_getElem?]
  cases hIndex : found.reverse.findIdx? fun m => m.start < offset with
  | none => exact List.getLast?_eq_getElem?
  | some i =>
      obtain ⟨hLess, -⟩ := List.findIdx?_eq_some_iff_getElem.mp hIndex
      have hBound : i < found.length := by simpa using hLess
      rw [Option.bind_some, Option.getD_some, List.getElem?_reverse hBound,
        List.getElem?_eq_getElem (by omega), Option.some_or]

/-- Starts are in the order of their numbers. -/
theorem start_lt_start_iff (h : found.Pairwise (·.start < ·.start)) {j : Nat}
    (hi : i < found.length) (hj : j < found.length) :
    found[i].start < found[j].start ↔ i < j := by
  have hOrder := List.pairwise_iff_getElem.mp h
  constructor
  · intro hLess
    rcases Nat.lt_trichotomy i j with hij | rfl | hji
    · exact hij
    · exact absurd hLess (Nat.lt_irrefl _)
    · exact absurd hLess (Nat.lt_asymm (hOrder j i hj hi hji))
  · exact hOrder i j hi hj

/-- After the start of a match comes the next number. -/
theorem indexAfter_start (h : found.Pairwise (·.start < ·.start)) (hi : i < found.length) :
    indexAfter found found[i].start = (i + 1) % found.length := by
  rw [indexAfter]
  by_cases hLast : i + 1 < found.length
  · have hIndex : found.findIdx? (fun m => m.start > found[i].start) = some (i + 1) := by
      refine List.findIdx?_eq_some_iff_getElem.mpr ⟨hLast, ?_, fun j hj => ?_⟩
      · exact decide_eq_true ((start_lt_start_iff h hi hLast).mpr (Nat.lt_succ_self i))
      · rw [decide_eq_true_eq, gt_iff_lt, start_lt_start_iff h]
        omega
    rw [hIndex, Nat.mod_eq_of_lt hLast]
    rfl
  · have hNone : found.findIdx? (fun m => m.start > found[i].start) = none := by
      refine List.findIdx?_eq_none_iff.mpr fun m hm => ?_
      obtain ⟨j, hj, rfl⟩ := List.getElem_of_mem hm
      rw [decide_eq_false_iff_not, gt_iff_lt, start_lt_start_iff h]
      omega
    have hEnd : i + 1 = found.length := by omega
    rw [hNone, hEnd, Nat.mod_self]
    rfl

/-- Before the start of a match comes the number before. -/
theorem indexBefore_start (h : found.Pairwise (·.start < ·.start)) (hi : i < found.length) :
    indexBefore found found[i].start = (i + (found.length - 1)) % found.length := by
  rw [indexBefore]
  by_cases hFirst : i = 0
  · subst hFirst
    have hNone : found.reverse.findIdx? (fun m => m.start < found[0].start) = none := by
      refine List.findIdx?_eq_none_iff.mpr fun m hm => ?_
      obtain ⟨j, hj, rfl⟩ := List.getElem_of_mem (List.mem_reverse.mp hm)
      rw [decide_eq_false_iff_not, start_lt_start_iff h]
      omega
    rw [hNone, Nat.zero_add, Nat.mod_eq_of_lt (by omega)]
    rfl
  · have hIndex : found.reverse.findIdx? (fun m => m.start < found[i].start) =
        some (found.length - i) := by
      refine List.findIdx?_eq_some_iff_getElem.mpr ⟨by simp; omega, ?_, fun j hj => ?_⟩
      · rw [List.getElem_reverse, decide_eq_true_eq, start_lt_start_iff h]
        omega
      · rw [List.getElem_reverse, decide_eq_true_eq, start_lt_start_iff h]
        omega
    have hRound : i + (found.length - 1) = i - 1 + found.length := by omega
    rw [hIndex, hRound, Nat.add_mod_right, Nat.mod_eq_of_lt (by omega), Option.getD_some]
    omega

/-! ## Steps from match to match -/

/-- If each step from a match adds the same to its number, counted steps add it as often. -/
theorem followMatches_start {next : Nat → Option Match} {step : Nat}
    (hNext : ∀ i (hi : i < found.length),
      next found[i].start = found[(i + step) % found.length]?)
    (count : Nat) (hi : i < found.length) :
    ∃ last, found[(i + count * step) % found.length]? = some last ∧
      Motion.followMatches next count found[i].start = last.start := by
  have hLength : 0 < found.length := Nat.zero_lt_of_lt hi
  induction count generalizing i with
  | zero =>
      refine ⟨found[i], ?_, rfl⟩
      rw [Nat.zero_mul, Nat.add_zero, Nat.mod_eq_of_lt hi, List.getElem?_eq_getElem hi]
  | succ count ih =>
      have hFirst : (i + step) % found.length < found.length := Nat.mod_lt _ hLength
      obtain ⟨last, hLast, hFollow⟩ := ih hFirst
      refine ⟨last, ?_, ?_⟩
      · rw [← hLast, Nat.mod_add_mod, Nat.succ_mul, Nat.add_assoc, Nat.add_comm step]
      · rw [Motion.followMatches, hNext i hi, List.getElem?_eq_getElem hFirst]
        exact hFollow

/-- From anywhere the first step leads to a match, from which the others are counted. -/
theorem followMatches_succ {next : Nat → Option Match} {step : Nat}
    (hNext : ∀ i (hi : i < found.length),
      next found[i].start = found[(i + step) % found.length]?)
    {offset : Nat} (hFirst : next offset = found[i]?) (hi : i < found.length) (count : Nat) :
    ∃ last, found[(i + count * step) % found.length]? = some last ∧
      Motion.followMatches next (count + 1) offset = last.start := by
  rw [Motion.followMatches, hFirst, List.getElem?_eq_getElem hi]
  exact followMatches_start hNext count hi

section

variable (h : found.Pairwise (·.start < ·.start))

include h

theorem nextAfter_start (i : Nat) (hi : i < found.length) :
    nextAfter found found[i].start = found[(i + 1) % found.length]? := by
  rw [nextAfter_eq_getElem?, indexAfter_start h hi]

theorem previousBefore_start (i : Nat) (hi : i < found.length) :
    previousBefore found found[i].start =
      found[(i + (found.length - 1)) % found.length]? := by
  rw [previousBefore_eq_getElem?, indexBefore_start h hi]

end

theorem indexAfter_lt (hFound : found ≠ []) (offset : Nat) :
    indexAfter found offset < found.length := by
  rw [indexAfter]
  cases hIndex : found.findIdx? fun m => m.start > offset with
  | none => exact List.length_pos_iff.mpr hFound
  | some i => exact (List.findIdx?_eq_some_iff_getElem.mp hIndex).1

theorem indexBefore_lt (hFound : found ≠ []) (offset : Nat) :
    indexBefore found offset < found.length := by
  have hLength := List.length_pos_iff.mpr hFound
  rw [indexBefore]
  omega

/-- Going back by one is going on by one less than all around. -/
theorem toNat_sub_emod {length : Nat} (hLength : 0 < length) (i count : Nat) :
    (((i : Int) - count) % length).toNat = (i + count * (length - 1)) % length := by
  have hAround : count * (length - 1) + count = count * length := by
    rw [← Nat.mul_succ, Nat.succ_eq_add_one, Nat.sub_add_cancel hLength]
  have hOn : ((i + count * (length - 1) : Nat) : Int) =
      (i : Int) - count + ((count * length : Nat) : Int) := by
    omega
  have hSame := Int.add_mul_emod_self_right ((i : Int) - count) count length
  rw [← Int.natCast_mul, ← hOn, ← Int.natCast_emod] at hSame
  rw [← hSame, Int.toNat_natCast]

/-- As many steps back as on come round to where they started. -/
theorem mod_round {length : Nat} (hi : i < length) (count : Nat) :
    ((i + count * 1) % length + count * (length - 1)) % length = i := by
  have hLength : length - 1 + 1 = length := Nat.sub_add_cancel (Nat.zero_lt_of_lt hi)
  calc
    ((i + count * 1) % length + count * (length - 1)) % length =
        (i + count * (length - 1 + 1)) % length := by
      rw [Nat.mod_add_mod, Nat.add_assoc, ← Nat.mul_add, Nat.add_comm 1]
    _ = i % length := by rw [hLength, Nat.add_mul_mod_self_right]
    _ = i := Nat.mod_eq_of_lt hi

end Match

namespace Motion

variable {text : Text} {circumstances : Circumstances}

/-- Where there are matches, a motion to a match leads where the steps end. -/
theorem span_stop_eq {cursor : Position} {count : Count} {motion : Motion}
    {next : List Match → Nat → Option Match} {last : Match}
    (h : Match.Fit circumstances.surroundings.found text)
    (hFound : circumstances.surroundings.found ≠ [])
    (hTarget : motion.target? (splitLines text) cursor count circumstances =
      some (matchTarget (splitLines text) cursor circumstances.surroundings.found next
        (max count.value 1)))
    (hFollow : followMatches (next circumstances.surroundings.found) (max count.value 1)
      cursor.offset = last.start) :
    (motion.span (splitLines text) cursor count circumstances).stop =
      Position.ofOffset text last.start := by
  have hSome : circumstances.surroundings.found.isEmpty = false := by simpa using hFound
  have hLines := isEmptyText_splitLines (h.text_ne_nil hFound)
  simp only [span, hLines, hTarget, matchTarget, hSome, hFollow]
  exact Position.ofOffsetInLines_splitLines text last.start

section

variable (h : Match.Fit circumstances.surroundings.found text)
  (hFound : circumstances.surroundings.found ≠ []) (cursor : Position) (count : Count)

include h hFound

theorem nextMatch_stop (hCount : 1 ≤ count.value) :
    let found := circumstances.surroundings.found
    ∃ m, found[(Match.indexAfter found cursor.offset + count.value - 1) % found.length]? =
        some m ∧
      (nextMatch.span (splitLines text) cursor count circumstances).stop =
        Position.ofOffset text m.start := by
  intro found
  have hMax : max count.value 1 = count.value - 1 + 1 := by omega
  obtain ⟨last, hLast, hFollow⟩ := Match.followMatches_succ (Match.nextAfter_start h.inOrder)
    (Match.nextAfter_eq_getElem? found cursor.offset)
    (Match.indexAfter_lt hFound cursor.offset) (count.value - 1)
  rw [Nat.mul_one, ← Nat.add_sub_assoc hCount] at hLast
  exact ⟨last, hLast, span_stop_eq h hFound rfl (hMax ▸ hFollow)⟩

theorem previousMatch_stop (hCount : 1 ≤ count.value) :
    let found := circumstances.surroundings.found
    ∃ m, found[(((Match.indexBefore found cursor.offset : Int) - (count.value - 1)) %
        found.length).toNat]? = some m ∧
      (previousMatch.span (splitLines text) cursor count circumstances).stop =
        Position.ofOffset text m.start := by
  intro found
  have hMax : max count.value 1 = count.value - 1 + 1 := by omega
  obtain ⟨last, hLast, hFollow⟩ := Match.followMatches_succ
    (Match.previousBefore_start h.inOrder) (Match.previousBefore_eq_getElem? found cursor.offset)
    (Match.indexBefore_lt hFound cursor.offset) (count.value - 1)
  rw [← Match.toNat_sub_emod (List.length_pos_iff.mpr hFound), Int.natCast_sub hCount] at hLast
  exact ⟨last, hLast, span_stop_eq h hFound rfl (hMax ▸ hFollow)⟩

/-- From the start of a match as many matches back as on lead to it again. -/
theorem previousMatch_stop_nextMatch_stop {m : Match}
    (hm : m ∈ circumstances.surroundings.found) :
    (previousMatch.span (splitLines text)
      (nextMatch.span (splitLines text) (Position.ofOffset text m.start) count circumstances).stop
      count circumstances).stop = Position.ofOffset text m.start := by
  have hStart (m : Match) (hm : m ∈ circumstances.surroundings.found) :
      (Position.ofOffset text m.start).offset = m.start :=
    Nat.min_eq_left (Nat.le_of_lt (h.start_lt m hm))
  have hOffset := hStart m hm
  obtain ⟨i, hi, rfl⟩ := List.getElem_of_mem hm
  obtain ⟨there, hThere, hOn⟩ :=
    Match.followMatches_start (Match.nextAfter_start h.inOrder) (max count.value 1) hi
  obtain ⟨hIndex, hElem⟩ := List.getElem?_eq_some_iff.mp hThere
  obtain ⟨last, hLast, hBack⟩ :=
    Match.followMatches_start (Match.previousBefore_start h.inOrder) (max count.value 1) hIndex
  rw [hElem] at hBack
  rw [Match.mod_round hi, List.getElem?_eq_getElem hi, Option.some.injEq] at hLast
  subst hLast
  have hOnward : (nextMatch.span (splitLines text)
      (Position.ofOffset text circumstances.surroundings.found[i].start) count
      circumstances).stop = Position.ofOffset text there.start :=
    span_stop_eq h hFound rfl (hOffset.symm ▸ hOn)
  rw [hOnward]
  refine span_stop_eq h hFound rfl ?_
  rw [hStart there (List.mem_of_getElem? hThere)]
  exact hBack

/-- Without a count the next match is the one that a search goes to. -/
theorem nextMatch_stop_nextAfter {search : Search}
    (hSearch : search.found = circumstances.surroundings.found) (typed : Bool) :
    ∃ m, search.nextAfter cursor.offset = some m ∧
      (nextMatch.span (splitLines text) cursor ⟨1, typed⟩ circumstances).stop =
        Position.ofOffset text m.start := by
  have hNext := Match.nextAfter_eq_getElem? circumstances.surroundings.found cursor.offset
  rw [List.getElem?_eq_getElem (Match.indexAfter_lt hFound cursor.offset)] at hNext
  refine ⟨_, by rw [Search.nextAfter, hSearch, hNext], span_stop_eq h hFound rfl ?_⟩
  show followMatches (Match.nextAfter circumstances.surroundings.found) 1 cursor.offset = _
  rw [followMatches, hNext]
  rfl

end

/-- The motions to a later and to an earlier match add to the number of a match and subtract
from it, modulo the number of matches.  From the start of a match the second takes back the
first.  Without a count the first goes where a search goes. -/
theorem match_motions_count_modulo_matches
    (h : Match.Fit circumstances.surroundings.found text)
    (hFound : circumstances.surroundings.found ≠ []) (cursor : Position) (count : Count)
    (hCount : 1 ≤ count.value) :
    let found := circumstances.surroundings.found
    let on (cursor : Position) (count : Count) : Position :=
      (nextMatch.span (splitLines text) cursor count circumstances).stop
    let back (cursor : Position) (count : Count) : Position :=
      (previousMatch.span (splitLines text) cursor count circumstances).stop
    (∃ m, found[(Match.indexAfter found cursor.offset + count.value - 1) % found.length]? =
        some m ∧ on cursor count = Position.ofOffset text m.start) ∧
      (∃ m, found[(((Match.indexBefore found cursor.offset : Int) - (count.value - 1)) %
          found.length).toNat]? = some m ∧ back cursor count = Position.ofOffset text m.start) ∧
      (∀ m ∈ found, cursor = Position.ofOffset text m.start →
        back (on cursor count) count = cursor) ∧
      ∀ (search : Search) (typed : Bool), search.found = found →
        ∃ m, search.nextAfter cursor.offset = some m ∧
          on cursor ⟨1, typed⟩ = Position.ofOffset text m.start := by
  intro found on back
  refine ⟨nextMatch_stop h hFound cursor count hCount,
    previousMatch_stop h hFound cursor count hCount, ?_, ?_⟩
  · rintro m hm rfl
    exact previousMatch_stop_nextMatch_stop h hFound count hm
  · intro search typed hSearch
    exact nextMatch_stop_nextAfter h hFound cursor hSearch typed

/-- Between the second match and the third, four matches on go round to the third, and four
back go round to the second. -/
theorem four_matches_go_round :
    let text : Text := ['a', ' ', 'b', ' ', 'a', '\n', 'c', ' ', 'a']
    let circumstances : Circumstances := ⟨true, none, none, [⟨0, 1⟩, ⟨4, 5⟩, ⟨8, 9⟩]⟩
    let cursor := Position.ofOffset text 6
    Match.Fit circumstances.surroundings.found text ∧
      (nextMatch.span (splitLines text) cursor ⟨4, true⟩ circumstances).stop = ⟨1, 2, 8⟩ ∧
      (previousMatch.span (splitLines text) cursor ⟨4, true⟩ circumstances).stop = ⟨0, 4, 4⟩ := by
  intro text circumstances cursor
  have hFit : Match.Fit circumstances.surroundings.found text := ⟨by decide, by decide⟩
  obtain ⟨⟨later, hLater, hOn⟩, ⟨earlier, hEarlier, hBack⟩, -⟩ :=
    match_motions_count_modulo_matches hFit (by decide) cursor ⟨4, true⟩ (by decide)
  obtain rfl : ⟨8, 9⟩ = later := Option.some.inj (Eq.trans (by decide) hLater)
  obtain rfl : ⟨4, 5⟩ = earlier := Option.some.inj (Eq.trans (by decide) hEarlier)
  exact ⟨hFit, hOn.trans (by decide), hBack.trans (by decide)⟩

end Motion

end ModalEditor
