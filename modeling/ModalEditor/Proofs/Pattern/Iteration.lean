import ModalEditor.Proofs.Pattern.Ends

namespace ModalEditor

/-!
# One match after the other

The matches of a pattern are found from left to right.  Each starts at the first place, from
the end of the match before on, from which the pattern leads on over at least one character,
and it ends where the pattern prefers.  There is just one such list of matches.

A pattern can also match without taking a character.  Such matches are found on the way, but
not where the match before ends, and they are left out in the end.
-/

namespace Match

variable {stop? : Nat → Option Nat} {place : Nat} {found other : List Match}

/-- Whether matches are those that follow each other from a place on, where `stop?` tells the
end of the match from a place.  Matches that take nothing are passed over. -/
inductive Successive (stop? : Nat → Option Nat) : Nat → List Match → Prop
  | none {place : Nat} (hNone : ∀ i stop, place ≤ i → stop? i = some stop → stop ≤ i) :
      Successive stop? place []
  | next {place start stop : Nat} {rest : List Match} (hPlace : place ≤ start)
      (hFirst : ∀ i stop, place ≤ i → i < start → stop? i = some stop → stop ≤ i)
      (hStop : stop? start = some stop) (hTakes : start < stop)
      (hRest : Successive stop? stop rest) :
      Successive stop? place (⟨start, stop⟩ :: rest)

/-- Successive matches are determined by where they are looked for. -/
theorem Successive.unique (h : Successive stop? place found)
    (hOther : Successive stop? place other) : found = other := by
  induction h generalizing other with
  | none hNone =>
      cases hOther with
      | none => rfl
      | next hPlace hFirst hStop hTakes hRest =>
          exact absurd (hNone _ _ hPlace hStop) (Nat.not_le_of_lt hTakes)
  | next hPlace hFirst hStop hTakes hRest ih =>
      cases hOther with
      | none hNone => exact absurd (hNone _ _ hPlace hStop) (Nat.not_le_of_lt hTakes)
      | next hPlace' hFirst' hStop' hTakes' hRest' =>
          rename_i start stop rest start' stop' rest'
          obtain rfl : start = start' := by
            rcases Nat.lt_trichotomy start start' with hLess | hSame | hMore
            · exact absurd (hFirst' _ _ hPlace hLess hStop) (Nat.not_le_of_lt hTakes)
            · exact hSame
            · exact absurd (hFirst _ _ hPlace' hMore hStop') (Nat.not_le_of_lt hTakes')
          obtain rfl : stop = stop' := Option.some.inj (hStop.symm.trans hStop')
          rw [ih hRest']

/-- A place from which no match takes anything is passed over. -/
theorem Successive.of_succ (h : Successive stop? (place + 1) found)
    (hHere : ∀ stop, stop? place = some stop → stop ≤ place) :
    Successive stop? place found := by
  have hOr {i : Nat} (hi : place ≤ i) : i = place ∨ place + 1 ≤ i := by omega
  cases h with
  | none hNone =>
      refine .none fun i stop hi hStop => ?_
      rcases hOr hi with rfl | hLater
      · exact hHere stop hStop
      · exact hNone i stop hLater hStop
  | next hPlace hFirst hStop hTakes hRest =>
      refine .next (Nat.le_of_succ_le hPlace) (fun i stop hi hLess hStop => ?_) hStop hTakes hRest
      rcases hOr hi with rfl | hLater
      · exact hHere stop hStop
      · exact hFirst i stop hLater hLess hStop

end Match

/-- A place of a text. -/
def Spot.at (text : Text) (place : Nat) : Spot :=
  ⟨place, (text.take place).getLast?, text.drop place⟩

theorem Spot.at_append (before rest : Text) :
    Spot.at (before ++ rest) before.length = ⟨before.length, before.getLast?, rest⟩ := by
  rw [Spot.at, List.take_left, List.drop_left]

namespace Pattern

/-- Where the match of a pattern from a place of a text ends. -/
def stopAt? (pattern : Pattern) (text : Text) (place : Nat) : Option Nat :=
  pattern.firstEnd? (Spot.at text place)

variable {pattern : Pattern} {text before rest : Text} {c : Char}

theorem stopAt?_append (pattern : Pattern) (before rest : Text) :
    pattern.stopAt? (before ++ rest) before.length =
      pattern.firstEnd? ⟨before.length, before.getLast?, rest⟩ := by
  rw [stopAt?, Spot.at_append]

/-- Past the last character nothing can be taken. -/
theorem stop_le_of_length_le {i stop : Nat} (hi : text.length ≤ i)
    (hStop : pattern.stopAt? text i = some stop) : stop ≤ i := by
  have hBound := (bounds_of_firstEnd? hStop).2
  rw [Spot.at, List.drop_of_length_le hi] at hBound
  exact hBound

/-- The matches found from a place on are successive. -/
theorem successive_matchesFrom (before rest : Text) {skip : Nat} (hSkip : skip ≤ rest.length) :
    Match.Successive (pattern.stopAt? (before ++ rest)) (before.length + skip)
      (pattern.matchesFrom before.length before.getLast? skip rest) := by
  induction rest generalizing before skip with
  | nil =>
      obtain rfl := Nat.le_zero.mp hSkip
      refine .none fun i stop hi => stop_le_of_length_le ?_
      rw [List.append_nil]
      exact hi
  | cons c rest ih =>
      have hNext (skip : Nat) (hSkip : skip ≤ rest.length) :
          Match.Successive (pattern.stopAt? (before ++ c :: rest)) (before.length + 1 + skip)
            (pattern.matchesFrom (before.length + 1) (some c) skip rest) := by
        have hLater := ih (before ++ [c]) hSkip
        rwa [List.append_assoc, List.length_append, List.getLast?_concat] at hLater
      have hHere := pattern.stopAt?_append before (c :: rest)
      cases skip with
      | succ skip =>
          have hOne := hNext skip (Nat.le_of_succ_le_succ hSkip)
          rwa [Nat.add_assoc, Nat.add_comm 1] at hOne
      | zero =>
          rw [matchesFrom, ← hHere]
          cases hStop : pattern.stopAt? (before ++ c :: rest) before.length with
          | none =>
              refine (hNext 0 (Nat.zero_le _)).of_succ fun stop hOther => ?_
              rw [hStop] at hOther
              cases hOther
          | some stop =>
              have hBounds := bounds_of_firstEnd? (hHere ▸ hStop)
              dsimp only
              split
              next hTakes =>
                have hRest := hNext (stop - (before.length + 1)) (by simp at hBounds; omega)
                rw [Nat.add_sub_cancel' hTakes] at hRest
                exact .next (Nat.le_refl _) (fun i _ hi hLess => by omega) hStop hTakes hRest
              next hNothing =>
                refine (hNext 0 (Nat.zero_le _)).of_succ fun other hOther => ?_
                rw [hStop] at hOther
                cases hOther
                exact Nat.le_of_not_lt hNothing

/-- A search for a pattern finds its successive matches. -/
theorem successive_findAll (pattern : Pattern) (text : Text) :
    Match.Successive (pattern.stopAt? text) 0 (pattern.findAll text) :=
  successive_matchesFrom [] text (Nat.zero_le _)

/-! ## Matches that take nothing -/

/-- The match at a place that takes nothing, unless it touches the match before. -/
def emptyMatch (touches : Bool) (offset : Nat) : List Match :=
  if touches then [] else [⟨offset, offset⟩]

/-- The matches in what is left of a text from a place on, after `skip` characters, those that
take nothing among them.  Whether the match before ends where the first one can start is told
by `touches`. -/
def everyFrom (pattern : Pattern) (offset : Nat) (previous : Option Char) :
    Bool → Nat → Text → List Match
  | touches, skip + 1, c :: rest => everyFrom pattern (offset + 1) (some c) touches skip rest
  | _, _ + 1, [] => []
  | touches, 0, [] =>
      (pattern.firstEnd? ⟨offset, previous, []⟩).elim [] fun _ => emptyMatch touches offset
  | touches, 0, c :: rest =>
      match pattern.firstEnd? ⟨offset, previous, c :: rest⟩ with
      | none => everyFrom pattern (offset + 1) (some c) false 0 rest
      | some stop =>
          if stop > offset then
            ⟨offset, stop⟩ ::
              everyFrom pattern (offset + 1) (some c) true (stop - (offset + 1)) rest
          else emptyMatch touches offset ++ everyFrom pattern (offset + 1) (some c) false 0 rest

/-- All matches in a text, those that take nothing among them. -/
def findEvery (pattern : Pattern) (text : Text) : List Match :=
  pattern.everyFrom 0 none false 0 text

variable {offset : Nat} {previous : Option Char} {touches : Bool} {m : Match}

theorem mem_emptyMatch (h : m ∈ emptyMatch touches offset) : m = ⟨offset, offset⟩ := by
  rw [emptyMatch] at h
  split at h
  · cases h
  · exact List.mem_singleton.mp h

theorem filter_emptyMatch (touches : Bool) (offset : Nat) :
    (emptyMatch touches offset).filter (fun m => m.start < m.stop) = [] := by
  rw [List.filter_eq_nil_iff]
  intro m hm
  obtain rfl := mem_emptyMatch hm
  simp

/-- Those that take something are the ones that a search finds. -/
theorem filter_everyFrom (pattern : Pattern) (offset : Nat) (previous : Option Char)
    (touches : Bool) (skip : Nat) (text : Text) :
    (pattern.everyFrom offset previous touches skip text).filter (fun m => m.start < m.stop) =
      pattern.matchesFrom offset previous skip text := by
  induction text generalizing offset previous touches skip with
  | nil =>
      cases skip with
      | succ skip => rfl
      | zero =>
          rw [everyFrom, matchesFrom]
          cases pattern.firstEnd? ⟨offset, previous, []⟩ with
          | none => rfl
          | some stop => exact filter_emptyMatch touches offset
  | cons c rest ih =>
      cases skip with
      | succ skip => exact ih _ _ _ _
      | zero =>
          rw [everyFrom, matchesFrom]
          cases pattern.firstEnd? ⟨offset, previous, c :: rest⟩ with
          | none => exact ih _ _ _ _
          | some stop =>
              dsimp only
              split
              next hTakes => rw [List.filter_cons_of_pos (by simpa using hTakes), ih]
              next => rw [List.filter_append, filter_emptyMatch, ih, List.nil_append]

theorem filter_findEvery (pattern : Pattern) (text : Text) :
    (pattern.findEvery text).filter (fun m => m.start < m.stop) = pattern.findAll text :=
  filter_everyFrom pattern 0 none false 0 text

/-- What happens at one place: there is a match or none, and the next one is looked for from
where it ends, or from the next character on. -/
theorem everyFrom_cons (pattern : Pattern) (offset : Nat) (previous : Option Char)
    (touches : Bool) (c : Char) (rest : Text) :
    ∃ here touches' skip, pattern.everyFrom offset previous touches 0 (c :: rest) =
        here ++ pattern.everyFrom (offset + 1) (some c) touches' skip rest ∧
      skip ≤ rest.length ∧ here.length ≤ 1 ∧
      ∀ m ∈ here, m.start = offset ∧ offset ≤ m.stop ∧ m.stop ≤ offset + 1 + skip := by
  rw [everyFrom]
  cases hEnd : pattern.firstEnd? ⟨offset, previous, c :: rest⟩ with
  | none => exact ⟨[], false, 0, rfl, Nat.zero_le _, Nat.zero_le _, List.forall_mem_nil _⟩
  | some stop =>
      obtain ⟨-, hStop⟩ := bounds_of_firstEnd? hEnd
      simp only [List.length_cons] at hStop
      dsimp only
      split
      next hTakes =>
        refine ⟨[⟨offset, stop⟩], true, stop - (offset + 1), rfl, by omega, Nat.le_refl _, ?_⟩
        intro m hm
        obtain rfl := List.mem_singleton.mp hm
        exact ⟨rfl, Nat.le_of_lt hTakes, by simp only; omega⟩
      next =>
        refine ⟨emptyMatch touches offset, false, 0, rfl, Nat.zero_le _, ?_, ?_⟩
        · rw [emptyMatch]
          split <;> simp
        · intro m hm
          obtain rfl := mem_emptyMatch hm
          exact ⟨rfl, Nat.le_refl _, Nat.le_add_right _ _⟩

/-- All matches lie in the text, behind what is skipped. -/
theorem bounds_of_mem_everyFrom {skip : Nat} (hSkip : skip ≤ text.length)
    (h : m ∈ pattern.everyFrom offset previous touches skip text) :
    offset + skip ≤ m.start ∧ m.start ≤ m.stop ∧ m.stop ≤ offset + text.length := by
  induction text generalizing offset previous touches skip with
  | nil =>
      obtain rfl := Nat.le_zero.mp hSkip
      rw [everyFrom] at h
      cases hEnd : pattern.firstEnd? ⟨offset, previous, []⟩ with
      | none =>
          rw [hEnd] at h
          cases h
      | some stop =>
          rw [hEnd] at h
          obtain rfl := mem_emptyMatch h
          exact ⟨Nat.le_refl _, Nat.le_refl _, Nat.le_refl _⟩
  | cons c rest ih =>
      rw [List.length_cons] at hSkip ⊢
      cases skip with
      | succ skip =>
          have hLater := ih (Nat.le_of_succ_le_succ hSkip) h
          omega
      | zero =>
          obtain ⟨here, touches', skip, hEvery, hLess, -, hHere⟩ :=
            everyFrom_cons pattern offset previous touches c rest
          rw [hEvery] at h
          rcases List.mem_append.mp h with hMem | hMem
          · have hBounds := hHere m hMem
            omega
          · have hLater := ih hLess hMem
            omega

/-- No match starts before the one before it ends. -/
theorem pairwise_everyFrom {skip : Nat} (hSkip : skip ≤ text.length) :
    (pattern.everyFrom offset previous touches skip text).Pairwise (·.stop ≤ ·.start) := by
  induction text generalizing offset previous touches skip with
  | nil =>
      obtain rfl := Nat.le_zero.mp hSkip
      rw [everyFrom]
      cases pattern.firstEnd? ⟨offset, previous, []⟩ with
      | none => exact List.Pairwise.nil
      | some stop =>
          rw [Option.elim_some, emptyMatch]
          split
          · exact List.Pairwise.nil
          · exact List.pairwise_singleton _ _
  | cons c rest ih =>
      cases skip with
      | succ skip => exact ih (Nat.le_of_succ_le_succ hSkip)
      | zero =>
          obtain ⟨here, touches', skip, hEvery, hLess, hOne, hHere⟩ :=
            everyFrom_cons pattern offset previous touches c rest
          rw [hEvery, List.pairwise_append]
          refine ⟨?_, ih hLess, fun first hFirst later hLater => ?_⟩
          · match here, hOne with
            | [], _ => exact List.Pairwise.nil
            | [first], _ => exact List.pairwise_singleton _ first
          · have hFirstBounds := hHere first hFirst
            have hLaterBounds := bounds_of_mem_everyFrom hLess hLater
            omega

end Pattern

end ModalEditor
