import ModalEditor.Motion.Target
import ModalEditor.Search.Basic

namespace ModalEditor

/-!
# Matches all around

A search finds matches in the order of their starts, no two at the same place and all of
them in the text.  From any offset they are visited in a tour: first those that start after
it, then the others.  The next match is the first of the tour, and from its start the tour
goes on and comes back to it last.  So counted steps from match to match turn the tour, one
place for each step.
-/

namespace Pattern

/-- The matches in what is left of a text start in it. -/
theorem bounds_of_mem_matchesFrom {pattern : Pattern} {offset skip : Nat}
    {previous : Option Char} {text : Text} {found : Match}
    (h : found ∈ pattern.matchesFrom offset previous skip text) :
    offset ≤ found.start ∧ found.start < offset + text.length := by
  induction text generalizing offset previous skip with
  | nil => simp [matchesFrom] at h
  | cons c rest ih =>
      have hLater {skip : Nat} (h : found ∈ pattern.matchesFrom (offset + 1) (some c) skip rest) :
          offset ≤ found.start ∧ found.start < offset + (c :: rest).length := by
        obtain ⟨hFirst, hLast⟩ := ih h
        simp only [List.length_cons]
        omega
      cases skip with
      | succ skip => exact hLater h
      | zero =>
          rw [matchesFrom] at h
          split at h
          · exact hLater h
          · split at h
            · rcases List.mem_cons.mp h with rfl | hRest
              · simp
              · exact hLater hRest
            · exact hLater h

/-- The matches in what is left of a text come in the order of their starts. -/
theorem pairwise_matchesFrom (pattern : Pattern) (offset : Nat) (previous : Option Char)
    (skip : Nat) (text : Text) :
    (pattern.matchesFrom offset previous skip text).Pairwise (·.start < ·.start) := by
  induction text generalizing offset previous skip with
  | nil => simp [matchesFrom]
  | cons c rest ih =>
      cases skip with
      | succ skip => exact ih _ _ _
      | zero =>
          rw [matchesFrom]
          split
          · exact ih _ _ _
          · split
            · refine List.pairwise_cons.mpr ⟨fun later hLater => ?_, ih _ _ _⟩
              exact (bounds_of_mem_matchesFrom hLater).1
            · exact ih _ _ _

end Pattern

/-- Whether matches come in the order of their starts, all of which are in a text. -/
structure Match.Fit (found : List Match) (text : Text) : Prop where
  inOrder : found.Pairwise (·.start < ·.start)
  start_lt : ∀ m ∈ found, m.start < text.length

theorem Match.Fit.text_ne_nil {found : List Match} {text : Text} (h : Match.Fit found text)
    (hFound : found ≠ []) : text ≠ [] := by
  obtain ⟨first, rest, rfl⟩ := List.exists_cons_of_ne_nil hFound
  have hStart := h.start_lt first List.mem_cons_self
  rintro rfl
  cases hStart

namespace Search

/-- The matches of a query in a text start in it. -/
theorem start_lt_of_mem_run {search : Search} {text : Text} {found : Match}
    (h : found ∈ search.run text) : found.start < text.length := by
  rw [run] at h
  split at h
  · cases h
  · cases hPattern : search.pattern? with
    | none =>
        rw [hPattern] at h
        cases h
    | some pattern =>
        rw [hPattern] at h
        simpa using (Pattern.bounds_of_mem_matchesFrom h).2

/-- The matches of a query come in the order of their starts. -/
theorem pairwise_run (search : Search) (text : Text) :
    (search.run text).Pairwise (·.start < ·.start) := by
  rw [run]
  split
  · exact List.Pairwise.nil
  · cases search.pattern? with
    | none => exact List.Pairwise.nil
    | some pattern => exact pattern.pairwise_matchesFrom 0 none 0 text

theorem fit_run (search : Search) (text : Text) : Match.Fit (search.run text) text :=
  ⟨search.pairwise_run text, fun _ h => start_lt_of_mem_run h⟩

end Search

namespace Match

variable {found rest : List Match} {first : Match} {offset : Nat}

/-- The matches as they follow an offset all around the text: those that start after it,
then the others. -/
def tour (found : List Match) (offset : Nat) : List Match :=
  (found.filter fun m => m.start > offset) ++ found.filter fun m => m.start ≤ offset

theorem tour_append {before after : List Match} (hBefore : ∀ m ∈ before, m.start ≤ offset)
    (hAfter : ∀ m ∈ after, offset < m.start) :
    tour (before ++ after) offset = after ++ before := by
  have hNoneBefore : (before.filter fun m => m.start > offset) = [] := by
    simpa [List.filter_eq_nil_iff] using hBefore
  have hAllBefore : (before.filter fun m => m.start ≤ offset) = before := by
    simpa [List.filter_eq_self] using hBefore
  have hAllAfter : (after.filter fun m => m.start > offset) = after := by
    simpa [List.filter_eq_self] using hAfter
  have hNoneAfter : (after.filter fun m => m.start ≤ offset) = [] := by
    simpa [List.filter_eq_nil_iff] using hAfter
  rw [tour, List.filter_append, List.filter_append, hNoneBefore, hAllBefore, hAllAfter,
    hNoneAfter, List.nil_append, List.append_nil]

/-- Matches in the order of their starts are parted by an offset. -/
theorem exists_parts (h : found.Pairwise (·.start < ·.start)) (offset : Nat) :
    ∃ before after, found = before ++ after ∧ (∀ m ∈ before, m.start ≤ offset) ∧
      ∀ m ∈ after, offset < m.start := by
  induction found with
  | nil => exact ⟨[], [], rfl, nofun, nofun⟩
  | cons m found ih =>
      obtain ⟨hFirst, hRest⟩ := List.pairwise_cons.mp h
      by_cases hBefore : m.start ≤ offset
      · obtain ⟨before, after, rfl, hParts⟩ := ih hRest
        exact ⟨m :: before, after, rfl, List.forall_mem_cons.mpr ⟨hBefore, hParts.1⟩, hParts.2⟩
      · refine ⟨[], m :: found, rfl, nofun, List.forall_mem_cons.mpr ⟨by omega, ?_⟩⟩
        intro later hLater
        have hLess := hFirst later hLater
        omega

/-- A tour visits every match once. -/
theorem perm_tour (h : found.Pairwise (·.start < ·.start)) (offset : Nat) :
    (tour found offset).Perm found := by
  obtain ⟨before, after, rfl, hBefore, hAfter⟩ := exists_parts h offset
  rw [tour_append hBefore hAfter]
  exact List.perm_append_comm

theorem nodup_tour (h : found.Pairwise (·.start < ·.start)) (offset : Nat) :
    (tour found offset).Nodup := by
  refine (perm_tour h offset).nodup_iff.mpr (h.imp ?_)
  rintro m later hLess rfl
  exact Nat.lt_irrefl _ hLess

/-- The next match is the first of the tour. -/
theorem nextAfter_eq_head? (found : List Match) (offset : Nat) :
    nextAfter found offset = (tour found offset).head? := by
  rw [nextAfter, tour, List.head?_append, List.head?_filter]
  cases hNext : found.find? fun m => m.start > offset with
  | some next => rfl
  | none =>
      have hAll : (found.filter fun m => m.start ≤ offset) = found := by
        simpa [List.filter_eq_self, List.find?_eq_none] using hNext
      rw [hAll]

theorem mem_of_nextAfter (h : nextAfter found offset = some first) : first ∈ found := by
  rw [nextAfter, Option.or_eq_some_iff] at h
  rcases h with hLater | ⟨-, hFirst⟩
  · exact List.mem_of_find?_eq_some hLater
  · exact List.mem_of_mem_head? hFirst

/-- From the start of its first match a tour goes on and comes back to it last. -/
theorem tour_start (h : found.Pairwise (·.start < ·.start))
    (hTour : tour found offset = first :: rest) : tour found first.start = rest ++ [first] := by
  obtain ⟨before, after, rfl, hBefore, hAfter⟩ := exists_parts h offset
  rw [tour_append hBefore hAfter] at hTour
  obtain ⟨hPairsBefore, hPairsAfter, hAcross⟩ := List.pairwise_append.mp h
  cases after with
  | cons next after =>
      rw [List.cons_append] at hTour
      obtain ⟨rfl, rfl⟩ := List.cons.inj hTour
      obtain ⟨hLater, -⟩ := List.pairwise_cons.mp hPairsAfter
      have hParts : before ++ next :: after = (before ++ [next]) ++ after := by simp
      rw [hParts, tour_append ?_ hLater, List.append_assoc]
      intro m hMem
      rcases List.mem_append.mp hMem with hMem | hMem
      · exact Nat.le_of_lt (hAcross m hMem next List.mem_cons_self)
      · exact Nat.le_of_eq (congrArg Match.start (List.mem_singleton.mp hMem))
  | nil =>
      -- No match starts after the offset, so the tour starts with the first match of all.
      rw [List.nil_append] at hTour
      subst hTour
      obtain ⟨hLater, -⟩ := List.pairwise_cons.mp hPairsBefore
      rw [List.append_nil]
      have hTail : tour ([first] ++ rest) first.start = rest ++ [first] :=
        tour_append (by simp) hLater
      exact hTail

/-- A match is next from the offset before its start. -/
theorem nextAfter_of_start (h : found.Pairwise (·.start < ·.start)) (hMem : first ∈ found)
    (hStart : first.start = offset + 1) : nextAfter found offset = some first := by
  obtain ⟨before, after, rfl⟩ := List.append_of_mem hMem
  obtain ⟨-, hPairsAfter, hAcross⟩ := List.pairwise_append.mp h
  obtain ⟨hLater, -⟩ := List.pairwise_cons.mp hPairsAfter
  have hBefore : ∀ m ∈ before, m.start ≤ offset := by
    intro m hMem
    have hLess := hAcross m hMem first List.mem_cons_self
    omega
  have hAfter : ∀ m ∈ first :: after, offset < m.start := by
    refine List.forall_mem_cons.mpr ⟨by omega, fun m hMem => ?_⟩
    have hLess := hLater m hMem
    omega
  rw [nextAfter_eq_head?, tour_append hBefore hAfter]
  rfl

/-- A tour that is turned by one place has each match one place earlier. -/
theorem getElem?_turn (first : Match) (rest : List Match) (index : Nat) :
    (rest ++ [first])[index % (rest ++ [first]).length]? =
      (first :: rest)[(index + 1) % (first :: rest).length]? := by
  have hLength : (rest ++ [first]).length = (first :: rest).length := by simp
  have hLess : index % (first :: rest).length < rest.length + 1 := Nat.mod_lt _ (by simp)
  rw [hLength, ← Nat.mod_add_mod]
  generalize index % (first :: rest).length = place at hLess
  rw [List.length_cons]
  by_cases hInner : place < rest.length
  · rw [Nat.mod_eq_of_lt (by omega), List.getElem?_append_left hInner, List.getElem?_cons_succ]
  · -- The last place is the one that the first match came to.
    obtain rfl : place = rest.length := by omega
    rw [Nat.mod_self, List.getElem?_append_right (Nat.le_refl _), Nat.sub_self]
    rfl

theorem exists_tour_eq_cons (h : found.Pairwise (·.start < ·.start)) (hFound : found ≠ [])
    (offset : Nat) : ∃ first rest, tour found offset = first :: rest := by
  refine List.exists_cons_of_ne_nil fun hNil => hFound ?_
  have hPerm := perm_tour h offset
  rw [hNil] at hPerm
  exact hPerm.nil_eq.symm

/-- Counted steps from match to match end at the start of the match as many places on in
the tour. -/
theorem followMatches_tour (h : found.Pairwise (·.start < ·.start)) (hFound : found ≠ [])
    (offset count : Nat) :
    ∃ last, (tour found offset)[count % (tour found offset).length]? = some last ∧
      Motion.followMatches (nextAfter found) (count + 1) offset = last.start := by
  induction count generalizing offset with
  | zero =>
      obtain ⟨first, rest, hTour⟩ := exists_tour_eq_cons h hFound offset
      refine ⟨first, by simp [hTour], ?_⟩
      simp [Motion.followMatches, nextAfter_eq_head?, hTour]
  | succ count ih =>
      obtain ⟨first, rest, hTour⟩ := exists_tour_eq_cons h hFound offset
      -- The steps after the first are on the tour that the first step turned.
      obtain ⟨last, hLast, hFollow⟩ := ih first.start
      rw [tour_start h hTour, getElem?_turn] at hLast
      rw [Motion.followMatches, nextAfter_eq_head?, hTour]
      exact ⟨last, hLast, hFollow⟩

end Match

end ModalEditor
