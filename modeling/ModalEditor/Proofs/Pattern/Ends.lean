import ModalEditor.Pattern.Basic

namespace ModalEditor

/-!
# Where matches end

However a pattern is built, from a place in a text it leads only to places further on in the
same text.  Each way to put patterns together keeps this, also a repetition without a bound,
whose walk finds its ends one by one.
-/

/-- Whether a place is further on in the same text than another, or is that place. -/
structure Spot.LeadsTo (spot later : Spot) : Prop where
  offset_le : spot.offset ≤ later.offset
  stop_eq : later.offset + later.rest.length = spot.offset + spot.rest.length

namespace Spot

variable {spot later last : Spot}

theorem LeadsTo.refl (spot : Spot) : spot.LeadsTo spot := ⟨Nat.le_refl _, rfl⟩

theorem LeadsTo.trans (h : spot.LeadsTo later) (hLast : later.LeadsTo last) :
    spot.LeadsTo last :=
  ⟨Nat.le_trans h.offset_le hLast.offset_le, hLast.stop_eq.trans h.stop_eq⟩

/-- No place is past the end of the text. -/
theorem LeadsTo.offset_le_end (h : spot.LeadsTo later) :
    later.offset ≤ spot.offset + spot.rest.length := by
  have hStop := h.stop_eq
  omega

theorem leadsTo_of_next? {set : CharSet} (h : spot.next? set = some later) :
    spot.LeadsTo later := by
  rw [next?] at h
  split at h
  · cases h
  next c rest hRest =>
    split at h
    · cases h
      exact ⟨Nat.le_succ _, by simp [hRest]; omega⟩
    · cases h

end Spot

/-- Whether a step from any place leads further on in the text. -/
def LeadsOn (step : Spot → List Spot) : Prop :=
  ∀ spot, ∀ later ∈ step spot, spot.LeadsTo later

theorem mem_of_mem_distinctSpots {seen : List Nat} {spots : List Spot} {spot : Spot}
    (h : spot ∈ distinctSpots seen spots) : spot ∈ spots := by
  induction spots generalizing seen with
  | nil => cases h
  | cons first spots ih =>
      rw [distinctSpots] at h
      split at h
      · exact List.mem_cons_of_mem first (ih h)
      · rcases List.mem_cons.mp h with rfl | hLater
        · exact List.mem_cons_self
        · exact List.mem_cons_of_mem first (ih hLater)

namespace Pattern

variable {step : Spot → List Spot} {spot origin : Spot}

/-! ## Repetitions -/

theorem runSpots_nil (set : CharSet) (max : Option Nat) (spot : Spot) :
    runSpots set max spot [] = [spot] := by
  match max with
  | none | some 0 | some (_ + 1) => rfl

/-- A run stays where it is or goes on over one character. -/
theorem mem_runSpots_cons {set : CharSet} {max : Option Nat} {c : Char} {rest : Text}
    {later : Spot} (h : later ∈ runSpots set max spot (c :: rest)) :
    later = spot ∨
      later ∈ runSpots set (max.map (· - 1)) ⟨spot.offset + 1, some c, rest⟩ rest := by
  match max with
  | some 0 => exact Or.inl (List.mem_singleton.mp h)
  | none | some (_ + 1) =>
      rw [runSpots] at h
      · split at h
        · exact List.mem_cons.mp h
        · exact Or.inl (List.mem_singleton.mp h)
      · nofun

theorem leadsTo_of_mem_runSpots {set : CharSet} {max : Option Nat} {text : Text} {later : Spot}
    (hText : spot.rest = text) (h : later ∈ runSpots set max spot text) : spot.LeadsTo later := by
  induction text generalizing max spot with
  | nil =>
      rw [runSpots_nil] at h
      obtain rfl := List.mem_singleton.mp h
      exact Spot.LeadsTo.refl _
  | cons c rest ih =>
      rcases mem_runSpots_cons h with rfl | hLater
      · exact Spot.LeadsTo.refl _
      · have hNext : spot.LeadsTo ⟨spot.offset + 1, some c, rest⟩ :=
          ⟨Nat.le_succ _, by simp [hText]; omega⟩
        exact hNext.trans (ih rfl hLater)

theorem leadsOn_runEnds (set : CharSet) (min : Nat) (max : Option Nat) (greedy : Bool) :
    LeadsOn (runEnds set min max greedy) := by
  intro spot later h
  rw [runEnds] at h
  have hRun : later ∈ (runSpots set max spot spot.rest).drop min := by
    split at h
    · exact List.mem_reverse.mp h
    · exact h
  exact leadsTo_of_mem_runSpots rfl (List.mem_of_mem_drop hRun)

theorem leadsTo_of_mem_stepAll (h : LeadsOn step) {spots : List Spot}
    (hSpots : ∀ later ∈ spots, origin.LeadsTo later) :
    ∀ later ∈ stepAll step spots, origin.LeadsTo later := by
  intro later hLater
  obtain ⟨between, hBetween, hStep⟩ := List.mem_flatMap.mp (mem_of_mem_distinctSpots hLater)
  exact (hSpots between hBetween).trans (h between later hStep)

theorem leadsOn_exactly (h : LeadsOn step) (count : Nat) : LeadsOn (exactly step count) := by
  induction count with
  | zero =>
      intro spot later hLater
      obtain rfl := List.mem_singleton.mp hLater
      exact Spot.LeadsTo.refl _
  | succ count ih =>
      intro spot
      exact leadsTo_of_mem_stepAll ih (h spot)

theorem leadsOn_atMost (h : LeadsOn step) (greedy : Bool) (count : Nat) :
    LeadsOn (atMost step greedy count) := by
  induction count with
  | zero =>
      intro spot later hLater
      obtain rfl := List.mem_singleton.mp hLater
      exact Spot.LeadsTo.refl _
  | succ count ih =>
      intro spot later hLater
      have hEither : later ∈ (step spot).flatMap (atMost step greedy count) ∨ later = spot := by
        have hMem := mem_of_mem_distinctSpots hLater
        split at hMem
        · simpa using hMem
        · simpa [or_comm] using hMem
      rcases hEither with hFurther | rfl
      · obtain ⟨between, hBetween, hStep⟩ := List.mem_flatMap.mp hFurther
        exact (h spot between hBetween).trans (ih between later hStep)
      · exact Spot.LeadsTo.refl _

/-- Whether all ends that a walk found are further on than where it started. -/
def Walk.LeadsFrom (origin : Spot) (state : Walk) : Prop :=
  ∀ later ∈ state.ends, origin.LeadsTo later

theorem Walk.LeadsFrom.cons {state : Walk} (h : state.LeadsFrom origin) {later : Spot}
    (hLater : origin.LeadsTo later) (visited : List Nat) :
    Walk.LeadsFrom origin ⟨visited, later :: state.ends⟩ :=
  List.forall_mem_cons.mpr ⟨hLater, h⟩

/-- What visiting each place keeps, visiting them in turn keeps. -/
theorem leadsFrom_foldl {visit : Walk → Spot → Walk} {spots : List Spot}
    (hSpots : ∀ later ∈ spots, origin.LeadsTo later)
    (hVisit : ∀ state later, Walk.LeadsFrom origin state → origin.LeadsTo later →
      Walk.LeadsFrom origin (visit state later))
    {state : Walk} (h : state.LeadsFrom origin) :
    Walk.LeadsFrom origin (spots.foldl visit state) := by
  induction spots generalizing state with
  | nil => exact h
  | cons first spots ih =>
      obtain ⟨hFirst, hRest⟩ := List.forall_mem_cons.mp hSpots
      exact ih hRest (hVisit state first h hFirst)

theorem leadsFrom_walk (h : LeadsOn step) (greedy : Bool) (fuel : Nat) {state : Walk}
    (hState : state.LeadsFrom origin) (hSpot : origin.LeadsTo spot) :
    Walk.LeadsFrom origin (walk step greedy fuel state spot) := by
  induction fuel generalizing state spot with
  | zero => exact hState
  | succ fuel ih =>
      have hOnward {state : Walk} (hState : state.LeadsFrom origin) :
          Walk.LeadsFrom origin ((step spot).foldl (walk step greedy fuel) state) :=
        leadsFrom_foldl (fun later hLater => hSpot.trans (h spot later hLater))
          (fun _ _ => ih) hState
      have hVisited : Walk.LeadsFrom origin { state with visited := spot.offset :: state.visited } :=
        hState
      rw [walk]
      split
      · exact hState
      · dsimp only
        split
        · exact (hOnward hVisited).cons hSpot _
        · exact hOnward (hState.cons hSpot _)

theorem leadsOn_atLeastOnce (h : LeadsOn step) (greedy : Bool) :
    LeadsOn (atLeastOnce step greedy) := by
  intro spot later hLater
  have hNone : Walk.LeadsFrom spot ⟨[], []⟩ := List.forall_mem_nil _
  refine leadsFrom_foldl (h spot) ?_ hNone later (List.mem_reverse.mp hLater)
  intro state next hState hNext
  split
  · split
    · exact hState
    · exact hState.cons hNext _
  · exact leadsFrom_walk h greedy _ hState hNext

theorem leadsOn_repeatEnds (h : LeadsOn step) (min : Nat) (max : Option Nat) (greedy : Bool) :
    LeadsOn (repeatEnds step min max greedy) := by
  intro spot
  cases max with
  | some max => exact leadsTo_of_mem_stepAll (leadsOn_atMost h greedy _) (leadsOn_exactly h min spot)
  | none =>
      cases min with
      | succ min =>
          exact leadsTo_of_mem_stepAll (leadsOn_atLeastOnce h greedy) (leadsOn_exactly h min spot)
      | zero =>
          intro later hLater
          have hEither : later ∈ atLeastOnce step greedy spot ∨ later = spot := by
            have hMem := mem_of_mem_distinctSpots hLater
            split at hMem
            · simpa using hMem
            · simpa [or_comm] using hMem
          rcases hEither with hOnce | rfl
          · exact leadsOn_atLeastOnce h greedy spot later hOnce
          · exact Spot.LeadsTo.refl _

/-! ## Patterns -/

/-- A pattern leads further on in the text. -/
theorem leadsOn_ends (pattern : Pattern) : LeadsOn pattern.ends := by
  induction pattern with
  | empty =>
      intro spot later h
      obtain rfl := List.mem_singleton.mp h
      exact Spot.LeadsTo.refl _
  | one set =>
      intro spot later h
      exact Spot.leadsTo_of_next? (Option.mem_toList.mp h)
  | check assertion =>
      intro spot later h
      rw [ends] at h
      split at h
      · obtain rfl := List.mem_singleton.mp h
        exact Spot.LeadsTo.refl _
      · cases h
  | sequence first second ihFirst ihSecond =>
      intro spot
      exact leadsTo_of_mem_stepAll ihSecond (ihFirst spot)
  | either first second ihFirst ihSecond =>
      intro spot later h
      rcases List.mem_append.mp (mem_of_mem_distinctSpots h) with hFirst | hSecond
      · exact ihFirst spot later hFirst
      · exact ihSecond spot later hSecond
  | repetition body min max greedy ih =>
      cases body with
      | one set => exact leadsOn_runEnds set min max greedy
      | _ => exact leadsOn_repeatEnds ih min max greedy

/-- A match ends between where it starts and the end of the text. -/
theorem bounds_of_firstEnd? {pattern : Pattern} {stop : Nat}
    (h : pattern.firstEnd? spot = some stop) :
    spot.offset ≤ stop ∧ stop ≤ spot.offset + spot.rest.length := by
  obtain ⟨later, hLater, rfl⟩ := Option.map_eq_some_iff.mp h
  have hLeads := pattern.leadsOn_ends spot later (List.mem_of_mem_head? hLater)
  exact ⟨hLeads.offset_le, hLeads.offset_le_end⟩

end Pattern

end ModalEditor
