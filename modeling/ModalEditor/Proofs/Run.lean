namespace ModalEditor

/-!
# Runs that keep a property

A run is a list of actions, one after the other.  Some properties are kept by all actions but
those that are not allowed where they are done.  A run then has the property throughout
exactly if all of its actions are allowed.
-/

/-- If actions keep a property exactly where they are allowed, then a run that starts
with it has it throughout exactly if each action is allowed where it is done. -/
theorem forall_foldl_take_iff {State Action : Type} {step : State → Action → State}
    {motive : State → Prop} {Allows : State → Action → Prop}
    (hStep : ∀ {state}, motive state → ∀ action, motive (step state action) ↔ Allows state action)
    {start : State} (hStart : motive start) (actions : List Action) :
    (∀ n, motive ((actions.take n).foldl step start)) ↔
      ∀ n action, actions[n]? = some action →
        Allows ((actions.take n).foldl step start) action := by
  induction actions generalizing start with
  | nil =>
      refine ⟨fun _ n action hAction => by simp at hAction, fun _ n => ?_⟩
      rw [List.take_nil]
      exact hStart
  | cons next actions ih =>
      constructor
      · intro hHolds n action hAction
        have hNext : motive (step start next) := hHolds 1
        cases n with
        | zero =>
            cases hAction
            exact (hStep hStart next).mp hNext
        | succ n => exact (ih hNext).mp (fun n => hHolds (n + 1)) n action hAction
      · intro hAllows n
        have hNext := (hStep hStart next).mpr (hAllows 0 next rfl)
        cases n with
        | zero => exact hStart
        | succ n => exact (ih hNext).mpr (fun n => hAllows (n + 1)) n

/-- If an invariant stays exactly where a property that it implies is kept, and the property
is kept exactly where actions are allowed, then a run that starts with the invariant has the
property throughout exactly if each action is allowed where it is done. -/
theorem forall_foldl_take_iff_of_keeps {State Action : Type} {step : State → Action → State}
    {motive Holds : State → Prop} {Allows : State → Action → Prop}
    (hHolds : ∀ {state}, motive state → Holds state)
    (hKeeps : ∀ {state}, motive state → ∀ action,
      Holds (step state action) → motive (step state action))
    (hStep : ∀ {state}, motive state → ∀ action, Holds (step state action) ↔ Allows state action)
    {start : State} (hStart : motive start) (actions : List Action) :
    (∀ n, Holds ((actions.take n).foldl step start)) ↔
      ∀ n action, actions[n]? = some action →
        Allows ((actions.take n).foldl step start) action := by
  have hRun := forall_foldl_take_iff (motive := motive) (fun {state} h action =>
    ⟨fun hNext => (hStep h action).mp (hHolds hNext),
      fun hAllows => hKeeps h action ((hStep h action).mpr hAllows)⟩) hStart actions
  refine ⟨fun hAll => hRun.mp fun n => ?_, fun hAllows n => hHolds (hRun.mpr hAllows n)⟩
  induction n with
  | zero => exact hStart
  | succ n ih =>
      have hNext := hAll (n + 1)
      rw [List.take_add_one] at hNext ⊢
      cases hAction : actions[n]? with
      | none => simpa using ih
      | some action =>
          rw [hAction, Option.toList_some, List.foldl_append] at hNext
          rw [Option.toList_some, List.foldl_append]
          exact hKeeps ih action hNext

end ModalEditor
