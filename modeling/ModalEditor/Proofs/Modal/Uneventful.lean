import ModalEditor.Proofs.Modal.Cursor
import ModalEditor.Proofs.Modal.Outcome

namespace ModalEditor

/-!
# Keys that do nothing

A key that waits for more, cancels what was pending or is ignored says so by its
outcome.  Refusals come from all depths: keys without a meaning, vertical motions at
the edge of the text, operators over empty spans, replacements past the end of a line,
nothing to delete or to repeat.  Whatever was tried before, the text, the cursor, the
register and the command to be repeated are those of before the key, and what was
cancelled or ignored leaves nothing pending.
-/

/-- Whether an outcome says that nothing was done. -/
def KeyOutcome.isUneventful : KeyOutcome → Bool
  | .pending | .cancelled | .ignored => true
  | _ => false

namespace Workspace

variable {work : Workspace}

/-- What a key leaves alone that does nothing. -/
structure Untouched (work next : Workspace) : Prop where
  buffer : next.buffer = work.buffer
  register : next.register = work.register
  lastCommand : next.engine.lastCommand = work.engine.lastCommand

theorem untouched_self (work : Workspace) : work.Untouched work :=
  ⟨rfl, rfl, rfl⟩

theorem untouched_enter (work : Workspace) (state : ModeState) :
    work.Untouched (work.enter state) :=
  ⟨rfl, rfl, rfl⟩

theorem untouched_setGoal (work : Workspace) (goal : Option GoalColumn) :
    work.Untouched (work.setGoal goal) :=
  ⟨rfl, rfl, rfl⟩

/-- What a key comes to that leaves everything alone if it says so, and has nothing
pending unless it waits for more. -/
structure KeepsStill (work : Workspace) (result : Workspace × KeyOutcome) : Prop where
  untouched : result.2.isUneventful = true → work.Untouched result.1
  settled : result.2 = .cancelled ∨ result.2 = .ignored → result.1.engine.state.isPending = false

theorem keepsStill_of_eventful {result : Workspace × KeyOutcome}
    (h : result.2.isUneventful = false) : work.KeepsStill result := by
  constructor
  · intro hUneventful
    rw [h] at hUneventful
    cases hUneventful
  · rintro (hOutcome | hOutcome) <;> rw [hOutcome] at h <;> cases h

/-- Input that waits for more only changes the state of the engine. -/
theorem keepsStill_of_pending {next : Workspace} (h : work.Untouched next) :
    work.KeepsStill (next, .pending) := by
  refine ⟨fun _ => h, ?_⟩
  rintro (hOutcome | hOutcome) <;> cases hOutcome

theorem keepsStill_of_untouched {result : Workspace × KeyOutcome} (h : work.Untouched result.1)
    (hState : result.1.engine.state.isPending = false) : work.KeepsStill result :=
  ⟨fun _ => h, fun _ => hState⟩

/-- What holds of the workspace in another state of the engine holds of the workspace. -/
theorem KeepsStill.of_enter {state : ModeState} {result : Workspace × KeyOutcome}
    (h : (work.enter state).KeepsStill result) : work.KeepsStill result := by
  refine ⟨fun hUneventful => ?_, h.settled⟩
  obtain ⟨hBuffer, hRegister, hLast⟩ := h.untouched hUneventful
  exact ⟨hBuffer, hRegister, hLast⟩

/-! ## Commands -/

section Command

variable (hState : work.engine.state.isPending = false)

include hState

/-- An operator that does nothing only forgets the column kept by vertical motions. -/
theorem keepsStill_runOperator (surroundings : Surroundings) (operator : Operator)
    (motion : Motion) (count : Count) :
    work.KeepsStill ((work.runOperator surroundings operator motion count).1,
      (work.runOperator surroundings operator motion count).2.outcome) := by
  simp only [runOperator]
  split
  · exact keepsStill_of_untouched (work.untouched_setGoal none) hState
  · split
    · exact keepsStill_of_untouched (work.untouched_setGoal none) hState
    · split
      · exact keepsStill_of_eventful rfl
      · exact keepsStill_of_eventful rfl

theorem keepsStill_operate (surroundings : Surroundings) (operator : Operator)
    (motion : Motion) (count : Count) :
    work.KeepsStill (work.operate surroundings operator motion count) := by
  have hRun := keepsStill_runOperator hState surroundings operator motion count
  simp only [operate]
  generalize work.runOperator surroundings operator motion count = result at hRun ⊢
  split
  · exact hRun
  · split
    · exact keepsStill_of_eventful rfl
    · split
      next hRan =>
        -- A command is remembered only once it did something.
        refine keepsStill_of_eventful ?_
        cases hOutcome : result.2 with
        | blocked => contradiction
        | idle => exact absurd hOutcome hRan.1
        | copied | edited => rfl
      next => exact hRun

theorem keepsStill_replaceChars (fill : Char) (count : Nat) :
    work.KeepsStill (work.replaceChars fill count) := by
  rw [replaceChars]
  split
  · exact keepsStill_of_eventful rfl
  · exact keepsStill_of_untouched work.untouched_self hState

theorem keepsStill_repeatLast (surroundings : Surroundings) (count : Count) :
    work.KeepsStill (work.repeatLast surroundings count) := by
  rw [repeatLast]
  cases work.engine.lastCommand with
  | none => exact keepsStill_of_untouched work.untouched_self hState
  | some command =>
      cases command with
      | operate operator motion recorded => exact keepsStill_runOperator hState _ _ _ _
      | change motion recorded typed =>
          dsimp only
          generalize (if count.typed = true then count else recorded) = chosen
          have hRun := keepsStill_runOperator hState surroundings .change motion chosen
          split
          · exact hRun
          · exact keepsStill_of_eventful rfl
      | replace fill recorded =>
          dsimp only
          split
          · exact keepsStill_of_eventful rfl
          · exact keepsStill_of_untouched work.untouched_self hState
      | insert entry typed => exact keepsStill_of_eventful rfl

end Command

/-! ## Keys -/

theorem isPending_enter_idle (work : Workspace) :
    (work.enter ModeState.idle).engine.state.isPending = false := rfl

theorem keepsStill_await (work : Workspace) (input : NormalInput) :
    work.KeepsStill (work.await input) :=
  keepsStill_of_pending (work.untouched_enter _)

theorem keepsStill_discard (work : Workspace) (wasPending : Bool) :
    work.KeepsStill (work.discard wasPending) :=
  keepsStill_of_untouched (work.untouched_enter ModeState.idle) rfl

theorem keepsStill_complete (work : Workspace) (surroundings : Surroundings)
    (pending : PendingCommand) (motion : Motion) :
    work.KeepsStill (work.complete surroundings pending motion) := by
  simp only [complete]
  split
  · exact (keepsStill_operate work.isPending_enter_idle _ _ _ _).of_enter
  · exact keepsStill_of_eventful rfl

theorem keepsStill_pressCommand (work : Workspace) (surroundings : Surroundings)
    (pending : PendingCommand) (c : Char) :
    work.KeepsStill (work.pressCommand surroundings pending c) := by
  refine pressCommand_cases (P := work.KeepsStill) ?_ ?_ ?_ ?_ ?_ ?_ ?_ ?_
  · exact fun operator motion =>
      (keepsStill_operate work.isPending_enter_idle _ operator motion _).of_enter
  · exact work.keepsStill_await
  · exact keepsStill_of_eventful rfl
  · exact fun _ => (keepsStill_repeatLast work.isPending_enter_idle _ _).of_enter
  · exact keepsStill_of_eventful rfl
  · exact fun _ => keepsStill_of_eventful rfl
  · exact fun _ => keepsStill_of_eventful rfl
  · exact work.keepsStill_discard

theorem keepsStill_pressNormal (work : Workspace) (surroundings : Surroundings)
    (input : NormalInput) (key : Key) :
    work.KeepsStill (work.pressNormal surroundings input key) := by
  refine pressNormal_cases (P := work.KeepsStill) ?_ ?_ ?_ work.keepsStill_discard
  · intro pending c _ _
    refine pressNormalChar_cases (P := work.KeepsStill) ?_ work.keepsStill_await
      work.keepsStill_discard ?_
    · exact fun pending motion => work.keepsStill_complete surroundings pending motion
    · exact work.keepsStill_pressCommand surroundings pending c
  · exact keepsStill_of_eventful rfl
  · exact fun _ fill count _ _ =>
      (keepsStill_replaceChars work.isPending_enter_idle fill count).of_enter

theorem keepsStill_discardVisual (work : Workspace) (anchor : Position) (wasPending : Bool) :
    work.KeepsStill (work.discardVisual anchor wasPending) :=
  keepsStill_of_untouched (work.untouched_enter _) rfl

theorem keepsStill_pressVisual (work : Workspace) (surroundings : Surroundings)
    (anchor : Position) (count : Option Nat) (afterG : Bool) (key : Key) :
    work.KeepsStill (work.pressVisual surroundings anchor count afterG key) := by
  cases key with
  | escape => exact keepsStill_of_eventful rfl
  | char c =>
      refine pressVisualChar_cases (P := work.KeepsStill) ?_ ?_ ?_ ?_ ?_ ?_
      · exact fun _ _ => keepsStill_of_eventful rfl
      · exact fun _ _ => keepsStill_of_pending (work.untouched_enter _)
      · intro operator _
        refine keepsStill_of_eventful ?_
        simp only [operateOnSelection]
        split <;> rfl
      · exact fun _ => keepsStill_of_eventful rfl
      · exact keepsStill_of_eventful rfl
      · exact work.keepsStill_discardVisual anchor
  | enter | backspace | ctrl => exact work.keepsStill_discardVisual anchor _

theorem keepsStill_pressInsert {recording : Option Recording} {typed : Text}
    (hState : work.engine.state = .insert recording typed) (key : Key) :
    work.KeepsStill (work.pressInsert recording typed key) := by
  have hStill : work.KeepsStill (work, .ignored) :=
    keepsStill_of_untouched work.untouched_self (by rw [hState]; rfl)
  cases key with
  | escape | char | enter => exact keepsStill_of_eventful rfl
  | backspace =>
      rw [pressInsert]
      split
      · exact keepsStill_of_eventful rfl
      · exact hStill
  | ctrl c => exact hStill

theorem keepsStill_runTyped (hState : work.engine.state.isPending = false) (typed : Text) :
    work.KeepsStill (work.runTyped typed) := by
  simp only [runTyped]
  split
  · exact keepsStill_of_untouched work.untouched_self hState
  · split
    · exact keepsStill_of_eventful rfl
    · exact keepsStill_of_eventful rfl

theorem keepsStill_pressPrompt {kind : Prompt} {typed : Text}
    (hState : work.engine.state = .prompt kind typed) (key : Key) :
    work.KeepsStill (work.pressPrompt kind typed key) := by
  cases key with
  | escape => exact keepsStill_of_eventful rfl
  | char c => exact keepsStill_of_pending (work.untouched_enter _)
  | backspace =>
      rw [pressPrompt]
      split
      · exact keepsStill_of_eventful rfl
      · exact keepsStill_of_pending (work.untouched_enter _)
  | enter =>
      cases kind with
      | search => exact keepsStill_of_eventful rfl
      | command => exact (keepsStill_runTyped work.isPending_enter_idle typed).of_enter
  | ctrl c =>
      have hPending : work.engine.state.isPending = false := by rw [hState]; rfl
      exact keepsStill_of_untouched work.untouched_self hPending

/-- Where the buffer stayed as it was, the cursor already stands on a character, so
nothing is left to do after the key. -/
theorem KeepsStill.settle {result : Workspace × KeyOutcome} (h : work.KeepsStill result)
    (hOn : work.buffer.OnCharacter) : work.KeepsStill (settle result) := by
  refine ⟨fun hUneventful => ?_, fun hOutcome => ?_⟩
  · rw [settle_outcome] at hUneventful
    have hUntouched := h.untouched hUneventful
    have hClamp : result.1.clampCursor = result.1 := by
      refine clampCursor_of_onCharacter ?_
      rw [hUntouched.buffer]
      exact hOn
    have hSettle : (Workspace.settle result).1 = result.1 := by
      rw [Workspace.settle]
      split
      · exact hClamp
      · exact hClamp
      · rfl
      · rfl
    rw [hSettle]
    exact hUntouched
  · rw [settle_outcome] at hOutcome
    rw [settle_engine]
    exact h.settled hOutcome

theorem WellPlaced.keepsStill_press (h : work.WellPlaced) (surroundings : Surroundings)
    (key : Key) : work.KeepsStill (work.press surroundings key) := by
  rw [Workspace.press]
  cases hState : work.engine.state with
  | normal input =>
      have hOn := h.onCharacter (by simp [Engine.mode, hState, ModeState.mode])
      exact (work.keepsStill_pressNormal surroundings input key).settle hOn
  | visual anchor count afterG =>
      have hOn := h.onCharacter (by simp [Engine.mode, hState, ModeState.mode])
      exact (work.keepsStill_pressVisual surroundings anchor count afterG key).settle hOn
  | insert recording typed => exact keepsStill_pressInsert hState key
  | prompt kind typed => exact keepsStill_pressPrompt hState key

/-- After any keys, a key that is pending, cancelled or ignored leaves the text, the
cursor, the register and the command to be repeated as they were before it, and one that
is cancelled or ignored leaves nothing pending. -/
theorem uneventful_keys_change_nothing (text : Text) (tabSize : Nat)
    (keys : List (Surroundings × Key)) (surroundings : Surroundings) (key : Key) :
    let work := (ofBuffer ⟨text, Position.origin, tabSize⟩).pressAll keys
    let next := (work.press surroundings key).1
    let outcome := (work.press surroundings key).2
    (outcome = .pending ∨ outcome = .cancelled ∨ outcome = .ignored →
        next.buffer.text = work.buffer.text ∧ next.buffer.cursor = work.buffer.cursor ∧
          next.register = work.register ∧
          next.engine.lastCommand = work.engine.lastCommand) ∧
      (outcome = .cancelled ∨ outcome = .ignored → next.engine.state.isPending = false) := by
  intro work next outcome
  have hStill := ((wellPlaced_ofBuffer text tabSize).pressAll keys).keepsStill_press
    surroundings key
  refine ⟨fun hOutcome => ?_, hStill.settled⟩
  have hUneventful : outcome.isUneventful = true := by
    rcases hOutcome with hOutcome | hOutcome | hOutcome <;> rw [hOutcome] <;> rfl
  obtain ⟨hBuffer, hRegister, hLast⟩ := hStill.untouched hUneventful
  exact ⟨congrArg Buffer.text hBuffer, congrArg Buffer.cursor hBuffer, hRegister, hLast⟩

/-- On the first line two lines cannot be deleted upwards.  The character that was deleted
before stays in the register, and its deletion is what would be repeated. -/
theorem deletion_upwards_is_cancelled_on_first_line :
    let work := (ofBuffer ⟨['a', 'b'], Position.origin, 4⟩).pressAll
      (['x', '2', 'd'].map fun c => (Surroundings.unknown, Key.char c))
    let next := (work.press Surroundings.unknown (.char 'k')).1
    (work.press Surroundings.unknown (.char 'k')).2 = .cancelled ∧
      work.engine.state.isPending = true ∧ next.engine.state.isPending = false ∧
      next.buffer.text = ['b'] ∧ next.register.last = some ⟨['a'], false⟩ ∧
      next.engine.lastCommand = some (.operate .delete .right ⟨1, false⟩) := by
  intro work next
  have hCancelled : (work.press Surroundings.unknown (.char 'k')).2 = .cancelled := rfl
  obtain ⟨hKept, hSettled⟩ := uneventful_keys_change_nothing ['a', 'b'] 4
    (['x', '2', 'd'].map fun c => (Surroundings.unknown, Key.char c)) Surroundings.unknown
    (.char 'k')
  obtain ⟨hText, -, hRegister, hLast⟩ := hKept (Or.inr (Or.inl hCancelled))
  exact ⟨hCancelled, rfl, hSettled (Or.inl hCancelled), hText.trans rfl,
    congrArg Register.last hRegister, hLast.trans rfl⟩

end Workspace

end ModalEditor
