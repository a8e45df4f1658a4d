import ModalEditor.Proofs.Modal.Keys

namespace ModalEditor

/-!
# Keys that ask for more than the engine does

Undoing and redoing are left to whoever keeps the history.  Only two keys of
Normal mode ask for it, they change no text, and the engine is in Normal mode
afterwards.  Searching is left to whoever keeps the search, and only the end of a
typed pattern asks for it.  No other key of these modes has such an outcome.
-/

/-- Whether a key asks for a step in the history. -/
def KeyOutcome.isTravel : KeyOutcome → Bool
  | .undo | .redo => true
  | _ => false

/-- Whether all that a key asks for is done by the engine. -/
def KeyOutcome.isLocal : KeyOutcome → Bool
  | .undo | .redo | .exCommand _ | .search _ => false
  | _ => true

theorem KeyOutcome.isTravel_of_isLocal {outcome : KeyOutcome} (h : outcome.isLocal = true) :
    outcome.isTravel = false := by
  cases outcome with
  | undo | redo => cases h
  | _ => rfl

/-- In Normal mode with nothing pending the engine is idle. -/
theorem ModeState.eq_idle {state : ModeState} (hMode : state.mode = .normal)
    (hPending : state.isPending = false) : state = ModeState.idle := by
  cases state with
  | normal input =>
      cases input with
      | replacement count => cases hPending
      | command pending =>
          obtain ⟨count, operator, operatorCount, afterG⟩ := pending
          cases count <;> cases operator <;> cases operatorCount <;> cases afterG <;>
            first | rfl | cases hPending
  | visual | insert | prompt => cases hMode

namespace Workspace

variable {work : Workspace}

@[simp]
theorem clampCursor_text (work : Workspace) :
    work.clampCursor.buffer.text = work.buffer.text := by
  simp only [clampCursor]
  split <;> rfl

@[simp]
theorem clampCursor_engine (work : Workspace) : work.clampCursor.engine = work.engine := by
  simp only [clampCursor]
  split <;> rfl

@[simp]
theorem clampCursor_register (work : Workspace) : work.clampCursor.register = work.register := by
  simp only [clampCursor]
  split <;> rfl

@[simp]
theorem settle_outcome (result : Workspace × KeyOutcome) : (settle result).2 = result.2 := by
  rw [settle]
  split <;> rfl

@[simp]
theorem settle_engine (result : Workspace × KeyOutcome) :
    (settle result).1.engine = result.1.engine := by
  rw [settle]
  split <;> simp

@[simp]
theorem settle_text (result : Workspace × KeyOutcome) :
    (settle result).1.buffer.text = result.1.buffer.text := by
  rw [settle]
  split <;> simp

@[simp]
theorem settle_register (result : Workspace × KeyOutcome) :
    (settle result).1.register = result.1.register := by
  rw [settle]
  split <;> simp

/-- An operator forgets the column that is kept and leaves the engine as it is otherwise. -/
theorem runOperator_engine (work : Workspace) (surroundings : Surroundings)
    (operator : Operator) (motion : Motion) (count : Count) :
    (work.runOperator surroundings operator motion count).1.engine =
      { work.engine with goal := none } := by
  simp only [runOperator]
  split
  · rfl
  · split <;> rfl

/-! ## Commands -/

theorem OperatorRun.isLocal_outcome (run : OperatorRun) : run.outcome.isLocal = true := by
  cases run <;> rfl

theorem isLocal_discard (work : Workspace) (wasPending : Bool) :
    (work.discard wasPending).2.isLocal = true := by
  cases wasPending <;> rfl

theorem isLocal_operate (work : Workspace) (surroundings : Surroundings)
    (operator : Operator) (motion : Motion) (count : Count) :
    (work.operate surroundings operator motion count).2.isLocal = true := by
  simp only [operate]
  split
  · exact OperatorRun.isLocal_outcome _
  · split
    · rfl
    · split <;> exact OperatorRun.isLocal_outcome _

theorem isLocal_operateOnSelection (work : Workspace) (anchor : Position)
    (operator : Operator) : (work.operateOnSelection anchor operator).2.isLocal = true := by
  simp only [operateOnSelection]
  split <;> rfl

theorem isLocal_replaceChars (work : Workspace) (fill : Char) (count : Nat) :
    (work.replaceChars fill count).2.isLocal = true := by
  rw [replaceChars]
  split <;> rfl

theorem isLocal_repeatLast (work : Workspace) (surroundings : Surroundings) (count : Count) :
    (work.repeatLast surroundings count).2.isLocal = true := by
  rw [repeatLast]
  cases work.engine.lastCommand with
  | none => rfl
  | some command =>
      cases command with
      | operate operator motion recorded => exact OperatorRun.isLocal_outcome _
      | change motion recorded typed =>
          dsimp only
          generalize work.runOperator surroundings .change motion _ = result
          split
          · exact OperatorRun.isLocal_outcome _
          · rfl
      | replace fill recorded =>
          dsimp only
          generalize work.overwrite? fill _ = next
          cases next <;> rfl
      | insert entry typed => rfl

theorem isLocal_complete (work : Workspace) (surroundings : Surroundings)
    (pending : PendingCommand) (motion : Motion) :
    (work.complete surroundings pending motion).2.isLocal = true := by
  simp only [complete]
  split
  · exact isLocal_operate _ _ _ _ _
  · rfl

/-! ## Keys -/

/-- Whether a key that asks for more than the engine does asks for a step in the history,
and leaves the buffer as it was, in Normal mode. -/
def AsksQuietly (work : Workspace) (result : Workspace × KeyOutcome) : Prop :=
  result.2.isLocal = false →
    result.2.isTravel = true ∧ result.1.buffer = work.buffer ∧ result.1.engine.mode = .normal

theorem asksQuietly_of_isLocal {result : Workspace × KeyOutcome}
    (h : result.2.isLocal = true) : work.AsksQuietly result := by
  intro hAsks
  rw [h] at hAsks
  cases hAsks

theorem asksQuietly_pressCommand (work : Workspace) (surroundings : Surroundings)
    (pending : PendingCommand) (c : Char) :
    work.AsksQuietly (work.pressCommand surroundings pending c) := by
  refine pressCommand_cases (P := work.AsksQuietly) ?_ ?_ ?_ ?_ ?_ ?_ ?_ ?_
  · exact fun _ _ => asksQuietly_of_isLocal (isLocal_operate _ _ _ _ _)
  · exact fun _ => asksQuietly_of_isLocal rfl
  · exact asksQuietly_of_isLocal rfl
  · exact fun _ => asksQuietly_of_isLocal (isLocal_repeatLast _ _ _)
  · exact fun _ => ⟨rfl, rfl, rfl⟩
  · exact fun _ => asksQuietly_of_isLocal rfl
  · exact fun _ => asksQuietly_of_isLocal rfl
  · exact fun _ => asksQuietly_of_isLocal (isLocal_discard _ _)

theorem asksQuietly_pressNormal (hMode : work.engine.mode = .normal)
    (surroundings : Surroundings) (input : NormalInput) (key : Key) :
    work.AsksQuietly (work.pressNormal surroundings input key) := by
  have hDiscard (wasPending : Bool) : work.AsksQuietly (work.discard wasPending) :=
    asksQuietly_of_isLocal (isLocal_discard _ _)
  refine pressNormal_cases (P := work.AsksQuietly) ?_ ?_ ?_ hDiscard
  · intro pending c _ _
    refine pressNormalChar_cases (P := work.AsksQuietly) ?_ ?_ hDiscard ?_
    · exact fun _ _ => asksQuietly_of_isLocal (isLocal_complete _ _ _ _)
    · exact fun _ => asksQuietly_of_isLocal rfl
    · exact asksQuietly_pressCommand work surroundings pending c
  · exact fun _ => ⟨rfl, rfl, hMode⟩
  · exact fun _ _ _ _ _ => asksQuietly_of_isLocal (isLocal_replaceChars _ _ _)

theorem isLocal_discardVisual (work : Workspace) (anchor : Position) (wasPending : Bool) :
    (work.discardVisual anchor wasPending).2.isLocal = true := by
  cases wasPending <;> rfl

theorem isLocal_pressVisual (work : Workspace) (surroundings : Surroundings)
    (anchor : Position) (count : Option Nat) (afterG : Bool) (key : Key) :
    (work.pressVisual surroundings anchor count afterG key).2.isLocal = true := by
  cases key with
  | escape => rfl
  | char c =>
      refine pressVisualChar_cases (P := fun result => result.2.isLocal = true) ?_ ?_ ?_ ?_ ?_ ?_
      · exact fun _ _ => rfl
      · exact fun _ _ => rfl
      · exact fun _ _ => isLocal_operateOnSelection _ _ _
      · exact fun _ => rfl
      · rfl
      · exact fun _ => isLocal_discardVisual _ _ _
  | enter | backspace | ctrl => exact isLocal_discardVisual _ _ _

theorem isLocal_pressInsert (work : Workspace) (recording : Option Recording) (typed : Text)
    (key : Key) : (work.pressInsert recording typed key).2.isLocal = true := by
  cases key with
  | escape | char | enter | ctrl => rfl
  | backspace =>
      rw [pressInsert]
      split <;> rfl

theorem isTravel_pressPrompt (work : Workspace) (kind : Prompt) (typed : Text) (key : Key) :
    (work.pressPrompt kind typed key).2.isTravel = false := by
  cases key with
  | escape | char | ctrl => rfl
  | backspace =>
      rw [pressPrompt]
      split <;> rfl
  | enter =>
      cases kind with
      | search => rfl
      | command =>
          simp only [pressPrompt, runTyped]
          split
          · rfl
          · split <;> rfl

theorem mode_of_search_pressPrompt {kind : Prompt} {typed pattern : Text} {key : Key}
    (h : (work.pressPrompt kind typed key).2 = .search pattern) :
    (work.pressPrompt kind typed key).1.engine.mode = .normal := by
  cases key with
  | escape => rfl
  | char | ctrl => cases h
  | backspace =>
      rw [pressPrompt] at h ⊢
      split at h
      next hEmpty =>
        rw [if_pos hEmpty]
        rfl
      next => cases h
  | enter =>
      cases kind with
      | search => rfl
      | command =>
          simp only [pressPrompt, runTyped]
          split
          · rfl
          · split <;> rfl

/-- Outside of the command line a key that asks for more than the engine does is one of
Normal mode that asks for a step in the history.  Neither the mode nor the text is another
one after it. -/
theorem of_isLocal_press_eq_false {surroundings : Surroundings} {key : Key}
    (hMode : work.engine.mode ≠ .commandLine)
    (h : (work.press surroundings key).2.isLocal = false) :
    (work.press surroundings key).2.isTravel = true ∧ work.engine.mode = .normal ∧
      (work.press surroundings key).1.engine.mode = .normal ∧
      (work.press surroundings key).1.buffer.text = work.buffer.text := by
  cases hState : work.engine.state with
  | normal input =>
      have hMode : work.engine.mode = .normal := by rw [Engine.mode, hState]; rfl
      have hQuiet := asksQuietly_pressNormal hMode surroundings input key
      simp only [press, hState, settle_outcome] at h ⊢
      -- Putting the cursor on a character changes neither text nor mode.
      obtain ⟨hTravel, hBuffer, hAfter⟩ := hQuiet h
      rw [settle, hAfter]
      exact ⟨hTravel, hMode, by simpa using hAfter, by simp [hBuffer]⟩
  | visual anchor count afterG =>
      rw [press, hState, settle_outcome, isLocal_pressVisual] at h
      cases h
  | insert recording typed =>
      rw [press, hState, isLocal_pressInsert] at h
      cases h
  | prompt kind typed =>
      rw [Engine.mode, hState] at hMode
      exact absurd rfl hMode

/-- A key that asks for a step in the history is one of Normal mode, and neither
the mode nor the text is another one after it. -/
theorem of_isTravel_press {surroundings : Surroundings} {key : Key}
    (h : (work.press surroundings key).2.isTravel = true) :
    work.engine.mode = .normal ∧ (work.press surroundings key).1.engine.mode = .normal ∧
      (work.press surroundings key).1.buffer.text = work.buffer.text := by
  cases hState : work.engine.state with
  | prompt kind typed =>
      rw [press, hState, isTravel_pressPrompt] at h
      cases h
  | normal | visual | insert =>
      have hMode : work.engine.mode ≠ .commandLine := by
        rw [Engine.mode, hState]
        exact Mode.noConfusion
      refine (of_isLocal_press_eq_false hMode ?_).2
      cases hOutcome : (work.press surroundings key).2 with
      | undo | redo => rfl
      | _ =>
          rw [hOutcome] at h
          cases h

/-- A key that asks for a search ends a pattern typed at the prompt, and Normal mode
follows. -/
theorem mode_of_search_press {surroundings : Surroundings} {key : Key} {pattern : Text}
    (h : (work.press surroundings key).2 = .search pattern) :
    (work.press surroundings key).1.engine.mode = .normal := by
  cases hState : work.engine.state with
  | prompt kind typed =>
      rw [press, hState] at h ⊢
      exact mode_of_search_pressPrompt h
  | normal | visual | insert =>
      have hMode : work.engine.mode ≠ .commandLine := by
        rw [Engine.mode, hState]
        exact Mode.noConfusion
      have hTravel := (of_isLocal_press_eq_false hMode (by rw [h]; rfl)).1
      rw [h] at hTravel
      cases hTravel

/-! ## Asking with nothing pending -/

/-- With nothing pending `u` asks for undoing. -/
theorem press_undo_of_idle (h : work.engine.state = ModeState.idle)
    (surroundings : Surroundings) :
    work.press surroundings (.char 'u') = ((work.enter ModeState.idle).clampCursor, .undo) := by
  rw [press, h]
  rfl

/-- With nothing pending Control with `r` asks for redoing. -/
theorem press_redo_of_idle (h : work.engine.state = ModeState.idle)
    (surroundings : Surroundings) :
    work.press surroundings (.ctrl 'r') = (work.clampCursor, .redo) := by
  have hMode : work.engine.mode = .normal := by rw [Engine.mode, h]; rfl
  have hNormal : work.pressNormal surroundings (.command PendingCommand.none) (.ctrl 'r') =
      (work, .redo) := rfl
  simp only [press, h, ModeState.idle, hNormal, settle, hMode]

end Workspace

end ModalEditor
