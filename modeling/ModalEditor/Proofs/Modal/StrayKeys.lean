import ModalEditor.Proofs.Modal.KeptColumn

namespace ModalEditor

/-!
# Keys that no command has a use for

While part of a command is pending, a key that neither goes on with it nor ends it
takes back all that is pending, and nothing runs.  The key says so by its outcome,
unless a lone `g` or `r` was all that was pending.  That one is taken back before it is
looked at what is pending, which is then nothing, so the key says that it was ignored.
-/

/-- Whether a character is a digit, a motion or the start of one. -/
def startsMotion (c : Char) : Bool :=
  (digitValue? c).isSome || c = 'g' || (Motion.ofKey? c).isSome

/-- Whether a character is a command of Normal mode by itself, or with one more after it. -/
def isCommandKey (c : Char) : Bool :=
  ['x', 'D', 'C', 'r', 'v', '.', 'u'].contains c || (Prompt.ofKey? c).isSome ||
    (InsertEntry.ofKey? c).isSome

/-- Whether a character goes on with a command of Normal mode or ends it. -/
def PendingCommand.takes (pending : PendingCommand) (c : Char) : Bool :=
  if pending.afterG then c = 'g'
  else
    startsMotion c ||
      match pending.operator with
      | .some operator => c = operator.key
      | .none => (Operator.ofKey? c).isSome || isCommandKey c

/-- Whether a character goes on with a command of Visual mode or ends it. -/
def takesSelecting (afterG : Bool) (c : Char) : Bool :=
  if afterG then c = 'g'
  else
    startsMotion c || (Operator.ofKey? c).isSome || (Prompt.ofKey? c).isSome || c = 'v' || c = 'x'

namespace ModeState

/-- Whether a key goes on with what is pending in Normal or Visual mode or ends it.  Escape
ends a selection. -/
def takes : ModeState → Key → Bool
  | .normal (.command pending), .char c => pending.takes c
  | .normal (.command pending), .ctrl 'r' => !pending.isPending
  | .normal (.replacement _), key => key.fill?.isSome
  | .visual _ _ afterG, .char c => takesSelecting afterG c
  | .visual .., .escape => true
  | _, _ => false

/-- The same mode with nothing pending. -/
def cleared : ModeState → ModeState
  | .normal _ => idle
  | .visual anchor .. => .visual anchor none false
  | state => state

/-- Whether a key that has no use finds a lone `g` or `r` and takes it back before it is
looked at. -/
def forgets : ModeState → Key → Bool
  | .normal (.command pending), .char _ => pending = ⟨none, none, none, true⟩
  | .normal (.replacement count), .backspace | .normal (.replacement count), .ctrl _ =>
      count.isNone
  | .visual _ count afterG, .char _ => count.isNone && afterG
  | _, _ => false

theorem isPending_cleared (state : ModeState) : state.cleared.isPending = false := by
  cases state <;> rfl

theorem mode_cleared (state : ModeState) : state.cleared.mode = state.mode := by
  cases state <;> rfl

/-- In Insert mode nothing is pending. -/
theorem mode_ne_insert {state : ModeState} (h : state.isPending = true) :
    state.mode ≠ .insert := by
  cases state with
  | insert => cases h
  | normal | visual | prompt => exact Mode.noConfusion

end ModeState

namespace PendingCommand

variable {pending : PendingCommand}

/-- Without the `g` something is pending, unless it was all there was. -/
theorem isPending_without_g (h : pending.isPending = true) :
    { pending with afterG := false }.isPending =
      !decide (pending = ⟨Option.none, Option.none, Option.none, true⟩) := by
  obtain ⟨count, operator, operatorCount, afterG⟩ := pending
  cases count <;> cases operator <;> cases operatorCount <;> cases afterG <;>
    first | rfl | cases h

end PendingCommand

theorem of_startsMotion_eq_false {c : Char} (h : startsMotion c = false) :
    digitValue? c = none ∧ c ≠ 'g' ∧ Motion.ofKey? c = none := by
  simpa [startsMotion, and_assoc] using h

namespace Workspace

variable {work : Workspace} {surroundings : Surroundings}

/-- A character that is no command by itself is discarded. -/
theorem pressCommand_of_isCommandKey_eq_false {c : Char} (h : isCommandKey c = false)
    (work : Workspace) (surroundings : Surroundings) (pending : PendingCommand) :
    work.pressCommand surroundings pending c = work.discard pending.isPending := by
  obtain ⟨⟨hNone, hPrompt⟩, hEntry⟩ : (c ∉ ['x', 'D', 'C', 'r', 'v', '.', 'u'] ∧
      Prompt.ofKey? c = none) ∧ InsertEntry.ofKey? c = none := by
    simpa [isCommandKey, and_assoc] using h
  simp only [pressCommand, hPrompt, hEntry]
  split <;> first | rfl | exact absurd (by decide) hNone

/-- A character of no use to a command of Normal mode is discarded, once the `g` before it is
taken back. -/
theorem pressNormalChar_of_takes_eq_false {pending : PendingCommand} {c : Char}
    (h : pending.takes c = false) (work : Workspace) (surroundings : Surroundings) :
    work.pressNormalChar surroundings pending c =
      work.discard { pending with afterG := false }.isPending := by
  obtain ⟨count, operator, operatorCount, afterG⟩ := pending
  cases afterG with
  | true =>
      have hKey : c ≠ 'g' := by simpa [PendingCommand.takes] using h
      simp [pressNormalChar, hKey]
  | false =>
      simp only [PendingCommand.takes, Bool.false_eq_true, if_false, Bool.or_eq_false_iff] at h
      obtain ⟨hDigit, hG, hMotion⟩ := of_startsMotion_eq_false h.1
      have hWithDigit : PendingCommand.withDigit? ⟨count, operator, operatorCount, false⟩ c =
          none := PendingCommand.withDigit?_of_digitValue?_eq_none hDigit
      have hRest := h.2
      cases operator with
      | some operator =>
          have hKey : c ≠ operator.key := by simpa using hRest
          simp [pressNormalChar, hWithDigit, hG, hMotion, hKey]
      | none =>
          obtain ⟨hOperator, hCommand⟩ : Operator.ofKey? c = none ∧ isCommandKey c = false := by
            simpa using hRest
          simp [pressNormalChar, hWithDigit, hG, hMotion, hOperator,
            pressCommand_of_isCommandKey_eq_false hCommand]

theorem pressVisualChar_of_takesSelecting_eq_false {afterG : Bool} {c : Char}
    (h : takesSelecting afterG c = false) (work : Workspace) (surroundings : Surroundings)
    (anchor : Position) (count : Option Nat) :
    work.pressVisualChar surroundings anchor count afterG c =
      work.discardVisual anchor count.isSome := by
  cases afterG with
  | true =>
      have hKey : c ≠ 'g' := by simpa [takesSelecting] using h
      simp [pressVisualChar, hKey]
  | false =>
      obtain ⟨⟨⟨⟨hMotionKey, hOperator⟩, hPrompt⟩, hLeave⟩, hDelete⟩ :
          (((startsMotion c = false ∧ Operator.ofKey? c = none) ∧ Prompt.ofKey? c = none) ∧
            c ≠ 'v') ∧ c ≠ 'x' := by
        simpa [takesSelecting, and_assoc] using h
      obtain ⟨hDigit, hG, hMotion⟩ := of_startsMotion_eq_false hMotionKey
      simp [pressVisualChar, hDigit, hG, hMotion, hOperator, hPrompt, hLeave, hDelete]

/-- A key that has no use in Normal mode says that something was cancelled, unless it was
forgotten. -/
theorem pressNormal_of_takes_eq_false {input : NormalInput} {key : Key}
    (hPending : (ModeState.normal input).isPending = true)
    (hTakes : (ModeState.normal input).takes key = false) (work : Workspace)
    (surroundings : Surroundings) :
    work.pressNormal surroundings input key =
      work.discard !(ModeState.normal input).forgets key := by
  cases input with
  | replacement count =>
      cases key with
      | escape => rfl
      | char | enter => cases hTakes
      | backspace | ctrl => cases count <;> rfl
  | command pending =>
      have hSome : pending.isPending = true := hPending
      cases key with
      | char c =>
          have hDiscard := pressNormalChar_of_takes_eq_false hTakes work surroundings
          rwa [PendingCommand.isPending_without_g hSome] at hDiscard
      | escape => exact congrArg work.discard hSome
      | enter | backspace | ctrl =>
          -- With something pending, Control with the letter does not redo.
          rw [pressNormal.eq_def]
          simp only [hSome, Bool.not_true, Bool.false_eq_true, and_false, if_false]
          rfl

theorem pressVisual_of_takes_eq_false {anchor : Position} {count : Option Nat} {afterG : Bool}
    {key : Key} (hPending : (ModeState.visual anchor count afterG).isPending = true)
    (hTakes : (ModeState.visual anchor count afterG).takes key = false) (work : Workspace)
    (surroundings : Surroundings) :
    work.pressVisual surroundings anchor count afterG key =
      work.discardVisual anchor !(ModeState.visual anchor count afterG).forgets key := by
  have hSome : (count.isSome || afterG) = true := hPending
  cases key with
  | escape => cases hTakes
  | enter | backspace | ctrl => exact congrArg (work.discardVisual anchor) hSome
  | char c =>
      have hDiscard := pressVisualChar_of_takesSelecting_eq_false hTakes work surroundings
        anchor count
      have hSeen : count.isSome = !(count.isNone && afterG) := by
        cases count with
        | none => simpa using hSome
        | some value => rfl
      rwa [hSeen] at hDiscard

/-- A key that has no use for what is pending clears it. -/
theorem press_of_takes_eq_false {key : Key} (hPending : work.engine.state.isPending = true)
    (hTakes : work.engine.state.takes key = false) (surroundings : Surroundings) :
    work.press surroundings key =
      settle (work.enter work.engine.state.cleared,
        if work.engine.state.forgets key then .ignored else .cancelled) := by
  rw [press]
  cases hState : work.engine.state with
  | normal input =>
      rw [hState] at hPending hTakes
      dsimp only
      rw [pressNormal_of_takes_eq_false hPending hTakes, discard]
      cases (ModeState.normal input).forgets key <;> rfl
  | visual anchor count afterG =>
      rw [hState] at hPending hTakes
      dsimp only
      rw [pressVisual_of_takes_eq_false hPending hTakes, discardVisual]
      cases (ModeState.visual anchor count afterG).forgets key <;> rfl
  | insert | prompt =>
      rw [hState] at hPending
      cases hPending

/-- After any keys with part of a command pending, a key that has no use for it clears what
is pending and does nothing else.  It says that something was cancelled, unless a lone `g`
or `r` was forgotten, and then it says that it was ignored. -/
theorem stray_key_is_cancelled_unless_forgotten {key : Key} (h : work.IsReachable)
    (hPending : work.engine.state.isPending = true)
    (hTakes : work.engine.state.takes key = false) (surroundings : Surroundings) :
    let result := work.press surroundings key
    result.1 = work.enter work.engine.state.cleared ∧
      result.1.engine.state.isPending = false ∧ result.1.engine.mode = work.engine.mode ∧
      result.2 = if work.engine.state.forgets key then .ignored else .cancelled := by
  intro result
  -- The cursor stands on a character already.
  have hOn : (work.enter work.engine.state.cleared).buffer.OnCharacter :=
    h.wellPlaced.onCharacter (ModeState.mode_ne_insert hPending)
  have hResult : result = (work.enter work.engine.state.cleared,
      if work.engine.state.forgets key then .ignored else .cancelled) :=
    (press_of_takes_eq_false hPending hTakes surroundings).trans (settle_of_onCharacter hOn)
  rw [hResult]
  exact ⟨rfl, ModeState.isPending_cleared _, ModeState.mode_cleared _, rfl⟩

/-- After `3g` no key but another `g` is of use, and the count is cancelled with it. -/
theorem counted_g_is_cancelled :
    let work := (ofBuffer ⟨['a', 'b'], Position.origin, 4⟩).pressAll
      (['3', 'g'].map fun c => (Surroundings.unknown, Key.char c))
    (work.IsReachable ∧ work.engine.state.isPending = true ∧
        work.engine.state.takes (.char 'z') = false) ∧
      (work.press Surroundings.unknown (.char 'z')).2 = .cancelled := by
  intro work
  have hReachable : work.IsReachable := ⟨['a', 'b'], 4, Register.empty, _, rfl⟩
  have hPending : work.engine.state.isPending = true := by decide
  have hTakes : work.engine.state.takes (.char 'z') = false := by decide
  obtain ⟨-, -, -, hOutcome⟩ :=
    stray_key_is_cancelled_unless_forgotten hReachable hPending hTakes Surroundings.unknown
  exact ⟨⟨hReachable, hPending, hTakes⟩, hOutcome⟩

/-- After `g` alone a key of no use takes it back and says that it was ignored, and so does
a backspace after `r` alone. -/
theorem lone_g_and_r_are_ignored :
    let work := ofBuffer ⟨['a', 'b'], Position.origin, 4⟩
    let afterG := (work.press Surroundings.unknown (.char 'g')).1
    let afterR := (work.press Surroundings.unknown (.char 'r')).1
    (afterG.engine.state.isPending = true ∧
        (afterG.press Surroundings.unknown (.char 'z')).2 = .ignored ∧
        (afterG.press Surroundings.unknown (.char 'z')).1.engine.state.isPending = false) ∧
      afterR.engine.state.isPending = true ∧
        (afterR.press Surroundings.unknown .backspace).2 = .ignored ∧
        (afterR.press Surroundings.unknown .backspace).1.engine.state.isPending = false := by
  decide

end Workspace

end ModalEditor
