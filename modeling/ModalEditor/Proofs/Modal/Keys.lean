import ModalEditor.Modal.Press

namespace ModalEditor

/-!
# What a key amounts to

However many keys there are, a key of Normal or Visual mode amounts to one of a
few things.  Each theorem lists them for one step of reading a key: what holds of
all of them holds of the key.  Where only some keys amount to a thing, the theorem
says which.
-/

/-- The character that a key fills in after `r`. -/
def Key.fill? : Key → Option Char
  | .char c => some c
  | .enter => some lineFeed
  | _ => none

namespace Workspace

variable {work : Workspace} {surroundings : Surroundings} {P : Workspace × KeyOutcome → Prop}

/-- A key that is a command by itself. -/
theorem pressCommand_cases {pending : PendingCommand} {c : Char}
    (operate : ∀ operator motion,
      P ((work.enter ModeState.idle).operate surroundings operator motion pending.total))
    (await : ∀ input, P (work.await input))
    (select : P (work.enter (.visual work.buffer.cursor none false), .modeChanged .visual))
    (again : c = '.' → P ((work.enter ModeState.idle).repeatLast surroundings pending.total))
    (undo : P (work.enter ModeState.idle, .undo))
    (openPrompt : ∀ prompt, P (work.openPrompt prompt))
    (enterInsert : ∀ entry, P (work.enterInsert entry, .modeChanged .insert))
    (discard : ∀ wasPending, P (work.discard wasPending)) :
    P (work.pressCommand surroundings pending c) := by
  simp only [pressCommand]
  split
  · exact operate .delete .right
  · exact operate .delete .lineEnd
  · exact operate .change .lineEnd
  · exact await _
  · exact select
  · exact again rfl
  · exact undo
  · split
    · exact openPrompt _
    · exact enterInsert _
    · exact discard _

/-- A character in Normal mode. -/
theorem pressNormalChar_cases {pending : PendingCommand} {c : Char}
    (complete : ∀ pending motion, P (work.complete surroundings pending motion))
    (await : ∀ input, P (work.await input))
    (discard : ∀ wasPending, P (work.discard wasPending))
    (command : P (work.pressCommand surroundings pending c)) :
    P (work.pressNormalChar surroundings pending c) := by
  simp only [pressNormalChar]
  split
  · split
    · exact complete _ _
    · exact discard _
  · split
    · exact await _
    · split
      · exact await _
      · split
        · split
          · exact complete _ _
          · split
            · exact complete _ _
            · exact discard _
        · exact complete _ _
        · exact await _
        · exact command

/-- A key in Normal mode. -/
theorem pressNormal_cases {input : NormalInput} {key : Key}
    (char : ∀ pending c, input = .command pending → key = .char c →
      P (work.pressNormalChar surroundings pending c))
    (redo : P (work, .redo))
    (replace : ∀ waiting fill count, input = .replacement waiting → key.fill? = some fill →
      P ((work.enter ModeState.idle).replaceChars fill count))
    (discard : ∀ wasPending, P (work.discard wasPending)) :
    P (work.pressNormal surroundings input key) := by
  cases input with
  | command pending =>
      cases key with
      | escape => exact discard _
      | char c => exact char pending c rfl rfl
      | enter | backspace => exact discard _
      | ctrl c =>
          show P (if Key.ctrl c = Key.ctrl 'r' ∧ !pending.isPending then (work, .redo)
            else work.discard pending.isPending)
          split
          · exact redo
          · exact discard _
  | replacement count =>
      cases key with
      | escape => exact discard _
      | char fill => exact replace count fill _ rfl rfl
      | enter => exact replace count lineFeed _ rfl rfl
      | backspace | ctrl => exact discard _

/-- A character in Visual mode. -/
theorem pressVisualChar_cases {anchor : Position} {count : Option Nat} {afterG : Bool}
    {c : Char}
    (move : ∀ motion count,
      P ((work.stayVisual anchor).move surroundings motion count, .moved))
    (select : ∀ count afterG, P (work.enter (.visual anchor count afterG), .pending))
    (operate : ∀ operator, Operator.ofKey? c = some operator ∨ c = 'x' →
      P (work.operateOnSelection anchor operator))
    (openPrompt : ∀ prompt, P (work.openPrompt prompt))
    (leave : P (work.enter ModeState.idle, .modeChanged .normal))
    (discard : ∀ wasPending, P (work.discardVisual anchor wasPending)) :
    P (work.pressVisualChar surroundings anchor count afterG c) := by
  simp only [pressVisualChar]
  split
  · split
    · exact move _ _
    · exact discard _
  · split
    · exact select _ _
    · split
      · exact select _ _
      · split
        · exact move _ _
        · next hOperator => exact operate _ (Or.inl hOperator)
        · exact openPrompt _
        · split
          · exact leave
          · split
            · next hKey => exact operate _ (Or.inr hKey)
            · exact discard _

end Workspace

end ModalEditor
