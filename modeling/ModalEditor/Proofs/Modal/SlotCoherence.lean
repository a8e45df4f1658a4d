import ModalEditor.Proofs.Modal.SlotKeys
import ModalEditor.Proofs.Modal.Repeat

namespace ModalEditor

/-!
# Slots stay coherent

Nothing but the order in which keys write into slots keeps the slots in agreement.  It
does: every key leaves order in what waits and a text in what is repeated, and from such a
workspace the next key does on slots what it does to the workspace.  So after any keys no
slot is full that the mode has no use for.
-/

namespace Workspace

variable {work : Workspace} {surroundings : Surroundings}

/-! ## What every key leaves -/

/-- What every key leaves: order, and in Normal and Visual mode input that is pending
exactly if the key said so. -/
structure Leaves (result : Workspace × KeyOutcome) : Prop where
  orderly : result.1.Orderly
  pending_iff : result.1.engine.mode = .normal ∨ result.1.engine.mode = .visual →
    (result.2 = .pending ↔ result.1.engine.state.isPending = true)

/-- A result with nothing pending. -/
structure Rests (result : Workspace × KeyOutcome) : Prop where
  text : result.1.RemembersText
  isPending : result.1.engine.state.isPending = false
  outcome : result.2 ≠ .pending

theorem NormalInput.isOrdered_of_isPending {input : NormalInput}
    (h : (ModeState.normal input).isPending = false) : input.IsOrdered := by
  cases ModeState.eq_idle rfl h
  exact fun _ => rfl

theorem Rests.leaves {result : Workspace × KeyOutcome} (h : Rests result) : Leaves result := by
  refine ⟨⟨fun input hState => ?_, h.text⟩, fun _ => ?_⟩
  · exact NormalInput.isOrdered_of_isPending (hState ▸ h.isPending)
  · simp [h.outcome, h.isPending]

theorem remembersText_remember (work : Workspace) {command : Repeatable}
    (h : ∀ motion count, command ≠ .operate .change motion count) :
    (work.remember command).RemembersText := by
  intro motion count hLast
  exact h motion count (Option.some.inj hLast)

/-! ### Commands -/

theorem OperatorRun.outcome_ne_pending (run : OperatorRun) : run.outcome ≠ .pending := by
  cases run <;> rintro ⟨⟩

theorem StaysOnDesk.state {change : Workspace → Workspace} (h : StaysOnDesk change)
    (work : Workspace) : (change work).engine.state = work.engine.state := by
  rw [h work, adopt_state]

theorem leaveInsert_state (work : Workspace) : work.leaveInsert.engine.state = ModeState.idle :=
  staysOnDesk_stepBack.state (work.enter ModeState.idle)

theorem rests_idle (hText : work.RemembersText) (h : work.engine.state = ModeState.idle)
    {outcome : KeyOutcome} (hOutcome : outcome ≠ .pending) : Rests (work, outcome) :=
  ⟨hText, by rw [h]; rfl, hOutcome⟩

/-- What is done at the desk leaves the engine as it was. -/
theorem rests_adopt (hText : work.RemembersText) (h : work.engine.state = ModeState.idle)
    (done : Workspace) {outcome : KeyOutcome} (hOutcome : outcome ≠ .pending) :
    Rests (work.adopt done, outcome) :=
  ⟨hText, (rests_idle hText h hOutcome).isPending, hOutcome⟩

theorem rests_operate (hText : work.RemembersText) (h : work.engine.state = ModeState.idle)
    (surroundings : Surroundings) (operator : Operator) (motion : Motion) (count : Count) :
    Rests (work.operate surroundings operator motion count) := by
  have hState := work.runOperator_state surroundings operator motion count
  have hLast := work.runOperator_lastCommand surroundings operator motion count
  simp only [operate]
  generalize work.runOperator surroundings operator motion count = result at hState hLast
  obtain ⟨next, run⟩ := result
  have hNext : next.RemembersText := by
    intro motion count
    rw [hLast]
    exact hText motion count
  have hIdle := rests_idle hNext (hState.trans h) (OperatorRun.outcome_ne_pending run)
  dsimp only
  split
  · exact hIdle
  · split
    · exact ⟨hNext, rfl, by rintro ⟨⟩⟩
    · next hStays =>
        split
        · have hText : (next.remember (.operate operator motion count)).RemembersText := by
            refine remembersText_remember next fun _ _ hChange => ?_
            -- Only a change would start an insert session.
            cases hChange
            exact hStays rfl
          exact ⟨hText, hIdle.isPending, hIdle.outcome⟩
        · exact hIdle

theorem rests_complete (hText : work.RemembersText) (surroundings : Surroundings)
    (pending : PendingCommand) (motion : Motion) :
    Rests (work.complete surroundings pending motion) := by
  have hReady : (work.enter ModeState.idle).RemembersText := hText
  simp only [complete]
  split
  · exact rests_operate hReady rfl _ _ _ _
  · exact ⟨hText, rfl, by rintro ⟨⟩⟩

theorem rests_discard (hText : work.RemembersText) (wasPending : Bool) :
    Rests (work.discard wasPending) := by
  refine ⟨hText, rfl, ?_⟩
  cases wasPending <;> rintro ⟨⟩

theorem rests_replaceChars (hText : work.RemembersText) (h : work.engine.state = ModeState.idle)
    (fill : Char) (count : Nat) : Rests (work.replaceChars fill count) := by
  rw [replaceChars, overwrite?_desk]
  cases work.desk.overwrite? fill count with
  | none => exact rests_idle hText h (by rintro ⟨⟩)
  | some next =>
      have hNext : ((work.adopt next).remember (.replace fill count)).RemembersText :=
        remembersText_remember _ (by rintro _ _ ⟨⟩)
      exact rests_idle hNext h (by rintro ⟨⟩)

theorem rests_repeatLast (hText : work.RemembersText) (h : work.engine.state = ModeState.idle)
    (surroundings : Surroundings) (count : Count) :
    Rests (work.repeatLast surroundings count) := by
  have hLeft (next : Workspace) (hLast : next.engine.lastCommand = work.engine.lastCommand) :
      Rests (next.leaveInsert, .edited) := by
    refine rests_idle ?_ next.leaveInsert_state (by rintro ⟨⟩)
    intro motion count
    rw [leaveInsert_lastCommand, hLast]
    exact hText motion count
  have hRan (operator : Operator) (motion : Motion) (count : Count) :
      Rests ((work.runOperator surroundings operator motion count).1,
        (work.runOperator surroundings operator motion count).2.outcome) := by
    rw [runOperator_desk]
    exact rests_adopt hText h _ (OperatorRun.outcome_ne_pending _)
  simp only [repeatLast]
  cases work.engine.lastCommand with
  | none => exact rests_idle hText h (by rintro ⟨⟩)
  | some command =>
      cases command with
      | operate operator motion recorded => exact hRan operator motion _
      | change motion recorded typed =>
          dsimp only
          generalize (if count.typed = true then count else recorded) = chosen
          split
          · exact hRan .change motion chosen
          · exact hLeft _ (by simp)
      | replace fill recorded =>
          dsimp only
          rw [overwrite?_desk]
          cases work.desk.overwrite? fill _ with
          | none => exact rests_idle hText h (by rintro ⟨⟩)
          | some next => exact rests_adopt hText h next (by rintro ⟨⟩)
      | insert entry typed => exact hLeft _ (by simp; rfl)

theorem rests_enterInsert (hText : work.RemembersText) (entry : InsertEntry) :
    Rests (work.enterInsert entry, .modeChanged .insert) := by
  refine ⟨fun motion count => ?_, rfl, by rintro ⟨⟩⟩
  show ((work.setGoal none).goToEntry entry).engine.lastCommand ≠ _
  rw [goToEntry_lastCommand]
  exact hText motion count

theorem rests_operateOnSelection (hText : work.RemembersText) (anchor : Position)
    (operator : Operator) : Rests (work.operateOnSelection anchor operator) := by
  rw [operateOnSelection_desk]
  dsimp only
  split <;> exact ⟨hText, rfl, by rintro ⟨⟩⟩

/-! ### Keys -/

theorem leaves_await (hText : work.RemembersText) {input : NormalInput}
    (hOrdered : input.IsOrdered) (hPending : (ModeState.normal input).isPending = true) :
    Leaves (work.await input) := by
  refine ⟨⟨fun other hOther => ?_, hText⟩, fun _ => ?_⟩
  · cases hOther
    exact hOrdered
  · exact ⟨fun _ => hPending, fun _ => rfl⟩

/-- A digit leaves a count, after an operator if there is one. -/
theorem withDigit?_ordered {pending next : PendingCommand}
    (hOrdered : (NormalInput.command pending).IsOrdered) {c : Char}
    (h : pending.withDigit? c = some next) :
    (NormalInput.command next).IsOrdered ∧ next.isPending = true := by
  obtain ⟨digit, -, hDigit⟩ := Option.bind_eq_some_iff.mp h
  split at hDigit
  · next hOperator =>
      obtain ⟨count, -, rfl⟩ := Option.map_eq_some_iff.mp hDigit
      refine ⟨fun hNone => ?_, by simp [PendingCommand.isPending]⟩
      rw [show pending.operator = none from hNone] at hOperator
      cases hOperator
  · obtain ⟨count, -, rfl⟩ := Option.map_eq_some_iff.mp hDigit
    exact ⟨hOrdered, by simp [PendingCommand.isPending]⟩

theorem leaves_pressCommand (hText : work.RemembersText) (surroundings : Surroundings)
    (pending : PendingCommand) (c : Char) :
    Leaves (work.pressCommand surroundings pending c) := by
  have hReady : (work.enter ModeState.idle).RemembersText := hText
  have hOperate (operator : Operator) (motion : Motion) :
      Leaves ((work.enter ModeState.idle).operate surroundings operator motion pending.total) :=
    (rests_operate hReady rfl _ _ _ _).leaves
  simp only [pressCommand]
  split
  · exact hOperate .delete .right
  · exact hOperate .delete .lineEnd
  · exact hOperate .change .lineEnd
  · exact leaves_await hText trivial rfl
  · exact Rests.leaves ⟨hText, rfl, by rintro ⟨⟩⟩
  · exact (rests_repeatLast hReady rfl _ _).leaves
  · exact Rests.leaves ⟨hText, rfl, by rintro ⟨⟩⟩
  · split
    · exact Rests.leaves ⟨hText, rfl, by rintro ⟨⟩⟩
    · exact (rests_enterInsert hText _).leaves
    · exact (rests_discard hText _).leaves

theorem leaves_pressNormalChar (hText : work.RemembersText) {pending : PendingCommand}
    (hOrdered : (NormalInput.command pending).IsOrdered) (surroundings : Surroundings)
    (c : Char) : Leaves (work.pressNormalChar surroundings pending c) := by
  have hComplete (pending : PendingCommand) (motion : Motion) :
      Leaves (work.complete surroundings pending motion) :=
    (rests_complete hText surroundings pending motion).leaves
  have hDiscard (wasPending : Bool) : Leaves (work.discard wasPending) :=
    (rests_discard hText wasPending).leaves
  simp only [pressNormalChar]
  split
  · split
    · exact hComplete _ _
    · exact hDiscard _
  · split
    · next hDigit =>
        obtain ⟨hNext, hPending⟩ := withDigit?_ordered hOrdered hDigit
        exact leaves_await hText hNext hPending
    · split
      · exact leaves_await hText hOrdered (by simp [ModeState.isPending, PendingCommand.isPending])
      · split
        · split
          · exact hComplete _ _
          · split
            · exact hComplete _ _
            · exact hDiscard _
        · exact hComplete _ _
        · refine leaves_await hText ?_ (by simp [ModeState.isPending, PendingCommand.isPending])
          exact fun hNone => by cases hNone
        · exact leaves_pressCommand hText surroundings pending c

/-- A key in Normal mode. -/
theorem leaves_pressNormal (hText : work.RemembersText) {input : NormalInput}
    (h : work.engine.state = .normal input) (hOrdered : input.IsOrdered)
    (surroundings : Surroundings) (key : Key) :
    Leaves (work.pressNormal surroundings input key) := by
  have hReady : (work.enter ModeState.idle).RemembersText := hText
  have hDiscard (wasPending : Bool) : Leaves (work.discard wasPending) :=
    (rests_discard hText wasPending).leaves
  cases input with
  | command pending =>
      cases key with
      | escape => exact hDiscard _
      | char c => exact leaves_pressNormalChar hText hOrdered surroundings c
      | enter | backspace => exact hDiscard _
      | ctrl c =>
          show Leaves (if Key.ctrl c = .ctrl 'r' ∧ !pending.isPending then (work, .redo)
            else work.discard pending.isPending)
          split
          · next hRedo =>
              have hNone : pending.isPending = false := by simpa using hRedo.2
              exact Rests.leaves ⟨hText, by rw [h]; exact hNone, by rintro ⟨⟩⟩
          · exact hDiscard _
  | replacement count =>
      cases key with
      | escape => exact hDiscard _
      | char fill => exact (rests_replaceChars hReady rfl fill _).leaves
      | enter => exact (rests_replaceChars hReady rfl lineFeed _).leaves
      | backspace | ctrl => exact hDiscard _

/-- A key in Visual mode. -/
theorem leaves_pressVisual (hText : work.RemembersText) (surroundings : Surroundings)
    (anchor : Position) (count : Option Nat) (afterG : Bool) (key : Key) :
    Leaves (work.pressVisual surroundings anchor count afterG key) := by
  have hSelect (count : Option Nat) (afterG : Bool) (hPending : (count.isSome || afterG) = true) :
      Leaves (work.enter (.visual anchor count afterG), .pending) :=
    ⟨⟨by rintro _ ⟨⟩, hText⟩, fun _ => ⟨fun _ => hPending, fun _ => rfl⟩⟩
  have hDiscard (wasPending : Bool) : Leaves (work.discardVisual anchor wasPending) := by
    refine Rests.leaves ⟨hText, rfl, ?_⟩
    cases wasPending <;> rintro ⟨⟩
  have hMove (motion : Motion) (count : Count) :
      Leaves ((work.stayVisual anchor).move surroundings motion count, .moved) :=
    Rests.leaves ⟨hText, rfl, by rintro ⟨⟩⟩
  cases key with
  | escape => exact Rests.leaves ⟨hText, rfl, by rintro ⟨⟩⟩
  | enter | backspace | ctrl => exact hDiscard _
  | char c =>
      simp only [pressVisual, pressVisualChar]
      split
      · split
        · exact hMove _ _
        · exact hDiscard _
      · split
        · exact hSelect _ _ rfl
        · split
          · exact hSelect _ _ (Bool.or_true _)
          · split
            · exact hMove _ _
            · exact (rests_operateOnSelection hText anchor _).leaves
            · exact Rests.leaves ⟨hText, rfl, by rintro ⟨⟩⟩
            · split
              · exact Rests.leaves ⟨hText, rfl, by rintro ⟨⟩⟩
              · split
                · exact (rests_operateOnSelection hText anchor _).leaves
                · exact hDiscard _

/-- A key in Insert mode. -/
theorem leaves_pressInsert (hText : work.RemembersText) {recording : Option Recording}
    {typed : Text} (h : work.engine.state = .insert recording typed) (key : Key) :
    Leaves (work.pressInsert recording typed key) := by
  have hStay : Leaves (work, .ignored) := Rests.leaves ⟨hText, by rw [h]; rfl, by rintro ⟨⟩⟩
  have hTyped (text typed : Text) :
      Rests ((work.enter (.insert recording text)).insertText typed, .edited) := by
    rw [enter_insertText]
    refine ⟨?_, rfl, by rintro ⟨⟩⟩
    intro motion count
    show (work.insertText typed).engine.lastCommand ≠ _
    rw [insertText_lastCommand]
    exact hText motion count
  cases key with
  | escape =>
      refine Rests.leaves (rests_idle ?_ (leaveInsert_state _) (by rintro ⟨⟩))
      intro motion count
      rw [leaveInsert_lastCommand]
      -- What was recorded is finished with its text.
      rcases recording with _ | (_ | _)
      · exact hText motion count
      · rintro ⟨⟩
      · rintro ⟨⟩
  | char c => exact (hTyped (typed ++ [c]) [c]).leaves
  | enter => exact (hTyped (typed ++ [lineFeed]) [lineFeed]).leaves
  | backspace =>
      rw [pressInsert, deleteBefore?_desk]
      cases work.desk.deleteBefore? with
      | none => exact hStay
      | some next => exact Rests.leaves ⟨hText, rfl, by rintro ⟨⟩⟩
  | ctrl c => exact hStay

/-- A key on the command line. -/
theorem leaves_pressPrompt (hText : work.RemembersText) {kind : Prompt} {typed : Text}
    (h : work.engine.state = .prompt kind typed) (key : Key) :
    Leaves (work.pressPrompt kind typed key) := by
  have hStay : Leaves (work, .ignored) := Rests.leaves ⟨hText, by rw [h]; rfl, by rintro ⟨⟩⟩
  have hLeave {outcome : KeyOutcome} (hOutcome : outcome ≠ .pending) :
      Leaves (work.enter ModeState.idle, outcome) :=
    Rests.leaves ⟨hText, rfl, hOutcome⟩
  have hType (text : Text) : Leaves (work.enter (.prompt kind text), .pending) :=
    ⟨⟨by rintro _ ⟨⟩, hText⟩, fun hMode => by rcases hMode with hMode | hMode <;> cases hMode⟩
  cases key with
  | escape => exact hLeave (by rintro ⟨⟩)
  | char c => exact hType _
  | backspace =>
      rw [pressPrompt]
      split
      · exact hLeave (by rintro ⟨⟩)
      · exact hType _
  | enter =>
      cases kind with
      | search => exact hLeave (by rintro ⟨⟩)
      | command =>
          simp only [pressPrompt, runTyped]
          split
          · exact hLeave (by rintro ⟨⟩)
          · split
            · exact hLeave (by rintro ⟨⟩)
            · exact Rests.leaves ⟨hText, rfl, by rintro ⟨⟩⟩
  | ctrl c => exact hStay

theorem Leaves.settle {result : Workspace × KeyOutcome} (h : Leaves result) :
    Leaves (settle result) := by
  obtain ⟨⟨hOrdered, hText⟩, hPending⟩ := h
  refine ⟨⟨?_, ?_⟩, ?_⟩
  · rwa [settle_engine]
  · rwa [RemembersText, settle_engine]
  · rwa [settle_engine, settle_outcome]

/-- Every key leaves order. -/
theorem Orderly.press (h : work.Orderly) (surroundings : Surroundings) (key : Key) :
    Leaves (work.press surroundings key) := by
  rw [Workspace.press]
  cases hState : work.engine.state with
  | normal input =>
      exact (leaves_pressNormal h.text hState (h.isOrdered input hState) surroundings key).settle
  | visual anchor count afterG =>
      exact (leaves_pressVisual h.text surroundings anchor count afterG key).settle
  | insert recording typed => exact leaves_pressInsert h.text hState key
  | prompt kind typed => exact leaves_pressPrompt h.text hState key

/-- Escape ends in Normal mode with nothing pending. -/
theorem press_escape_state (work : Workspace) (surroundings : Surroundings) :
    (work.press surroundings .escape).1.engine.state = ModeState.idle := by
  rw [Workspace.press]
  cases hState : work.engine.state with
  | normal input =>
      dsimp only
      rw [settle_engine]
      cases input <;> rfl
  | visual anchor count afterG =>
      dsimp only
      rw [settle_engine]
      rfl
  | insert recording typed => exact leaveInsert_state _
  | prompt kind typed => rfl

theorem orderly_ofBuffer (buffer : Buffer) : (ofBuffer buffer).Orderly := by
  refine ⟨fun input h => ?_, by rintro _ _ ⟨⟩⟩
  cases h
  exact fun _ => rfl

/-- After any keys the board is that of the workspace. -/
theorem Orderly.pressAll (h : work.Orderly) (keys : List (Surroundings × Key)) :
    (work.pressAll keys).Orderly ∧ work.board.pressAll keys = (work.pressAll keys).board := by
  induction keys generalizing work with
  | nil => exact ⟨h, rfl⟩
  | cons key keys ih =>
      have hBoard := h.press_board key.1 key.2
      rw [Board.pressAll, List.foldl_cons, hBoard]
      exact ih (h.press key.1 key.2).orderly

end Workspace

/-! ## Coherence -/

/-- Whether no slot is full that the mode has no use for, and the slots of a pending
command agree. -/
structure Slots.IsCoherent (slots : Slots) : Prop where
  anchor_iff : slots.anchor.isSome = true ↔ slots.mode = .visual
  prompt_iff : slots.prompt.isSome = true ↔ slots.mode = .commandLine
  recording : slots.recording.isSome = true → slots.mode = .insert
  typed : slots.typed ≠ [] → slots.mode = .insert
  operator : slots.operator.isSome = true → slots.mode = .normal
  replacement : slots.awaitsReplacement = true → slots.mode = .normal
  either : ¬(slots.operator.isSome = true ∧ slots.awaitsReplacement = true)
  operatorCount : slots.operatorCount.isSome = true → slots.operator.isSome = true
  repeats : slots.repeats = false
  isPending : slots.mode = .insert ∨ slots.mode = .commandLine → slots.isPending = false

/-- The slots of an engine are coherent. -/
theorem Workspace.Orderly.isCoherent {work : Workspace} (h : work.Orderly) :
    work.board.slots.IsCoherent := by
  cases hState : work.engine.state with
  | normal input =>
      cases input with
      | command pending =>
          rw [board_of_state hState]
          have hCounts :
              pending.operatorCount.isSome = true → pending.operator.isSome = true := by
            intro hCount
            cases hOperator : pending.operator with
            | some operator => rfl
            | none =>
                rw [h.isOrdered _ hState hOperator] at hCount
                cases hCount
          constructor
          case operatorCount => exact hCounts
          all_goals simp [Engine.slots, Slots.fresh, Engine.mode, ModeState.mode]
      | replacement count =>
          rw [board_of_state hState]
          constructor <;> simp [Engine.slots, Slots.fresh, Engine.mode, ModeState.mode]
  | visual anchor count afterG =>
      rw [board_of_state hState]
      constructor <;> simp [Engine.slots, Slots.fresh, Engine.mode, ModeState.mode]
  | insert recording typed =>
      rw [board_of_state hState]
      constructor <;>
        simp [Engine.slots, Slots.fresh, Slots.isPending, Engine.mode, ModeState.mode]
  | prompt kind typed =>
      rw [board_of_state hState]
      constructor <;>
        simp [Engine.slots, Slots.fresh, Slots.isPending, Engine.mode, ModeState.mode]

/-- After any keys the slots are those of the engine's own state and coherent, and so they
are after whatever key follows.  In Normal and Visual mode that key says that it waits for
more exactly when something is pending, in the other modes nothing is, and Escape ends in
Normal mode with nothing pending. -/
theorem Board.slots_stay_coherent (buffer : Buffer) (keys : List (Surroundings × Key)) :
    let board := (ofBuffer buffer).pressAll keys
    let work := (Workspace.ofBuffer buffer).pressAll keys
    board = work.board ∧ board.slots.IsCoherent ∧
      (∀ surroundings key,
        let after := board.press surroundings key
        after = Workspace.onBoard (work.press surroundings key) ∧ after.1.slots.IsCoherent ∧
          (after.1.slots.mode = .normal ∨ after.1.slots.mode = .visual →
            (after.2 = .pending ↔ after.1.slots.isPending = true)) ∧
          (after.1.slots.mode = .insert ∨ after.1.slots.mode = .commandLine →
            after.1.slots.isPending = false)) ∧
      ∀ surroundings,
        let after := (board.press surroundings .escape).1
        after.slots.mode = .normal ∧ after.slots.isPending = false := by
  obtain ⟨hOrderly, hBoard⟩ := (Workspace.orderly_ofBuffer buffer).pressAll keys
  generalize (Workspace.ofBuffer buffer).pressAll keys = work at hOrderly hBoard
  have hStart : (Workspace.ofBuffer buffer).board = ofBuffer buffer := rfl
  rw [hStart] at hBoard
  simp only [hBoard]
  refine ⟨trivial, hOrderly.isCoherent, fun surroundings key => ?_, fun surroundings => ?_⟩
  · have hLeaves := hOrderly.press surroundings key
    have hCoherent := hLeaves.orderly.isCoherent
    have hPending := hLeaves.pending_iff
    rw [hOrderly.press_board]
    refine ⟨rfl, hCoherent, fun hMode => ?_, hCoherent.isPending⟩
    rw [Workspace.onBoard] at hMode ⊢
    rw [Workspace.mode_board] at hMode
    rw [Workspace.isPending_board]
    exact hPending hMode
  · have hState := work.press_escape_state surroundings
    rw [hOrderly.press_board, Workspace.onBoard]
    refine ⟨?_, ?_⟩
    · rw [Workspace.mode_board, Engine.mode, hState]
      rfl
    · rw [Workspace.isPending_board, hState]
      rfl

end ModalEditor
