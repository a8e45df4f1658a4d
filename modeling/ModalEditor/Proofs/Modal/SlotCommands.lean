import ModalEditor.Proofs.Modal.Slots
import ModalEditor.Proofs.Modal.Outcome
import ModalEditor.Proofs.Modal.Insertion

namespace ModalEditor

/-!
# Commands on slots

Commands of Normal and Insert mode read the goal column, the buffer and the register
and write nothing else.  So what they do at the desk of a board is what they do to the
workspace, and an engine of slots that starts in agreement with the state of an engine
ends in agreement with it.  Running a command again goes through the handlers of its
keys: what they remember meanwhile is dropped.
-/

namespace Engine

/-- The slots of an engine: those that its state fills, and nothing in the others. -/
def slots (engine : Engine) : Slots :=
  let others : Slots :=
    { Slots.fresh with
      mode := engine.mode, goal := engine.goal, lastCommand := engine.lastCommand }
  match engine.state with
  | .normal (.command pending) =>
      { others with
        count := pending.count, operatorCount := pending.operatorCount,
        operator := pending.operator, afterG := pending.afterG }
  | .normal (.replacement count) => { others with count, awaitsReplacement := true }
  | .visual anchor count afterG => { others with anchor := some anchor, count, afterG }
  | .insert recording typed => { others with recording, typed }
  | .prompt kind typed => { others with prompt := some kind, command := typed }

end Engine

namespace Workspace

/-- A workspace on a board. -/
def board (work : Workspace) : Board :=
  ⟨work.engine.slots, work.buffer, work.register⟩

/-- The result of a key on a board. -/
def onBoard (result : Workspace × KeyOutcome) : Board × KeyOutcome :=
  (result.1.board, result.2)

/-- The workspace as it is on the desk of its board. -/
def desk (work : Workspace) : Workspace :=
  ⟨⟨ModeState.idle, work.engine.goal, none⟩, work.buffer, work.register⟩

/-- Takes over what was done at the desk. -/
def adopt (work other : Workspace) : Workspace :=
  ⟨{ work.engine with goal := other.engine.goal }, other.buffer, other.register⟩

/-! ## At the desk -/

/-- Whether a step goes by nothing but what is on the desk, and writes nothing else. -/
def StaysOnDesk (change : Workspace → Workspace) : Prop :=
  ∀ work, change work = work.adopt (change work.desk)

variable {work : Workspace} {surroundings : Surroundings}

/-- A board by the state of its engine. -/
theorem board_of_state {state : ModeState} (h : work.engine.state = state) :
    work.board =
      ⟨Engine.slots ⟨state, work.engine.goal, work.engine.lastCommand⟩, work.buffer,
        work.register⟩ := by
  subst h
  rfl

@[simp]
theorem desk_board (work : Workspace) : work.board.desk = work.desk := by
  rcases work with ⟨⟨state, goal, last⟩, buffer, register⟩
  rcases state with (_ | _) | _ | _ | _ <;> rfl

@[simp]
theorem adopt_board (work other : Workspace) :
    work.board.adopt other = (work.adopt other).board := by
  rcases work with ⟨⟨state, goal, last⟩, buffer, register⟩
  rcases state with (_ | _) | _ | _ | _ <;> rfl

theorem StaysOnDesk.edit_board {change : Workspace → Workspace} (h : StaysOnDesk change)
    (work : Workspace) : work.board.edit change = (change work).board := by
  rw [Board.edit, desk_board, adopt_board, ← h work]

theorem staysOnDesk_insertText (text : Text) : StaysOnDesk (·.insertText text) := by
  intro work
  simp only [insertText]
  exact Eq.symm (apply_ite work.adopt _ _ _)

theorem staysOnDesk_stepBack : StaysOnDesk stepBack := by
  intro work
  exact Eq.symm (apply_ite work.adopt _ _ _)

theorem staysOnDesk_clampCursor : StaysOnDesk clampCursor := by
  intro work
  exact Eq.symm (apply_ite work.adopt _ _ _)

theorem staysOnDesk_goToEntry (entry : InsertEntry) :
    StaysOnDesk fun work => (work.setGoal none).goToEntry entry := by
  intro work
  cases entry <;> rfl

theorem staysOnDesk_move (surroundings : Surroundings) (motion : Motion) (count : Count) :
    StaysOnDesk (·.move surroundings motion count) := by
  intro work
  rfl

theorem runOperator_desk (work : Workspace) (surroundings : Surroundings) (operator : Operator)
    (motion : Motion) (count : Count) :
    work.runOperator surroundings operator motion count =
      (work.adopt (work.desk.runOperator surroundings operator motion count).1,
        (work.desk.runOperator surroundings operator motion count).2) := by
  simp only [runOperator, desk]
  split
  · rfl
  · split <;> rfl

theorem operateOnSelection_desk (work : Workspace) (anchor : Position) (operator : Operator) :
    work.operateOnSelection anchor operator =
      let done := work.adopt (work.desk.operateOnSelection anchor operator).1
      if operator.entersInsert then (done.beginInsert none, .modeChanged .insert)
      else (done.enter ModeState.idle, .modeChanged .normal) := by
  simp only [operateOnSelection, desk]
  generalize operator.apply work.buffer.settled _ 1 = outcome
  cases outcome <;> split <;> rfl

theorem overwrite?_desk (work : Workspace) (fill : Char) (count : Nat) :
    work.overwrite? fill count = (work.desk.overwrite? fill count).map work.adopt := by
  simp only [overwrite?, Option.map_map]
  rfl

theorem deleteBefore?_desk (work : Workspace) :
    work.deleteBefore? = work.desk.deleteBefore?.map work.adopt :=
  Eq.symm (apply_ite (Option.map work.adopt) _ _ _)

theorem runTyped_desk (work : Workspace) (typed : Text) :
    work.runTyped typed =
      (work.adopt (work.desk.runTyped typed).1, (work.desk.runTyped typed).2) := by
  simp only [runTyped, desk]
  split
  · rfl
  · split <;> rfl

/-! ## Commands -/

theorem mode_board (work : Workspace) : work.board.slots.mode = work.engine.mode := by
  rcases work with ⟨⟨state, goal, last⟩, buffer, register⟩
  rcases state with (_ | _) | _ | _ | _ <;> rfl

theorem isPending_board (work : Workspace) :
    work.board.slots.isPending = work.engine.state.isPending := by
  rcases work with ⟨⟨state, goal, last⟩, buffer, register⟩
  rcases state with (pending | count) | ⟨anchor, count, afterG⟩ | _ | _
  · simp [board, Engine.slots, Slots.isPending, ModeState.isPending, PendingCommand.isPending,
      Slots.fresh, Bool.or_left_comm, Bool.or_assoc]
  · simp [board, Engine.slots, Slots.isPending, ModeState.isPending, Slots.fresh]
  · simp [board, Engine.slots, Slots.isPending, ModeState.isPending, Slots.fresh]
  · rfl
  · rfl

/-- Clearing what is pending in Normal mode leaves the engine idle. -/
theorem clearPending_board {input : NormalInput} (h : work.engine.state = .normal input) :
    work.board.update Slots.clearPending = (work.enter ModeState.idle).board := by
  rcases work with ⟨⟨state, goal, last⟩, buffer, register⟩
  cases h
  rcases input with pending | count <;> rfl

/-- Going on without a command discards what is pending. -/
theorem cancel_board {input : NormalInput} (h : work.engine.state = .normal input) :
    work.board.cancel = onBoard (work.discard (ModeState.normal input).isPending) := by
  rw [Board.cancel, isPending_board, h]
  cases hPending : (ModeState.normal input).isPending with
  | true =>
      rw [if_pos rfl, clearPending_board h]
      rfl
  | false =>
      have hIdle : ModeState.normal input = ModeState.idle := ModeState.eq_idle rfl hPending
      rw [if_neg Bool.false_ne_true, discard, ← hIdle, enter_of_state h]
      rfl

theorem beginInsert_board (h : work.engine.state = ModeState.idle) (recording : Option Recording) :
    work.board.update (·.beginInsert recording) = (work.beginInsert recording).board := by
  rw [board_of_state h]
  rfl

theorem remember_board (work : Workspace) (command : Repeatable) :
    work.board.update (·.remember command) = (work.remember command).board := by
  rcases work with ⟨⟨state, goal, last⟩, buffer, register⟩
  rcases state with (_ | _) | _ | _ | _ <;> rfl

theorem finishInsert_board {recording : Option Recording} {typed : Text}
    (h : work.engine.state = .insert recording typed) :
    work.board.finishInsert = (work.finishInsert recording typed).board := by
  rw [Board.finishInsert]
  have hClosed : work.board.update Slots.finishInsert =
      ((recording.elim work fun command => work.remember (command.finish typed)).enter
        ModeState.idle).board := by
    rcases work with ⟨⟨state, goal, last⟩, buffer, register⟩
    cases h
    cases recording <;> rfl
  rw [hClosed, staysOnDesk_stepBack.edit_board]
  rfl

@[simp]
theorem adopt_state (work other : Workspace) :
    (work.adopt other).engine.state = work.engine.state := rfl

theorem runOperator_state (work : Workspace) (surroundings : Surroundings) (operator : Operator)
    (motion : Motion) (count : Count) :
    (work.runOperator surroundings operator motion count).1.engine.state = work.engine.state := by
  rw [runOperator_desk, adopt_state]

theorem runOperator_board (h : work.engine.state = ModeState.idle) (surroundings : Surroundings)
    (operator : Operator) (motion : Motion) (count : Count) :
    work.board.runOperator surroundings operator motion count =
      onBoard (work.operate surroundings operator motion count) := by
  simp only [Board.runOperator, operate, desk_board, adopt_board]
  have hRun := work.runOperator_desk surroundings operator motion count
  have hState := work.runOperator_state surroundings operator motion count
  rw [h] at hState
  generalize work.desk.runOperator surroundings operator motion count = done at hRun
  generalize work.runOperator surroundings operator motion count = next at hRun hState
  obtain ⟨ran, run⟩ := next
  cases hRun
  split
  · rfl
  · split
    · rw [beginInsert_board hState]
      rfl
    · split
      · rw [remember_board]
        rfl
      · rfl

/-- In Normal mode the counts multiply to the count of the command. -/
theorem total_board {pending : PendingCommand}
    (h : work.engine.state = .normal (.command pending)) :
    work.board.slots.total = pending.total := by
  rw [board_of_state h]
  rfl

theorem operator_board {pending : PendingCommand}
    (h : work.engine.state = .normal (.command pending)) :
    work.board.slots.operator = pending.operator := by
  rw [board_of_state h]
  rfl

theorem runMotion_board {pending : PendingCommand}
    (h : work.engine.state = .normal (.command pending)) (surroundings : Surroundings)
    (motion : Motion) :
    work.board.runMotion surroundings motion =
      onBoard (work.complete surroundings pending motion) := by
  simp only [Board.runMotion, total_board h, operator_board h, clearPending_board h, complete]
  cases pending.operator with
  | none =>
      rw [(staysOnDesk_move surroundings motion pending.total).edit_board]
      rfl
  | some operator => exact runOperator_board rfl surroundings operator motion pending.total

theorem runShorthand_board {pending : PendingCommand}
    (h : work.engine.state = .normal (.command pending)) (surroundings : Surroundings)
    (operator : Operator) (motion : Motion) :
    work.board.runShorthand surroundings operator motion =
      onBoard ((work.enter ModeState.idle).operate surroundings operator motion pending.total) := by
  rw [Board.runShorthand, total_board h, clearPending_board h]
  exact runOperator_board rfl surroundings operator motion pending.total

theorem runReplace_board (work : Workspace) (fill : Char) (count : Nat) :
    work.board.runReplace fill count = onBoard (work.replaceChars fill count) := by
  have hOverwrite := work.overwrite?_desk fill count
  simp only [Board.runReplace, replaceChars, desk_board]
  cases hDone : work.desk.overwrite? fill count with
  | none =>
      rw [hOverwrite, hDone]
      rfl
  | some next =>
      rw [hOverwrite, hDone]
      simp only [adopt_board, remember_board]
      rfl

theorem enter_enterInsert (work : Workspace) (state : ModeState) (entry : InsertEntry) :
    (work.enter state).enterInsert entry = work.enterInsert entry := by
  cases entry <;> rfl

theorem goToEntry_state (work : Workspace) (entry : InsertEntry) :
    ((work.setGoal none).goToEntry entry).engine.state = work.engine.state := by
  cases entry <;> rfl

/-- Insert sessions start the same way from an idle engine. -/
theorem enterInsert_board (work : Workspace) (entry : InsertEntry) :
    (work.enter ModeState.idle).board.enterInsert entry =
      onBoard (work.enterInsert entry, .modeChanged .insert) := by
  have hState := (work.enter ModeState.idle).goToEntry_state entry
  rw [Board.enterInsert, (staysOnDesk_goToEntry entry).edit_board, beginInsert_board hState,
    ← work.enter_enterInsert ModeState.idle]
  rfl

/-! ## Running a command again -/

/-- The board of a workspace while a command is run again. -/
def rehearsal (work : Workspace) : Board :=
  work.board.update ({ · with repeats := true })

theorem rehearsal_desk (work : Workspace) : work.rehearsal.desk = work.desk :=
  desk_board work

theorem rehearsal_adopt (work other : Workspace) :
    work.rehearsal.adopt other = (work.adopt other).rehearsal := by
  rcases work with ⟨⟨state, goal, last⟩, buffer, register⟩
  rcases state with (_ | _) | _ | _ | _ <;> rfl

theorem StaysOnDesk.edit_rehearsal {change : Workspace → Workspace} (h : StaysOnDesk change)
    (work : Workspace) : work.rehearsal.edit change = (change work).rehearsal := by
  rw [Board.edit, rehearsal_desk, rehearsal_adopt, ← h work]

theorem rehearsal_update (work : Workspace) :
    work.rehearsal.update ({ · with repeats := false }) = work.board := by
  rcases work with ⟨⟨state, goal, last⟩, buffer, register⟩
  rcases state with (_ | _) | _ | _ | _ <;> rfl

theorem rehearsal_remember (work : Workspace) (command : Repeatable) :
    work.rehearsal.update (·.remember command) = work.rehearsal := rfl

theorem rehearsal_beginInsert (h : work.engine.state = ModeState.idle)
    (recording : Option Recording) :
    work.rehearsal.update (·.beginInsert recording) = (work.beginInsert none).rehearsal := by
  rw [rehearsal, board_of_state h]
  rfl

theorem rehearsal_finishInsert {typed : Text} (h : work.engine.state = .insert none typed) :
    work.rehearsal.finishInsert = work.leaveInsert.rehearsal := by
  have hClosed :
      work.rehearsal.update Slots.finishInsert = (work.enter ModeState.idle).rehearsal := by
    rw [rehearsal, board_of_state h]
    rfl
  rw [Board.finishInsert, hClosed, staysOnDesk_stepBack.edit_rehearsal]
  rfl

theorem runOperator_rehearsal (h : work.engine.state = ModeState.idle) (surroundings : Surroundings)
    (operator : Operator) (motion : Motion) (count : Count) :
    work.rehearsal.runOperator surroundings operator motion count =
      let (next, run) := work.runOperator surroundings operator motion count
      if run ≠ .blocked ∧ operator.entersInsert then
        ((next.beginInsert none).rehearsal, .modeChanged .insert)
      else (next.rehearsal, run.outcome) := by
  have hRun := work.runOperator_desk surroundings operator motion count
  have hState := work.runOperator_state surroundings operator motion count
  rw [h] at hState
  simp only [Board.runOperator, rehearsal_desk, rehearsal_adopt]
  generalize work.desk.runOperator surroundings operator motion count = done at hRun
  generalize work.runOperator surroundings operator motion count = next at hRun hState
  obtain ⟨ran, run⟩ := next
  cases hRun
  dsimp only
  by_cases hBlocked : done.2 = .blocked
  · simp [hBlocked]
  · by_cases hEnters : operator.entersInsert = true
    · simp [hBlocked, hEnters, rehearsal_beginInsert hState]
    · simp [hBlocked, hEnters, rehearsal_remember]

/-- Whether the command to be repeated is none that would start an insert session without
the text for it. -/
def RemembersText (work : Workspace) : Prop :=
  ∀ motion count, work.engine.lastCommand ≠ some (.operate .change motion count)

/-- Where no insert session was started there is nothing to type again. -/
theorem typeAgain_rehearsal (h : work.engine.state = ModeState.idle) (outcome : KeyOutcome)
    (typed : Text) :
    Board.typeAgain (work.rehearsal, outcome) typed = (work.rehearsal, outcome) := by
  have hMode : work.rehearsal.slots.mode = .normal := by
    show work.board.slots.mode = .normal
    rw [mode_board, Engine.mode, h]
    rfl
  simp [Board.typeAgain, hMode]

/-- An insert session in which a text is typed puts in the text. -/
theorem rehearsal_typed (work : Workspace) (typed : Text) :
    ((work.beginInsert none).rehearsal.edit (·.insertText typed)).finishInsert =
      ((work.insertText typed).leaveInsert).rehearsal := by
  have hTyped : ((work.beginInsert none).insertText typed).engine.state = .insert none [] := by
    rw [beginInsert, enter_insertText]
    rfl
  rw [(staysOnDesk_insertText typed).edit_rehearsal, rehearsal_finishInsert hTyped, beginInsert,
    enter_insertText]
  rfl

/-- Running a command again at the board is running it with nothing remembered. -/
theorem replay_board (h : work.engine.state = ModeState.idle) (hText : work.RemembersText)
    {command : Repeatable} (hLast : work.engine.lastCommand = some command)
    (surroundings : Surroundings) (count : Count) :
    work.rehearsal.replay surroundings count command =
      ((work.repeatLast surroundings count).1.rehearsal,
        (work.repeatLast surroundings count).2) := by
  simp only [repeatLast, hLast]
  cases command with
  | operate operator motion recorded =>
      have hStays : operator.entersInsert = false := by
        cases operator with
        | change => exact absurd hLast (hText motion recorded)
        | _ => rfl
      simp only [Board.replay, runOperator_rehearsal h, hStays]
      generalize (if count.typed = true then count else recorded) = chosen
      have hState := work.runOperator_state surroundings operator motion chosen
      generalize work.runOperator surroundings operator motion chosen = next at hState
      obtain ⟨next, run⟩ := next
      simp [typeAgain_rehearsal (hState.trans h)]
  | change motion recorded typed =>
      simp only [Board.replay, runOperator_rehearsal h]
      generalize (if count.typed = true then count else recorded) = chosen
      have hState := work.runOperator_state surroundings .change motion chosen
      generalize work.runOperator surroundings .change motion chosen = next at hState
      obtain ⟨next, run⟩ := next
      by_cases hBlocked : run = .blocked
      · simp [hBlocked, typeAgain_rehearsal (hState.trans h)]
      · have hMode : (next.beginInsert none).rehearsal.slots.mode = .insert := rfl
        simp only [Board.typeAgain, hBlocked, Operator.entersInsert, ne_eq, not_false_eq_true,
          and_self, if_true, if_false, hMode, rehearsal_typed]
  | replace fill recorded =>
      simp only [Board.replay, Board.runReplace, rehearsal_desk]
      generalize (if count.typed = true then count.value else recorded) = chosen
      rw [overwrite?_desk work]
      cases work.desk.overwrite? fill chosen with
      | none => rfl
      | some next =>
          simp only [Option.map_some, rehearsal_adopt, rehearsal_remember]
  | insert entry typed =>
      have hState := (work.goToEntry_state entry).trans h
      simp only [Board.replay, Board.enterInsert, (staysOnDesk_goToEntry entry).edit_rehearsal,
        rehearsal_beginInsert hState, rehearsal_typed]

theorem repeatLast_board {pending : PendingCommand}
    (h : work.engine.state = .normal (.command pending)) (hText : work.RemembersText)
    (surroundings : Surroundings) :
    work.board.repeatLast surroundings =
      onBoard ((work.enter ModeState.idle).repeatLast surroundings pending.total) := by
  simp only [Board.repeatLast, total_board h, clearPending_board h]
  cases hLast : (work.enter ModeState.idle).engine.lastCommand with
  | none => 
      rw [repeatLast, hLast]
      rw [show (work.enter ModeState.idle).board.slots.lastCommand = none from hLast]
      rfl
  | some command =>
      have hIdle : (work.enter ModeState.idle).engine.state = ModeState.idle := rfl
      have hReplay := replay_board hIdle hText hLast surroundings pending.total
      rw [show (work.enter ModeState.idle).board.slots.lastCommand = some command from hLast]
      rw [rehearsal] at hReplay
      simp only [hReplay, rehearsal_update]
      rfl

end Workspace

end ModalEditor
