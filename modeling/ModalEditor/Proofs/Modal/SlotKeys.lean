import ModalEditor.Proofs.Modal.SlotCommands

namespace ModalEditor

/-!
# Keys on slots

A key writes into slots one by one.  Where the slots are those of a workspace, they are
those of the workspace after it, provided that what waits in Normal mode is in the order
in which it can be typed and that the command to be repeated has its text.
-/

/-- Whether a second count comes after an operator. -/
def NormalInput.IsOrdered : NormalInput → Prop
  | .command pending => pending.operator = none → pending.operatorCount = none
  | .replacement _ => True

namespace Workspace

variable {work : Workspace} {surroundings : Surroundings}

/-! ## Normal mode -/

theorem openPrompt_board (work : Workspace) (prompt : Prompt)
    (h : work.engine.mode = .normal ∨ work.engine.mode = .visual) :
    work.board.openPrompt prompt = onBoard (work.openPrompt prompt) := by
  rcases work with ⟨⟨state, goal, last⟩, buffer, register⟩
  rcases state with (_ | _) | _ | _ | _
  · rfl
  · rfl
  · rfl
  · rcases h with h | h <;> cases h
  · rcases h with h | h <;> cases h

/-- Keys that are no command of their own open the command line, start an insert session
or lead nowhere. -/
theorem pressCommand_of_notMem {pending : PendingCommand} {c : Char}
    (h : c ∉ ['x', 'D', 'C', 'r', 'v', '.', 'u']) :
    work.pressCommand surroundings pending c =
      (Prompt.ofKey? c).elim
        ((InsertEntry.ofKey? c).elim (work.discard pending.isPending) fun entry =>
          (work.enterInsert entry, .modeChanged .insert))
        work.openPrompt := by
  unfold pressCommand
  split
  iterate 7 exact absurd (by decide) h
  cases Prompt.ofKey? c with
  | some prompt => rfl
  | none => cases InsertEntry.ofKey? c <;> rfl

/-- A command of Normal mode, with a count typed before it or nothing. -/
theorem pressCommand_board {count : Option Nat}
    (h : work.engine.state = .normal (.command ⟨count, none, none, false⟩))
    (hText : work.RemembersText) (surroundings : Surroundings) (c : Char) :
    work.board.pressCommand surroundings c =
      onBoard (work.pressCommand surroundings ⟨count, none, none, false⟩ c) := by
  have hCleared := clearPending_board h
  unfold Board.pressCommand
  split
  · exact runShorthand_board h surroundings _ _
  · exact runShorthand_board h surroundings _ _
  · exact runShorthand_board h surroundings _ _
  · rw [board_of_state h]
    rfl
  · rw [board_of_state h]
    rfl
  · exact repeatLast_board h hText surroundings
  · rw [hCleared]
    rfl
  · have hOthers : c ∉ ['x', 'D', 'C', 'r', 'v', '.', 'u'] := by
      simp only [List.mem_cons, List.not_mem_nil, or_false, not_or]
      exact ⟨‹_›, ‹_›, ‹_›, ‹_›, ‹_›, ‹_›, ‹_›⟩
    have hMode : work.engine.mode = .normal := by
      rw [Engine.mode, h]
      rfl
    rw [pressCommand_of_notMem hOthers]
    cases Prompt.ofKey? c with
    | some prompt => exact work.openPrompt_board prompt (Or.inl hMode)
    | none =>
        cases InsertEntry.ofKey? c with
        | some entry =>
            rw [hCleared]
            exact work.enterInsert_board entry
        | none => exact cancel_board h

/-- A digit goes to the same count. -/
theorem withDigit?_board {pending : PendingCommand}
    (h : work.engine.state = .normal (.command pending)) (c : Char) :
    work.board.slots.withDigit? c =
      (pending.withDigit? c).map fun next =>
        (work.enter (.normal (.command next))).board.slots := by
  rcases work with ⟨⟨state, goal, last⟩, buffer, register⟩
  cases h
  unfold Slots.withDigit? PendingCommand.withDigit?
  rw [Option.map_bind]
  refine congrArg (Option.bind (digitValue? c)) (funext fun digit => ?_)
  rw [Function.comp_apply, apply_ite (Option.map _), Option.map_map, Option.map_map]
  rfl

/-- A character in Normal mode. -/
theorem pressChar_board_of_normal {pending : PendingCommand}
    (h : work.engine.state = .normal (.command pending))
    (hOrdered : (NormalInput.command pending).IsOrdered)
    (hText : work.RemembersText) (surroundings : Surroundings) (c : Char) :
    work.board.pressChar surroundings c =
      onBoard (work.pressNormalChar surroundings pending c) := by
  have hMode : work.board.slots.mode ≠ .visual := by
    rw [mode_board, Engine.mode, h]
    exact Mode.noConfusion
  have hG : work.board.slots.afterG = pending.afterG := by
    rw [board_of_state h]
    rfl
  unfold Board.pressChar pressNormalChar
  rw [hG, withDigit?_board h, operator_board h]
  by_cases hAfterG : pending.afterG = true
  · have hCleared : work.board.update ({ · with afterG := false }) =
        (work.enter (.normal (.command { pending with afterG := false }))).board := by
      rw [board_of_state h]
      rfl
    have hState :
        (work.enter (.normal (.command { pending with afterG := false }))).engine.state =
          .normal (.command { pending with afterG := false }) := rfl
    rw [if_pos hAfterG, if_pos hAfterG]
    dsimp only
    rw [hCleared]
    by_cases hKey : c = 'g'
    · rw [if_pos hKey, if_pos hKey]
      exact runMotion_board hState surroundings .fileStart
    · rw [if_neg hKey, if_neg hKey]
      exact cancel_board hState
  · rw [if_neg hAfterG, if_neg hAfterG]
    cases pending.withDigit? c with
    | some next => rfl
    | none =>
        dsimp only [Option.map_none]
        by_cases hKey : c = 'g'
        · rw [if_pos hKey, if_pos hKey]
          rw [board_of_state h]
          rfl
        · rw [if_neg hKey, if_neg hKey]
          cases hOperator : pending.operator with
          | some operator =>
              dsimp only
              by_cases hDoubled : c = operator.key
              · rw [if_pos hDoubled, if_pos hDoubled]
                exact runMotion_board h surroundings .currentLine
              · rw [if_neg hDoubled, if_neg hDoubled]
                cases Motion.ofKey? c with
                | some motion => exact runMotion_board h surroundings motion
                | none => exact cancel_board h
          | none =>
              cases Motion.ofKey? c with
              | some motion => exact runMotion_board h surroundings motion
              | none =>
                  cases Operator.ofKey? c with
                  | some operator =>
                      dsimp only
                      rw [if_neg hMode]
                      rw [board_of_state h]
                      rfl
                  | none =>
                      dsimp only
                      rw [if_neg hMode]
                      -- Without an operator or `g`, only the first count can be pending.
                      obtain ⟨count, operator, operatorCount, afterG⟩ := pending
                      cases hOperator
                      cases hOrdered rfl
                      obtain rfl : afterG = false := by simpa using hAfterG
                      exact pressCommand_board h hText surroundings c

/-! ### The character that takes the place of others -/

section Replacement

variable {count : Option Nat} (h : work.engine.state = .normal (.replacement count))

include h

theorem clearCounts_board :
    (work.board.update ({ · with awaitsReplacement := false })).update Slots.clearCounts =
      (work.enter ModeState.idle).board := by
  rw [board_of_state h]
  rfl

theorem pressReplacement_board (fill : Char) :
    (work.board.update ({ · with awaitsReplacement := false })).pressReplacement fill =
      onBoard ((work.enter ModeState.idle).replaceChars fill
        { PendingCommand.none with count }.total.value) := by
  have hTotal : (work.board.update ({ · with awaitsReplacement := false })).slots.total =
      { PendingCommand.none with count }.total := by
    rw [board_of_state h]
    rfl
  rw [Board.pressReplacement, clearCounts_board h, hTotal]
  exact runReplace_board _ fill _

/-- Once no character is awaited, the count alone is pending. -/
theorem cancel_board_of_replacement :
    (work.board.update ({ · with awaitsReplacement := false })).cancel =
      onBoard ((work.enter ModeState.idle).discard count.isSome) := by
  have hDropped : work.board.update ({ · with awaitsReplacement := false }) =
      (work.enter (.normal (.command { PendingCommand.none with count }))).board := by
    rw [board_of_state h]
    rfl
  rw [hDropped, cancel_board rfl]
  cases count <;> rfl

end Replacement

/-- A key in Normal mode. -/
theorem pressNormal_board {input : NormalInput} (h : work.engine.state = .normal input)
    (hOrdered : input.IsOrdered) (hText : work.RemembersText) (surroundings : Surroundings)
    (key : Key) :
    work.board.pressNormal surroundings key =
      onBoard (work.pressNormal surroundings input key) := by
  have hMode : work.board.slots.mode = .normal := by
    rw [mode_board, Engine.mode, h]
    rfl
  unfold Board.pressNormal
  by_cases hEscape : key = .escape
  · rw [if_pos hEscape, Board.escape, clearPending_board h, hMode, isPending_board, h, hEscape]
    cases input <;> rfl
  · rw [if_neg hEscape]
    cases input with
    | command pending =>
        have hAwaits : work.board.slots.awaitsReplacement = false := by
          rw [board_of_state h]
          rfl
        rw [hAwaits, if_neg Bool.false_ne_true]
        cases key with
        | escape => exact absurd rfl hEscape
        | char c => exact pressChar_board_of_normal h hOrdered hText surroundings c
        | enter | backspace => exact cancel_board h
        | ctrl c =>
            have hCancel := cancel_board h
            simp only [hMode, isPending_board, h, true_and]
            show _ = onBoard (if Key.ctrl c = .ctrl 'r' ∧ !pending.isPending then (work, .redo)
              else work.discard pending.isPending)
            rw [apply_ite onBoard]
            exact ite_congr rfl (fun _ => rfl) (fun _ => hCancel)
    | replacement count =>
        have hAwaits : work.board.slots.awaitsReplacement = true := by
          rw [board_of_state h]
          rfl
        rw [hAwaits, if_pos rfl]
        cases key with
        | escape => exact absurd rfl hEscape
        | char c => exact pressReplacement_board h c
        | enter => exact pressReplacement_board h lineFeed
        | backspace | ctrl => exact cancel_board_of_replacement h

/-! ## Visual mode -/

section Visual

variable {anchor : Position} {count : Option Nat} {afterG : Bool}
  (h : work.engine.state = .visual anchor count afterG)

include h

theorem clearPending_board_of_visual :
    work.board.update Slots.clearPending = (work.stayVisual anchor).board := by
  rw [board_of_state h]
  rfl

theorem endSelection_board :
    (work.board.update Slots.clearPending).update Slots.endSelection =
      (work.enter ModeState.idle).board := by
  rw [board_of_state h]
  rfl

theorem cancel_board_of_visual :
    work.board.cancel = onBoard (work.discardVisual anchor (count.isSome || afterG)) := by
  rw [Board.cancel, isPending_board, h, clearPending_board_of_visual h]
  cases hPending : (ModeState.visual anchor count afterG).isPending with
  | true =>
      have hPending : (count.isSome || afterG) = true := hPending
      rw [if_pos rfl, hPending]
      rfl
  | false =>
      have hPending : (count.isSome || afterG) = false := hPending
      rw [if_neg Bool.false_ne_true, hPending, discardVisual, stayVisual]
      simp only [Bool.or_eq_false_iff, Option.isSome_eq_false_iff, Option.isNone_iff_eq_none]
        at hPending
      obtain ⟨rfl, rfl⟩ := hPending
      rw [enter_of_state h]
      rfl

theorem runMotion_board_of_visual (surroundings : Surroundings) (motion : Motion) :
    work.board.runMotion surroundings motion =
      onBoard ((work.stayVisual anchor).move surroundings motion
        { PendingCommand.none with count }.total, .moved) := by
  have hOperator : work.board.slots.operator = none := by
    rw [board_of_state h]
    rfl
  have hTotal : work.board.slots.total = { PendingCommand.none with count }.total := by
    rw [board_of_state h]
    rfl
  simp only [Board.runMotion, hOperator, hTotal, clearPending_board_of_visual h,
    (staysOnDesk_move surroundings motion _).edit_board]
  rfl

theorem runSelected_board (operator : Operator) :
    work.board.runSelected operator = onBoard (work.operateOnSelection anchor operator) := by
  have hAnchor : work.board.slots.anchor = some anchor := by
    rw [board_of_state h]
    rfl
  simp only [Board.runSelected, hAnchor, endSelection_board h, Option.getD_some, Board.edit,
    desk_board, adopt_board]
  rw [work.operateOnSelection_desk anchor operator]
  dsimp only
  split
  · rw [beginInsert_board rfl]
    rfl
  · rfl

theorem withDigit?_board_of_visual (c : Char) :
    work.board.slots.withDigit? c =
      ((digitValue? c).bind (extendCount? count)).map fun count =>
        (work.enter (.visual anchor (some count) afterG)).board.slots := by
  rcases work with ⟨⟨state, goal, last⟩, buffer, register⟩
  cases h
  rw [Option.map_bind]
  rfl

theorem pressSelecting_board (c : Char) :
    work.board.pressSelecting c =
      onBoard ((Prompt.ofKey? c).elim
        (if c = 'v' then (work.enter ModeState.idle, .modeChanged .normal)
          else if c = 'x' then work.operateOnSelection anchor .delete
          else work.discardVisual anchor (count.isSome || afterG))
        work.openPrompt) := by
  have hMode : work.engine.mode = .visual := by
    rw [Engine.mode, h]
    rfl
  unfold Board.pressSelecting
  by_cases hLeave : c = 'v'
  · subst hLeave
    rw [if_pos rfl, endSelection_board h]
    rfl
  · rw [if_neg hLeave, if_neg hLeave]
    by_cases hDelete : c = 'x'
    · subst hDelete
      exact runSelected_board h .delete
    · rw [if_neg hDelete, if_neg hDelete]
      cases Prompt.ofKey? c with
      | some prompt => exact work.openPrompt_board prompt (Or.inr hMode)
      | none => exact cancel_board_of_visual h

theorem pressChar_board_of_visual (surroundings : Surroundings) (c : Char) :
    work.board.pressChar surroundings c =
      onBoard (work.pressVisualChar surroundings anchor count afterG c) := by
  have hMode : work.board.slots.mode = .visual := by
    rw [mode_board, Engine.mode, h]
    rfl
  have hG : work.board.slots.afterG = afterG := by
    rw [board_of_state h]
    rfl
  have hOperator : work.board.slots.operator = none := by
    rw [board_of_state h]
    rfl
  unfold Board.pressChar pressVisualChar
  rw [hG, withDigit?_board_of_visual h, hOperator]
  cases afterG with
  | true =>
      have hCleared : work.board.update ({ · with afterG := false }) =
          (work.enter (.visual anchor count false)).board := by
        rw [board_of_state h]
        rfl
      have hState : (work.enter (.visual anchor count false)).engine.state =
        .visual anchor count false := rfl
      dsimp only
      rw [if_pos rfl, if_pos rfl, hCleared]
      by_cases hKey : c = 'g'
      · rw [if_pos hKey, if_pos hKey]
        exact runMotion_board_of_visual hState surroundings .fileStart
      · rw [if_neg hKey, if_neg hKey, cancel_board_of_visual hState, Bool.or_false]
        rfl
  | false =>
      rw [if_neg Bool.false_ne_true, if_neg Bool.false_ne_true]
      cases (digitValue? c).bind (extendCount? count) with
      | some next => rfl
      | none =>
          dsimp only [Option.map_none]
          by_cases hKey : c = 'g'
          · rw [if_pos hKey, if_pos hKey]
            rw [board_of_state h]
            rfl
          · rw [if_neg hKey, if_neg hKey]
            cases Motion.ofKey? c with
            | some motion => exact runMotion_board_of_visual h surroundings motion
            | none =>
                cases Operator.ofKey? c with
                | some operator =>
                    dsimp only
                    rw [if_pos hMode]
                    exact runSelected_board h operator
                | none =>
                    dsimp only
                    rw [if_pos hMode, pressSelecting_board h, Bool.or_false]
                    cases Prompt.ofKey? c <;> rfl

/-- A key in Visual mode. -/
theorem pressNormal_board_of_visual (surroundings : Surroundings) (key : Key) :
    work.board.pressNormal surroundings key =
      onBoard (work.pressVisual surroundings anchor count afterG key) := by
  have hMode : work.board.slots.mode = .visual := by
    rw [mode_board, Engine.mode, h]
    rfl
  have hAwaits : work.board.slots.awaitsReplacement = false := by
    rw [board_of_state h]
    rfl
  have hCancel := cancel_board_of_visual h
  unfold Board.pressNormal
  by_cases hEscape : key = .escape
  · subst hEscape
    rw [if_pos rfl, Board.escape, hMode, endSelection_board h]
    rfl
  · rw [if_neg hEscape, hAwaits, if_neg Bool.false_ne_true]
    cases key with
    | escape => exact absurd rfl hEscape
    | char c => exact pressChar_board_of_visual h surroundings c
    | enter | backspace => exact hCancel
    | ctrl c =>
        simp only [hMode, reduceCtorEq, false_and, and_false, if_false]
        exact hCancel

end Visual

/-! ## Insert mode and the command line -/

/-- A key in Insert mode. -/
theorem pressInsert_board {recording : Option Recording} {typed : Text}
    (h : work.engine.state = .insert recording typed) (key : Key) :
    work.board.pressInsert key = onBoard (work.pressInsert recording typed key) := by
  have hTyping (text : Text) :
      (work.board.update fun slots => { slots with typed := slots.typed ++ text }) =
        (work.enter (.insert recording (typed ++ text))).board := by
    rw [board_of_state h]
    rfl
  cases key with
  | escape =>
      rw [Board.pressInsert, finishInsert_board h]
      rfl
  | char c =>
      rw [Board.pressInsert, hTyping, (staysOnDesk_insertText [c]).edit_board]
      rfl
  | enter =>
      rw [Board.pressInsert, hTyping, (staysOnDesk_insertText [lineFeed]).edit_board]
      rfl
  | backspace =>
      have hDelete := work.deleteBefore?_desk
      simp only [Board.pressInsert, pressInsert, desk_board]
      cases hDone : work.desk.deleteBefore? with
      | none =>
          rw [hDelete, hDone]
          rfl
      | some next =>
          rw [hDelete, hDone]
          rw [board_of_state h]
          rfl
  | ctrl c => rfl

theorem closePrompt_board {kind : Prompt} {typed : Text}
    (h : work.engine.state = .prompt kind typed) :
    work.board.update Slots.closePrompt = (work.enter ModeState.idle).board := by
  rw [board_of_state h]
  rfl

/-- A key on the command line. -/
theorem pressPrompt_board {kind : Prompt} {typed : Text}
    (h : work.engine.state = .prompt kind typed) (key : Key) :
    work.board.pressPrompt key = onBoard (work.pressPrompt kind typed key) := by
  have hClosed := closePrompt_board h
  have hCommand : work.board.slots.command = typed := by
    rw [board_of_state h]
    rfl
  have hPrompt : work.board.slots.prompt = some kind := by
    rw [board_of_state h]
    rfl
  have hTyping (write : Text → Text) :
      (work.board.update fun slots => { slots with command := write slots.command }) =
        (work.enter (.prompt kind (write typed))).board := by
    rw [board_of_state h]
    rfl
  cases key with
  | escape =>
      rw [Board.pressPrompt, hClosed]
      rfl
  | char c =>
      rw [Board.pressPrompt, hTyping (· ++ [c])]
      rfl
  | enter =>
      simp only [Board.pressPrompt, hCommand, hClosed, hPrompt, pressPrompt]
      cases kind with
      | search => rfl
      | command =>
          dsimp only
          rw [desk_board, (work.enter ModeState.idle).runTyped_desk typed, adopt_board]
          rfl
  | backspace =>
      simp only [Board.pressPrompt, pressPrompt, hCommand, hClosed, hTyping List.dropLast]
      split <;> rfl
  | ctrl c => rfl

/-! ## All modes -/

/-- Whether the input of Normal mode is in order and the command to be repeated has its
text. -/
structure Orderly (work : Workspace) : Prop where
  isOrdered : ∀ input, work.engine.state = .normal input → input.IsOrdered
  text : work.RemembersText

theorem settle_board (result : Workspace × KeyOutcome) :
    Board.settle (onBoard result) = onBoard (settle result) := by
  simp only [Board.settle, settle, onBoard, mode_board, staysOnDesk_clampCursor.edit_board]
  cases result.1.engine.mode <;> rfl

/-- A key does on a board what it does to the workspace. -/
theorem Orderly.press_board (h : work.Orderly) (surroundings : Surroundings) (key : Key) :
    work.board.press surroundings key = onBoard (work.press surroundings key) := by
  rw [Board.press, mode_board, Workspace.press, Engine.mode]
  cases hState : work.engine.state with
  | normal input =>
      simp only [ModeState.mode]
      rw [pressNormal_board hState (h.isOrdered input hState) h.text, settle_board]
  | visual anchor count afterG =>
      simp only [ModeState.mode]
      rw [pressNormal_board_of_visual hState, settle_board]
  | insert recording typed => exact pressInsert_board hState key
  | prompt kind typed => exact pressPrompt_board hState key

end Workspace

end ModalEditor
