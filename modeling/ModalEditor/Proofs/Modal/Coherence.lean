import ModalEditor.Proofs.Modal.Keys
import ModalEditor.Proofs.Modal.Workspace

namespace ModalEditor

/-!
# Every key keeps the cursor in the text

Commands of Normal mode keep a workspace steady.  The keys that leave Normal and
Insert mode, or are typed outside of them, touch the text only on their way back.
So every key keeps a workspace coherent, and one that opens the command line
leaves the buffer as it is.
-/

namespace Workspace

variable {work : Workspace}

/-! ## Commands -/

theorem coherent_move (h : work.buffer.Coherent) (surroundings : Surroundings)
    (motion : Motion) (count : Count) :
    (work.move surroundings motion count).buffer.Coherent :=
  (Motion.isIn_span h motion count _).stop

theorem isIn_of_operatorSpan? {buffer : Buffer} (h : buffer.Coherent)
    {surroundings : Surroundings} {operator : Operator} {motion : Motion} {count : Count}
    {span : Span} (hSpan : operatorSpan? buffer surroundings operator motion count = some span) :
    span.IsIn buffer.text := by
  simp only [operatorSpan?] at hSpan
  split at hSpan
  · cases hSpan
    exact Motion.isIn_changeWordSpan h count.value
  · split at hSpan
    · cases hSpan
    · cases hSpan
      exact Motion.isIn_span h motion count _

theorem Steady.runOperator (h : work.Steady) (surroundings : Surroundings)
    (operator : Operator) (motion : Motion) (count : Count) :
    (work.runOperator surroundings operator motion count).1.Steady := by
  simp only [Workspace.runOperator, h.cursor.settled_eq]
  cases hSpan : operatorSpan? work.buffer surroundings operator motion count with
  | none => exact h.setGoal none
  | some span =>
      dsimp only
      cases hOutcome : operator.apply work.buffer span count.value with
      | none => exact h.setGoal none
      | some outcome =>
          have hIn := isIn_of_operatorSpan? h.cursor hSpan
          exact (h.setGoal none).perform (Operator.coherent_of_apply hIn hOutcome)

theorem Steady.operate (h : work.Steady) (surroundings : Surroundings) (operator : Operator)
    (motion : Motion) (count : Count) :
    (work.operate surroundings operator motion count).1.Steady := by
  have hRun := h.runOperator surroundings operator motion count
  simp only [Workspace.operate]
  split
  · exact hRun
  · split
    · exact hRun.beginInsert _
    · split
      · exact hRun.remember _
      · exact hRun

/-- An operator on a selection of the text ends in Normal or in Insert mode. -/
theorem steady_operateOnSelection (h : work.buffer.Coherent) {anchor : Position}
    (hAnchor : anchor.IsIn work.buffer.text) (operator : Operator) :
    (work.operateOnSelection anchor operator).1.Steady := by
  simp only [operateOnSelection, h.settled_eq]
  generalize hSpan :
    (⟨anchor, work.buffer.cursor, !decide (operator = .indent ∨ operator = .outdent),
      decide (operator = .indent ∨ operator = .outdent)⟩ : Span) = span
  have hIn : span.IsIn work.buffer.text := hSpan ▸ ⟨hAnchor, h⟩
  have hNext : ((operator.apply work.buffer span 1).elim work work.perform).buffer.Coherent := by
    cases hOutcome : operator.apply work.buffer span 1 with
    | none => exact h
    | some outcome =>
        exact OperatorOutcome.coherent_applyTo (Operator.coherent_of_apply hIn hOutcome)
          work.register
  split
  · exact steady_enter hNext (Or.inr rfl)
  · exact steady_idle hNext

theorem Steady.of_overwrite? (h : work.Steady) {fill : Char} {count : Nat} {next : Workspace}
    (hNext : work.overwrite? fill count = some next) : next.Steady := by
  simp only [overwrite?, h.cursor.settled_eq, Option.map_eq_some_iff] at hNext
  obtain ⟨outcome, hOutcome, rfl⟩ := hNext
  exact h.perform (Operator.coherent_of_apply (Span.isIn_empty h.cursor) hOutcome)

theorem Steady.replaceChars (h : work.Steady) (fill : Char) (count : Nat) :
    (work.replaceChars fill count).1.Steady := by
  rw [Workspace.replaceChars]
  cases hNext : work.overwrite? fill count with
  | none => exact h
  | some next => exact (h.of_overwrite? hNext).remember _

theorem Steady.repeatLast (h : work.Steady) (surroundings : Surroundings) (count : Count) :
    (work.repeatLast surroundings count).1.Steady := by
  simp only [Workspace.repeatLast]
  cases work.engine.lastCommand with
  | none => exact h
  | some command =>
      cases command with
      | operate operator motion recorded => exact h.runOperator _ _ _ _
      | change motion recorded typed =>
          -- A motion with nowhere to go ends the repetition before the typing.
          dsimp only
          generalize (if count.typed = true then count else recorded) = chosen
          have hRun := h.runOperator surroundings .change motion chosen
          split
          · exact hRun
          · exact (hRun.insertText typed).leaveInsert
      | replace fill recorded =>
          dsimp only
          cases hNext : work.overwrite? fill
              (if count.typed then count.value else recorded) with
          | none => exact h
          | some next => exact h.of_overwrite? hNext
      | insert entry typed =>
          exact (((h.setGoal none).goToEntry entry).insertText typed).leaveInsert

/-! ## Keys -/

/-- What every key keeps: the workspace after it is coherent, and if the command
line is open then, the buffer is that of before. -/
structure Follows (work next : Workspace) : Prop where
  coherent : next.Coherent
  prompt : next.engine.mode = .commandLine → next.buffer = work.buffer

theorem Steady.follows {next : Workspace} (h : next.Steady) (work : Workspace) :
    work.Follows next := by
  refine ⟨h.coherent, fun hPrompt => ?_⟩
  rcases h.mode with hMode | hMode <;> rw [hMode] at hPrompt <;> cases hPrompt

/-- A state without an anchor can be entered from every coherent workspace. -/
theorem Coherent.follows_enter (h : work.Coherent) {state : ModeState}
    (hAnchor : ∀ anchor, state.anchor = some anchor → anchor.IsIn work.buffer.text) :
    work.Follows (work.enter state) :=
  ⟨⟨h.cursor, hAnchor⟩, fun _ => rfl⟩

theorem Coherent.follows_self (h : work.Coherent) : work.Follows work :=
  ⟨h, fun _ => rfl⟩

/-! ### Normal mode -/

theorem Steady.enterInsert (h : work.Steady) (entry : InsertEntry) :
    (work.enterInsert entry).Steady :=
  ((h.setGoal none).goToEntry entry).beginInsert _

theorem Steady.complete (h : work.Steady) (surroundings : Surroundings)
    (pending : PendingCommand) (motion : Motion) :
    (work.complete surroundings pending motion).1.Steady := by
  have hReady := steady_idle h.cursor
  rw [Workspace.complete]
  cases pending.operator with
  | none => exact ⟨coherent_move hReady.cursor surroundings motion pending.total, hReady.mode⟩
  | some operator => exact hReady.operate surroundings operator motion pending.total

theorem Steady.discard (h : work.Steady) (wasPending : Bool) :
    (work.discard wasPending).1.Steady :=
  steady_idle h.cursor

theorem Steady.await (h : work.Steady) (input : NormalInput) :
    (work.await input).1.Steady :=
  steady_enter h.cursor (Or.inl rfl)

theorem Steady.follows_pressCommand (h : work.Steady) (surroundings : Surroundings)
    (pending : PendingCommand) (c : Char) :
    work.Follows (work.pressCommand surroundings pending c).1 := by
  have hReady := steady_idle h.cursor
  refine pressCommand_cases (P := fun result => work.Follows result.1) ?_ ?_ ?_ ?_ ?_ ?_ ?_ ?_
  · exact fun operator motion => (hReady.operate _ operator motion _).follows work
  · exact fun input => (h.await input).follows work
  -- A selection starts with its anchor at the cursor.
  · refine h.coherent.follows_enter fun anchor hAnchor => ?_
    cases hAnchor
    exact h.cursor
  · exact fun _ => (hReady.repeatLast _ _).follows work
  · exact hReady.follows work
  · exact fun prompt => h.coherent.follows_enter fun anchor hAnchor => by cases hAnchor
  · exact fun entry => (h.enterInsert entry).follows work
  · exact fun wasPending => (h.discard wasPending).follows work

theorem Steady.follows_pressNormalChar (h : work.Steady) (surroundings : Surroundings)
    (pending : PendingCommand) (c : Char) :
    work.Follows (work.pressNormalChar surroundings pending c).1 := by
  refine pressNormalChar_cases (P := fun result => work.Follows result.1) ?_ ?_ ?_ ?_
  · exact fun pending motion => (h.complete _ pending motion).follows work
  · exact fun input => (h.await input).follows work
  · exact fun wasPending => (h.discard wasPending).follows work
  · exact h.follows_pressCommand surroundings pending c

theorem Steady.follows_pressNormal (h : work.Steady) (surroundings : Surroundings)
    (input : NormalInput) (key : Key) :
    work.Follows (work.pressNormal surroundings input key).1 := by
  have hReady := steady_idle h.cursor
  refine pressNormal_cases (P := fun result => work.Follows result.1) ?_ ?_ ?_ ?_
  · exact fun pending c _ _ => h.follows_pressNormalChar surroundings pending c
  · exact h.coherent.follows_self
  · exact fun _ fill count _ _ => (hReady.replaceChars fill count).follows work
  · exact fun wasPending => (h.discard wasPending).follows work

/-! ### Visual mode -/

theorem Coherent.follows_openPrompt (h : work.Coherent) (prompt : Prompt) :
    work.Follows (work.openPrompt prompt).1 :=
  h.follows_enter fun anchor hAnchor => by cases hAnchor

/-- Selecting goes on from the same anchor. -/
theorem Coherent.follows_select (h : work.Coherent) {anchor : Position}
    (hAnchor : anchor.IsIn work.buffer.text) (count : Option Nat) (afterG : Bool) :
    work.Follows (work.enter (.visual anchor count afterG)) :=
  h.follows_enter fun other hOther => by
    cases hOther
    exact hAnchor

theorem Coherent.follows_move (h : work.Coherent) {anchor : Position}
    (hAnchor : anchor.IsIn work.buffer.text) (surroundings : Surroundings) (motion : Motion)
    (count : Count) :
    work.Follows ((work.stayVisual anchor).move surroundings motion count) := by
  have hMove : ((work.stayVisual anchor).move surroundings motion count).buffer.Coherent :=
    coherent_move h.cursor surroundings motion count
  refine ⟨⟨hMove, fun other hOther => ?_⟩, fun hPrompt => by cases hPrompt⟩
  cases hOther
  exact hAnchor

theorem Coherent.follows_pressVisualChar (h : work.Coherent) {anchor : Position}
    (hAnchor : anchor.IsIn work.buffer.text) (surroundings : Surroundings)
    (count : Option Nat) (afterG : Bool) (c : Char) :
    work.Follows (work.pressVisualChar surroundings anchor count afterG c).1 := by
  refine pressVisualChar_cases (P := fun result => work.Follows result.1) ?_ ?_ ?_ ?_ ?_ ?_
  · exact fun motion count => h.follows_move hAnchor surroundings motion count
  · exact fun count afterG => h.follows_select hAnchor count afterG
  · exact fun operator _ => (steady_operateOnSelection h.cursor hAnchor operator).follows work
  · exact fun prompt => h.follows_openPrompt prompt
  · exact (steady_idle h.cursor).follows work
  · exact fun _ => h.follows_select hAnchor none false

theorem Coherent.follows_pressVisual (h : work.Coherent) {anchor : Position}
    (hAnchor : anchor.IsIn work.buffer.text) (surroundings : Surroundings)
    (count : Option Nat) (afterG : Bool) (key : Key) :
    work.Follows (work.pressVisual surroundings anchor count afterG key).1 := by
  cases key with
  | escape => exact (steady_idle h.cursor).follows work
  | char c => exact h.follows_pressVisualChar hAnchor surroundings count afterG c
  | enter | backspace | ctrl => exact h.follows_select hAnchor none false

/-! ### The command line -/

theorem Steady.runTyped (h : work.Steady) (typed : Text) : (work.runTyped typed).1.Steady := by
  simp only [Workspace.runTyped]
  split
  · exact h
  · split
    · exact h
    · exact (h.moveTo (Motion.isIn_firstNonBlankOf _)).setGoal none

theorem Coherent.pressPrompt (h : work.Coherent) (kind : Prompt) (typed : Text) (key : Key) :
    (work.pressPrompt kind typed key).1.Coherent := by
  have hReady := steady_idle h.cursor
  cases key with
  | escape => exact hReady.coherent
  | char c => exact (h.follows_enter fun anchor hAnchor => by cases hAnchor).coherent
  | enter =>
      cases kind with
      | search => exact hReady.coherent
      | command => exact (hReady.runTyped typed).coherent
  | backspace =>
      rw [Workspace.pressPrompt]
      split
      · exact hReady.coherent
      · exact (h.follows_enter fun anchor hAnchor => by cases hAnchor).coherent
  | ctrl c => exact h

/-! ### All modes -/

theorem Coherent.clampCursor (h : work.Coherent) : work.clampCursor.Coherent := by
  simp only [Workspace.clampCursor]
  split
  · exact ⟨Position.isIn_ofLineColumn _ _ _, h.anchor⟩
  · exact h

theorem Coherent.settle {result : Workspace × KeyOutcome} (h : result.1.Coherent) :
    (settle result).1.Coherent := by
  rw [Workspace.settle]
  split
  · exact h.clampCursor
  · exact h.clampCursor
  · exact h
  · exact h

theorem Coherent.steady_of_normal (h : work.Coherent) {input : NormalInput}
    (hState : work.engine.state = .normal input) : work.Steady :=
  ⟨h.cursor, Or.inl (by rw [Engine.mode, hState]; rfl)⟩

theorem Coherent.steady_of_insert (h : work.Coherent) {recording : Option Recording}
    {typed : Text} (hState : work.engine.state = .insert recording typed) : work.Steady :=
  ⟨h.cursor, Or.inr (by rw [Engine.mode, hState]; rfl)⟩

/-- Every key keeps the cursor and the anchor in the text. -/
theorem Coherent.press (h : work.Coherent) (surroundings : Surroundings) (key : Key) :
    (work.press surroundings key).1.Coherent := by
  rw [Workspace.press]
  cases hState : work.engine.state with
  | normal input =>
      exact ((h.steady_of_normal hState).follows_pressNormal surroundings input key).coherent.settle
  | visual anchor count afterG =>
      have hAnchor : anchor.IsIn work.buffer.text := h.anchor anchor (by rw [hState]; rfl)
      exact (h.follows_pressVisual hAnchor surroundings count afterG key).coherent.settle
  | insert recording typed =>
      exact ((h.steady_of_insert hState).pressInsert recording typed key).coherent
  | prompt kind typed => exact h.pressPrompt kind typed key

end Workspace

end ModalEditor
