import ModalEditor.Modal.Insert
import ModalEditor.Proofs.Operator

namespace ModalEditor

/-!
# Workspaces whose cursor is in the text

A workspace is coherent when its cursor and the anchor of its selection are
positions of its text.  It is steady when, besides, its engine is in Normal or in
Insert mode, where there is no anchor.  Whatever an insert session does keeps a
workspace steady.
-/

namespace Workspace

variable {work : Workspace}

/-- A rewritten text has the cursor where it was asked to be. -/
theorem coherent_rewrite (work : Workspace) (text : Text) (cursor : Nat) :
    (work.rewrite text cursor).buffer.Coherent := by
  show (Position.ofOffset text cursor).IsIn (work.buffer.replaceText text).text
  rw [Buffer.replaceText_text]
  exact Position.isIn_ofOffset text cursor

/-- An operator leaves its text, or the text of before if it has none. -/
theorem perform_text (work : Workspace) (outcome : OperatorOutcome) :
    (work.perform outcome).buffer.text = outcome.text.getD work.buffer.text := by
  obtain ⟨text, cursor, write⟩ := outcome
  cases text with
  | none => rfl
  | some text => exact work.buffer.replaceText_text text

/-! ## Coherent and steady workspaces -/

/-- Whether the cursor and the anchor, if there is one, are positions of the
text. -/
structure Coherent (work : Workspace) : Prop where
  cursor : work.buffer.Coherent
  anchor : ∀ anchor, work.engine.state.anchor = some anchor → anchor.IsIn work.buffer.text

/-- Whether the cursor is a position of the text, in Normal or in Insert mode. -/
structure Steady (work : Workspace) : Prop where
  cursor : work.buffer.Coherent
  mode : work.engine.mode = .normal ∨ work.engine.mode = .insert

theorem Steady.coherent (h : work.Steady) : work.Coherent := by
  refine ⟨h.cursor, ?_⟩
  intro anchor hAnchor
  rcases work with ⟨⟨state, goal, last⟩, buffer, register⟩
  -- Only a selection has an anchor.
  cases state with
  | visual => exact absurd h.mode (by simp [Engine.mode, ModeState.mode])
  | normal | insert | prompt => cases hAnchor

theorem coherent_ofBuffer {buffer : Buffer} (h : buffer.Coherent) :
    (ofBuffer buffer).Coherent :=
  ⟨h, fun _ hAnchor => by cases hAnchor⟩

theorem steady_enter (h : work.buffer.Coherent) {state : ModeState}
    (hMode : state.mode = .normal ∨ state.mode = .insert) : (work.enter state).Steady :=
  ⟨h, hMode⟩

theorem steady_idle (h : work.buffer.Coherent) : (work.enter ModeState.idle).Steady :=
  steady_enter h (Or.inl rfl)

theorem Steady.setGoal (h : work.Steady) (goal : Option GoalColumn) :
    (work.setGoal goal).Steady :=
  ⟨h.cursor, h.mode⟩

theorem Steady.remember (h : work.Steady) (command : Repeatable) :
    (work.remember command).Steady :=
  ⟨h.cursor, h.mode⟩

theorem Steady.moveTo (h : work.Steady) {cursor : Position}
    (hCursor : cursor.IsIn work.buffer.text) : (work.moveTo cursor).Steady :=
  ⟨hCursor, h.mode⟩

theorem Steady.rewrite (h : work.Steady) (text : Text) (cursor : Nat) :
    (work.rewrite text cursor).Steady :=
  ⟨coherent_rewrite work text cursor, h.mode⟩

theorem Steady.perform (h : work.Steady) {outcome : OperatorOutcome}
    (hOutcome : outcome.Coherent work.buffer.text) : (work.perform outcome).Steady :=
  ⟨OperatorOutcome.coherent_applyTo hOutcome work.register, h.mode⟩

/-! ## Insert sessions -/

@[simp]
theorem stepBack_engine (work : Workspace) : work.stepBack.engine = work.engine := by
  rw [stepBack]
  split <;> rfl

@[simp]
theorem insertText_engine (work : Workspace) (text : Text) :
    (work.insertText text).engine = work.engine := by
  rw [insertText]
  split <;> rfl

@[simp]
theorem goToEntry_engine (work : Workspace) (entry : InsertEntry) :
    (work.goToEntry entry).engine = work.engine := by
  cases entry <;> rfl

theorem Steady.insertText (h : work.Steady) (text : Text) : (work.insertText text).Steady := by
  rw [Workspace.insertText]
  split
  · exact h
  · exact h.rewrite _ _

theorem Steady.of_deleteBefore? (h : work.Steady) {next : Workspace}
    (hNext : work.deleteBefore? = some next) : next.Steady := by
  simp only [deleteBefore?] at hNext
  split at hNext
  · cases hNext
  · cases hNext
    exact h.rewrite _ _

theorem Steady.beginInsert (h : work.Steady) (recording : Option Recording) :
    (work.beginInsert recording).Steady :=
  steady_enter h.cursor (Or.inr rfl)

theorem Steady.goToEntry (h : work.Steady) (entry : InsertEntry) :
    (work.goToEntry entry).Steady := by
  cases entry with
  | beforeCursor => exact h
  | afterCursor | lineStart | lineEnd =>
      exact h.moveTo (Position.isIn_ofLineColumn _ _ _)
  | openBelow | openAbove => exact h.rewrite _ _

theorem Steady.stepBack (h : work.Steady) : work.stepBack.Steady := by
  rw [Workspace.stepBack]
  split
  · exact h.moveTo (Position.isIn_ofLineColumn _ _ _)
  · exact h

theorem Steady.leaveInsert (h : work.Steady) : work.leaveInsert.Steady :=
  (steady_idle h.cursor).stepBack

theorem Steady.finishInsert (h : work.Steady) (recording : Option Recording) (typed : Text) :
    (work.finishInsert recording typed).Steady := by
  cases recording with
  | none => exact h.leaveInsert
  | some command => exact (h.remember (command.finish typed)).leaveInsert

/-- A key of an insert session leaves the workspace steady. -/
theorem Steady.pressInsert (h : work.Steady) (recording : Option Recording) (typed : Text)
    (key : Key) : (work.pressInsert recording typed key).1.Steady := by
  cases key with
  | escape => exact h.finishInsert recording typed
  | char c => exact (steady_enter h.cursor (Or.inr rfl)).insertText [c]
  | enter => exact (steady_enter h.cursor (Or.inr rfl)).insertText [lineFeed]
  | backspace =>
      rw [Workspace.pressInsert]
      cases hNext : work.deleteBefore? with
      | none => exact h
      | some next => exact steady_enter (h.of_deleteBefore? hNext).cursor (Or.inr rfl)
  | ctrl c => exact h

end Workspace

end ModalEditor
