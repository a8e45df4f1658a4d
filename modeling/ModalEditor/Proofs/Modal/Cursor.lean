import ModalEditor.Proofs.Modal.Coherence
import ModalEditor.Proofs.Text.Blank

namespace ModalEditor

/-!
# Where the cursor stands after a key

Besides being a position of the text, the cursor stands on a character, or at
the start of its line, in every mode but Insert.  Keys of Normal and Visual mode
end by putting it there; opening the command line does not, and finds it there.
-/

theorem Buffer.onCharacter_moveTo_ofLineColumn (buffer : Buffer) {number column : Nat}
    (h : column = 0 ∨ column < lineLength buffer.lines (min number (lastLine buffer.lines))) :
    (buffer.moveTo (Position.ofLineColumn buffer.lines number column)).OnCharacter := by
  rcases h with rfl | hLess
  · exact Or.inl (Nat.zero_min _)
  · exact Or.inr (Nat.lt_of_le_of_lt (Nat.min_le_left _ _) hLess)

/-- A column that a line has is a character to stand on. -/
theorem Buffer.onCharacter_moveTo_of_lt (buffer : Buffer) {number column : Nat}
    (hNumber : number < buffer.lines.length) (hColumn : column < lineLength buffer.lines number) :
    (buffer.moveTo (Position.ofLineColumn buffer.lines number column)).OnCharacter := by
  refine buffer.onCharacter_moveTo_ofLineColumn (Or.inr ?_)
  rwa [Position.min_lastLine_of_lt hNumber]

namespace Workspace

variable {work : Workspace}

/-- The invariant of the modal engine: cursor and anchor are positions of the
text, and outside Insert mode the cursor stands on a character. -/
structure WellPlaced (work : Workspace) : Prop where
  coherent : work.Coherent
  onCharacter : work.engine.mode ≠ .insert → work.buffer.OnCharacter

theorem wellPlaced_ofBuffer (text : Text) (tabSize : Nat) :
    (ofBuffer ⟨text, Position.origin, tabSize⟩).WellPlaced :=
  ⟨coherent_ofBuffer (Position.isIn_origin text), fun _ => Or.inl rfl⟩

theorem onCharacter_clampCursor (h : work.buffer.Coherent) :
    work.clampCursor.buffer.OnCharacter := by
  obtain ⟨hLine, hColumn⟩ := h.bounds
  simp only [clampCursor]
  split
  next hPast => exact work.buffer.onCharacter_moveTo_of_lt hLine (by omega)
  next hWithin =>
    rw [Buffer.OnCharacter]
    omega

theorem clampCursor_of_onCharacter (h : work.buffer.OnCharacter) : work.clampCursor = work := by
  have hStands : ¬(work.buffer.cursor.column > 0 ∧
      lineLength work.buffer.lines work.buffer.cursor.line > 0 ∧
      work.buffer.cursor.column ≥ lineLength work.buffer.lines work.buffer.cursor.line) := by
    rcases h with hStart | hOn <;> omega
  simp only [clampCursor, if_neg hStands]

/-- Putting the cursor on a character once is enough, wherever it was. -/
@[simp]
theorem clampCursor_clampCursor (work : Workspace) :
    work.clampCursor.clampCursor = work.clampCursor := by
  by_cases hPast : work.buffer.cursor.column > 0 ∧
      lineLength work.buffer.lines work.buffer.cursor.line > 0 ∧
      work.buffer.cursor.column ≥ lineLength work.buffer.lines work.buffer.cursor.line
  · refine clampCursor_of_onCharacter ?_
    have hLine : work.buffer.cursor.line < work.buffer.lines.length := by
      refine Decidable.byContradiction fun hBeyond => ?_
      have hEmpty : lineLength work.buffer.lines work.buffer.cursor.line = 0 := by
        simp [lineLength, lineAt, List.getElem?_eq_none (Nat.le_of_not_lt hBeyond)]
      omega
    simp only [clampCursor, if_pos hPast]
    exact work.buffer.onCharacter_moveTo_of_lt hLine (by omega)
  · simp only [clampCursor, if_neg hPast]

theorem onCharacter_stepBack (h : work.buffer.Coherent) : work.stepBack.buffer.OnCharacter := by
  obtain ⟨hLine, hColumn⟩ := h.bounds
  simp only [stepBack]
  split
  next hPositive => exact work.buffer.onCharacter_moveTo_of_lt hLine (by omega)
  next hZero => exact Or.inl (by omega)

theorem onCharacter_firstNonBlankOf (buffer : Buffer) (line : Nat) :
    (buffer.moveTo (Motion.firstNonBlankOf buffer.lines line)).OnCharacter := by
  refine buffer.onCharacter_moveTo_ofLineColumn ?_
  rw [Nat.min_eq_left (Nat.min_le_right line (lastLine buffer.lines))]
  exact firstNonBlankColumn_lt _

/-- A key that ends an insert session steps back onto a character; all others
stay in the session. -/
theorem pressInsert_insert_or_onCharacter (h : work.Steady)
    {recording : Option Recording} {typed : Text}
    (hState : work.engine.state = .insert recording typed) (key : Key) :
    (work.pressInsert recording typed key).1.engine.mode = .insert ∨
      (work.pressInsert recording typed key).1.buffer.OnCharacter := by
  have hMode : work.engine.mode = .insert := by rw [Engine.mode, hState]; rfl
  cases key with
  | escape =>
      refine Or.inr ?_
      cases recording with
      | none =>
          show (work.enter ModeState.idle).stepBack.buffer.OnCharacter
          exact onCharacter_stepBack h.cursor
      | some command =>
          show ((work.remember (command.finish typed)).enter
            ModeState.idle).stepBack.buffer.OnCharacter
          exact onCharacter_stepBack h.cursor
  | char c => exact Or.inl (congrArg Engine.mode (insertText_engine _ _))
  | enter => exact Or.inl (congrArg Engine.mode (insertText_engine _ _))
  | backspace =>
      rw [pressInsert]
      cases work.deleteBefore? with
      | none => exact Or.inl hMode
      | some next => exact Or.inl rfl
  | ctrl c => exact Or.inl hMode

/-- On the command line the cursor moves only to a line asked for, where it
stands on a character. -/
theorem onCharacter_pressPrompt (h : work.buffer.OnCharacter) (kind : Prompt) (typed : Text)
    (key : Key) : (work.pressPrompt kind typed key).1.buffer.OnCharacter := by
  cases key with
  | escape | char | ctrl => exact h
  | backspace =>
      rw [pressPrompt]
      split <;> exact h
  | enter =>
      cases kind with
      | search => exact h
      | command =>
          simp only [pressPrompt, runTyped]
          split
          · exact h
          · split
            · exact h
            · exact onCharacter_firstNonBlankOf work.buffer _

/-- After a key of Normal or Visual mode the cursor is put on a character; where
it is not, the command line was opened and the buffer is that of before. -/
theorem Follows.wellPlaced_settle {result : Workspace × KeyOutcome}
    (h : work.Follows result.1) (hWork : work.buffer.OnCharacter) :
    (settle result).1.WellPlaced := by
  refine ⟨h.coherent.settle, ?_⟩
  rw [settle]
  -- Normal and Visual mode clamp, Insert mode owes nothing, and the command line
  -- shows the buffer of before.
  split
  · exact fun _ => onCharacter_clampCursor h.coherent.cursor
  · exact fun _ => onCharacter_clampCursor h.coherent.cursor
  · next hMode => exact fun hNot => absurd hMode hNot
  · next hMode =>
      intro _
      rw [h.prompt hMode]
      exact hWork

/-- Every key keeps the invariant. -/
theorem WellPlaced.press (h : work.WellPlaced) (surroundings : Surroundings) (key : Key) :
    (work.press surroundings key).1.WellPlaced := by
  have hCoherent := h.coherent.press surroundings key
  cases hState : work.engine.state with
  | normal input =>
      have hOn := h.onCharacter (by simp [Engine.mode, hState, ModeState.mode])
      rw [Workspace.press, hState]
      exact ((h.coherent.steady_of_normal hState).follows_pressNormal surroundings input
        key).wellPlaced_settle hOn
  | visual anchor count afterG =>
      have hOn := h.onCharacter (by simp [Engine.mode, hState, ModeState.mode])
      have hAnchor : anchor.IsIn work.buffer.text :=
        h.coherent.anchor anchor (by rw [hState]; rfl)
      rw [Workspace.press, hState]
      exact (h.coherent.follows_pressVisual hAnchor surroundings count afterG
        key).wellPlaced_settle hOn
  | insert recording typed =>
      refine ⟨hCoherent, fun hMode => ?_⟩
      rw [Workspace.press, hState] at hMode ⊢
      have hSteady := h.coherent.steady_of_insert hState
      rcases pressInsert_insert_or_onCharacter hSteady hState key with hInsert | hOn
      · exact absurd hInsert hMode
      · exact hOn
  | prompt kind typed =>
      have hOn := h.onCharacter (by simp [Engine.mode, hState, ModeState.mode])
      refine ⟨hCoherent, fun _ => ?_⟩
      rw [Workspace.press, hState]
      exact onCharacter_pressPrompt hOn kind typed key

/-- Keys in order, each in its own surroundings. -/
def pressAll (work : Workspace) (keys : List (Surroundings × Key)) : Workspace :=
  keys.foldl (fun work key => (work.press key.1 key.2).1) work

theorem Coherent.pressAll (h : work.Coherent) (keys : List (Surroundings × Key)) :
    (work.pressAll keys).Coherent := by
  induction keys generalizing work with
  | nil => exact h
  | cons key keys ih => exact ih (h.press key.1 key.2)

theorem WellPlaced.pressAll (h : work.WellPlaced) (keys : List (Surroundings × Key)) :
    (work.pressAll keys).WellPlaced := by
  induction keys generalizing work with
  | nil => exact h
  | cons key keys ih => exact ih (h.press key.1 key.2)

/-- Whether keys, each in its own surroundings, lead to a workspace from the start of some
text, with whatever was in the register. -/
def IsReachable (work : Workspace) : Prop :=
  ∃ text tabSize register keys,
    work = (⟨Engine.fresh, ⟨text, Position.origin, tabSize⟩, register⟩ : Workspace).pressAll keys

/-- Every workspace that keys lead to keeps the invariant. -/
theorem IsReachable.wellPlaced (h : work.IsReachable) : work.WellPlaced := by
  obtain ⟨text, tabSize, register, keys, rfl⟩ := h
  have hStart :
      (⟨Engine.fresh, ⟨text, Position.origin, tabSize⟩, register⟩ : Workspace).WellPlaced :=
    ⟨⟨Position.isIn_origin text, fun _ hAnchor => by cases hAnchor⟩, fun _ => Or.inl rfl⟩
  exact hStart.pressAll keys

/-- After any keys, in whatever surroundings, line and column of the cursor are
those of its offset, which lies in the text, and outside Insert mode the cursor
stands on a character or at the start of its line. -/
theorem cursor_of_pressAll (text : Text) (tabSize : Nat)
    (keys : List (Surroundings × Key)) :
    let work := (ofBuffer ⟨text, Position.origin, tabSize⟩).pressAll keys
    let cursor := work.buffer.cursor
    cursor = Position.ofOffset work.buffer.text cursor.offset ∧
      cursor.offset ≤ work.buffer.text.length ∧
      (work.engine.mode = .normal ∨ work.engine.mode = .visual ∨
          work.engine.mode = .commandLine →
        cursor.column < lineLength (splitLines work.buffer.text) cursor.line ∨
          cursor.column = 0) := by
  have h := (wellPlaced_ofBuffer text tabSize).pressAll keys
  refine ⟨h.coherent.cursor, Position.IsIn.offset_le h.coherent.cursor, fun hMode => ?_⟩
  have hNotInsert :
      ((ofBuffer ⟨text, Position.origin, tabSize⟩).pressAll keys).engine.mode ≠ .insert := by
    rcases hMode with hMode | hMode | hMode <;> rw [hMode] <;> decide
  exact (h.onCharacter hNotInsert).symm

end Workspace

end ModalEditor
