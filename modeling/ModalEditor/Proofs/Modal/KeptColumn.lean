import ModalEditor.Proofs.Modal.Moves
import ModalEditor.Proofs.Run
import ModalEditor.Proofs.Text.Coordinates

namespace ModalEditor

/-!
# The column that vertical motions keep

Vertical motions go by a column that was kept, not by that of the cursor.  Going down and up
again returns to the cursor exactly where the two agree.

They agree after most keys: a motion keeps the column it leads to or none, and operators,
ways into Insert mode and line numbers forget it.  Replacing characters, running an operator
on a selection, and the end of an insert session after that, move the cursor and leave the
column as it was.

* `Workspace.down_then_up_returns_iff_column_kept` says where `j` and `k` return, and
  which keys have to be looked at for the column of a run.
* `Workspace.selection_leaves_kept_column` and `Workspace.replacement_leaves_kept_column` are
  runs after which they do not.
-/

namespace Position

variable {text : Text} {p : Position}

/-- A position is that of its line in one column only. -/
theorem IsIn.ofLineColumn_eq_iff (h : p.IsIn text) {column : Nat}
    (hColumn : column ≤ lineLength (splitLines text) p.line) :
    ofLineColumn (splitLines text) p.line column = p ↔ p.column = column := by
  obtain ⟨hLine, -, hOffset⟩ := isIn_iff.mp h
  rw [ofLineColumn_eq_ofOffset hLine hColumn]
  constructor
  · intro hSame
    have hEnd := lineStart_add_le hLine hColumn
    have hSameOffset := congrArg Position.offset hSame
    rw [joinLines_splitLines] at hEnd
    rw [ofOffset_offset, Nat.min_eq_left hEnd] at hSameOffset
    omega
  · rintro rfl
    rw [← hOffset]
    exact h.symm

end Position

namespace Motion

variable {text : Text} {cursor : Position} {surroundings : Surroundings} {motion : Motion}

/-- To the end of a line, a motion lands in its last column. -/
theorem exists_landing_lineEnd (hText : text ≠ []) (circumstances : Circumstances)
    (count : Count) (cursor : Position) :
    ∃ line, lineEnd.landing text circumstances count cursor =
      Position.ofLineColumn (splitLines text) line
        (GoalColumn.lineEnd.columnOn
          (lineLength (splitLines text) (min line (lastLine (splitLines text))))) := by
  have hLine := Nat.min_eq_left
    (Nat.min_le_right (cursor.line + max count.value 1 - 1) (lastLine (splitLines text)))
  refine ⟨min (cursor.line + max count.value 1 - 1) (lastLine (splitLines text)), ?_⟩
  rw [landing, destination_of_target? hText rfl,
    Position.onCharacter_ofLineColumn (splitLines_ne_nil text), hLine, Nat.min_self]
  rfl

/-- Up or down, a motion lands in the column that is kept. -/
theorem exists_landing_vertical (hText : text ≠ []) (hVertical : motion.isVertical = true)
    (goal : GoalColumn) (surroundings : Surroundings) (count : Count) (cursor : Position) :
    ∃ line, motion.landing text ⟨false, some goal, surroundings⟩ count cursor =
      Position.ofLineColumn (splitLines text) line
        (goal.columnOn
          (lineLength (splitLines text) (min line (lastLine (splitLines text))))) := by
  cases motion with
  | down => exact ⟨_, landing_down hText goal surroundings count cursor⟩
  | up => exact ⟨_, landing_up hText goal surroundings count cursor⟩
  | _ => cases hVertical

end Motion

namespace Workspace

variable {work next : Workspace} {surroundings : Surroundings} {key : Key}

/-! ## Where the columns agree -/

/-- Whether the column that is kept leads to that of the cursor.  While text is typed nothing
is asked. -/
def KeepsColumn (work : Workspace) : Prop :=
  work.engine.mode ≠ .insert → ∀ goal ∈ work.engine.goal,
    work.buffer.cursor.column =
      goal.columnOn (lineLength work.buffer.lines work.buffer.cursor.line)

theorem keepsColumn_of_goal_eq_none (h : work.engine.goal = none) : work.KeepsColumn := by
  intro _ goal hGoal
  rw [h] at hGoal
  cases hGoal

theorem keepsColumn_of_insert (h : work.engine.mode = .insert) : work.KeepsColumn :=
  fun hMode => absurd h hMode

/-- What neither moves the cursor nor sets the column keeps it. -/
theorem KeepsColumn.of_eq (h : work.KeepsColumn) (hMode : work.engine.mode ≠ .insert)
    (hGoal : next.engine.goal = work.engine.goal) (hBuffer : next.buffer = work.buffer) :
    next.KeepsColumn := by
  intro _
  rw [hGoal, hBuffer]
  exact h hMode

/-- In an empty text there is one column. -/
theorem keepsColumn_of_text_eq_nil (h : work.buffer.Coherent) (hText : work.buffer.text = []) :
    work.KeepsColumn := by
  intro _ goal _
  obtain ⟨hLine, hColumn⟩ := h.bounds
  have hLines : work.buffer.lines = [[]] := by
    rw [Buffer.lines, hText]
    rfl
  rw [hLines, List.length_singleton] at hLine
  have hLength : lineLength work.buffer.lines work.buffer.cursor.line = 0 := by
    rw [hLines, show work.buffer.cursor.line = 0 by omega]
    rfl
  have hGoal := goal.columnOn_le 0
  rw [hLength] at hColumn ⊢
  omega

/-- The cursor is in the column that is kept after going to it. -/
theorem keepsColumn_moveTo (work : Workspace) (goal : GoalColumn) (line : Nat) :
    ((work.setGoal (some goal)).moveTo
      (Position.ofLineColumn work.buffer.lines line
        (goal.columnOn
          (lineLength work.buffer.lines (min line (lastLine work.buffer.lines)))))).KeepsColumn := by
  rintro - _ ⟨⟩
  exact Nat.min_eq_left (goal.columnOn_le _)

/-- A motion keeps the column it leads to, or none. -/
theorem keepsColumn_move (h : work.buffer.Coherent) (surroundings : Surroundings)
    (motion : Motion) (count : Count) :
    (work.move surroundings motion count).clampCursor.KeepsColumn := by
  by_cases hText : work.buffer.text = []
  · refine keepsColumn_of_text_eq_nil ?_ ((clampCursor_text _).trans hText)
    rw [clampCursor_eq]
    exact Position.isIn_onCharacter (coherent_move h surroundings motion count)
  rw [clampCursor_move]
  split
  · next hEnd =>
    subst hEnd
    obtain ⟨line, hLanding⟩ := Motion.exists_landing_lineEnd hText
      ⟨false, work.keptGoal .lineEnd, surroundings⟩ count work.buffer.cursor
    rw [hLanding]
    exact work.keepsColumn_moveTo .lineEnd line
  · cases hVertical : motion.isVertical with
    | false =>
        refine keepsColumn_of_goal_eq_none ?_
        show work.keptGoal motion = none
        simp [keptGoal, hVertical]
    | true =>
        obtain ⟨goal, hGoal⟩ : ∃ goal, work.keptGoal motion = some goal := by
          simp [keptGoal, hVertical]
        obtain ⟨line, hLanding⟩ := Motion.exists_landing_vertical hText hVertical goal
          surroundings count work.buffer.cursor
        rw [hGoal, hLanding]
        exact work.keepsColumn_moveTo goal line

/-! ## Down and up -/

/-- The column that a vertical motion goes by is that of the cursor exactly if it is kept. -/
theorem keepsColumn_iff (hMode : work.engine.mode ≠ .insert) (hOn : work.buffer.OnCharacter) :
    work.KeepsColumn ↔
      work.buffer.cursor.column =
        (work.engine.goal.getD (.column work.buffer.cursor.column)).columnOn
          (lineLength work.buffer.lines work.buffer.cursor.line) := by
  cases hGoal : work.engine.goal with
  | none =>
      refine iff_of_true (keepsColumn_of_goal_eq_none hGoal) ?_
      show work.buffer.cursor.column = min work.buffer.cursor.column _
      rcases hOn with hStart | hInside <;> omega
  | some goal =>
      constructor
      · exact fun hKeeps => hKeeps hMode goal hGoal
      · intro hColumn _ other hOther
        obtain rfl : goal = other := Option.some_inj.mp (hGoal.symm.trans hOther)
        exact hColumn

/-- With nothing pending, the key of a vertical motion goes to the column that is kept, and
keeps it. -/
theorem press_vertical (h : work.engine.state = ModeState.idle) (surroundings : Surroundings)
    {c : Char} {motion : Motion} (hMotion : Motion.ofKey? c = some motion)
    (hVertical : motion.isVertical = true) :
    (work.press surroundings (.char c)).1 =
      (work.setGoal (some (work.engine.goal.getD (.column work.buffer.cursor.column)))).moveTo
        (motion.landing work.buffer.text
          ⟨false, some (work.engine.goal.getD (.column work.buffer.cursor.column)), surroundings⟩
          .once work.buffer.cursor) := by
  have hZero : c ≠ '0' := by
    rintro rfl
    cases hMotion
    cases hVertical
  have hEnd : motion ≠ .lineEnd := by
    rintro rfl
    cases hVertical
  have hState : work.engine.state = Ground.normal.state none := h
  have hKept : work.keptGoal motion =
      some (work.engine.goal.getD (.column work.buffer.cursor.column)) := if_pos hVertical
  rw [press_motion hState hMotion hZero, enter_of_state hState, clampCursor_move, if_neg hEnd,
    hKept]
  rfl

/-- Going down and up again leads to the kept column of the line. -/
theorem cursor_down_up (h : work.engine.state = ModeState.idle)
    (hLine : work.buffer.cursor.line < lastLine work.buffer.lines) (first second : Surroundings) :
    (work.pressAll [(first, .char 'j'), (second, .char 'k')]).buffer.cursor =
      Position.ofLineColumn work.buffer.lines work.buffer.cursor.line
        ((work.engine.goal.getD (.column work.buffer.cursor.column)).columnOn
          (lineLength work.buffer.lines work.buffer.cursor.line)) := by
  have hText : work.buffer.text ≠ [] := by
    intro hEmpty
    rw [Buffer.lines, hEmpty] at hLine
    exact absurd hLine (Nat.not_lt_zero _)
  have hDownKey : Motion.ofKey? 'j' = some .down := rfl
  have hUpKey : Motion.ofKey? 'k' = some .up := rfl
  generalize hGoal : work.engine.goal.getD (.column work.buffer.cursor.column) = goal
  -- How far the line below reaches does not matter, since the column stays kept.
  obtain ⟨below, hDown, hBelow⟩ : ∃ below : Position,
      (work.press first (.char 'j')).1 = (work.setGoal (some goal)).moveTo below ∧
        below.line - 1 = work.buffer.cursor.line := by
    refine ⟨_, hGoal ▸ press_vertical h first hDownKey rfl, ?_⟩
    have hNext : min (min (work.buffer.cursor.line + 1) (lastLine work.buffer.lines))
        (lastLine work.buffer.lines) - 1 = work.buffer.cursor.line := by omega
    rw [Motion.landing_down hText]
    exact hNext
  have hUp : ((work.press first (.char 'j')).1.press second (.char 'k')).1 =
      (work.setGoal (some goal)).moveTo
        (Motion.up.landing work.buffer.text ⟨false, some goal, second⟩ .once below) := by
    rw [hDown]
    have hState : ((work.setGoal (some goal)).moveTo below).engine.state = ModeState.idle := h
    exact press_vertical hState second hUpKey rfl
  show ((work.press first (.char 'j')).1.press second (.char 'k')).1.buffer.cursor = _
  rw [hUp]
  show Motion.up.landing work.buffer.text ⟨false, some goal, second⟩ .once below = _
  rw [Motion.landing_up hText]
  show Position.ofLineColumn work.buffer.lines (below.line - 1) (goal.columnOn
    (lineLength work.buffer.lines (min (below.line - 1) (lastLine work.buffer.lines)))) = _
  rw [hBelow, Nat.min_eq_left hLine.le]

/-- With nothing pending and above the last line, going down and up returns exactly if the
column is kept. -/
theorem WellPlaced.down_up_iff (h : work.WellPlaced) (hMode : work.engine.mode = .normal)
    (hPending : work.engine.state.isPending = false)
    (hLine : work.buffer.cursor.line < lastLine work.buffer.lines) (first second : Surroundings) :
    (work.pressAll [(first, .char 'j'), (second, .char 'k')]).buffer.cursor =
        work.buffer.cursor ↔ work.KeepsColumn := by
  have hNotInsert : work.engine.mode ≠ .insert := by simp [hMode]
  rw [cursor_down_up (ModeState.eq_idle hMode hPending) hLine,
    keepsColumn_iff hNotInsert (h.onCharacter hNotInsert)]
  exact Position.IsIn.ofLineColumn_eq_iff h.coherent.cursor (GoalColumn.columnOn_le _ _)

/-! ## Keys and the column -/

/-- Whether a key moves the cursor and leaves the column that is kept: one that replaces
characters, an operator on a selection, or the end of the insert session after one. -/
def SkipsColumn (work : Workspace) (key : Key) : Prop :=
  match work.engine.state with
  | .normal (.replacement _) => key.fill?.isSome = true
  | .normal (.command _) =>
      key = .char '.' ∧ ∃ fill count, work.engine.lastCommand = some (.replace fill count)
  | .visual .. => ∃ c, key = .char c ∧ ((Operator.ofKey? c).isSome = true ∨ c = 'x')
  | .insert recording _ => recording = none ∧ key = .escape
  | .prompt .. => False

/-- Whether a key that does not skip the column keeps it, and an insert session that can be
repeated starts without one. -/
structure MindsColumn (work : Workspace) (key : Key) (next : Workspace) : Prop where
  keeps : work.SkipsColumn key ∨ next.KeepsColumn
  recorded : ∀ command typed, next.engine.state = .insert (some command) typed →
    next.engine.goal = none

theorem mindsColumn_of_goal_eq_none (h : next.engine.goal = none) : work.MindsColumn key next :=
  ⟨Or.inr (keepsColumn_of_goal_eq_none h), fun _ _ _ => h⟩

/-- The invariant: the column is kept, and there is none in an insert session that can be
repeated. -/
structure InColumn (work : Workspace) : Prop where
  placed : work.WellPlaced
  keeps : work.KeepsColumn
  recorded : ∀ command typed, work.engine.state = .insert (some command) typed →
    work.engine.goal = none

/-- What neither moves the cursor nor sets the column. -/
theorem InColumn.minds_same (h : work.InColumn) (hMode : work.engine.mode ≠ .insert)
    (hBuffer : next.buffer = work.buffer) (hGoal : next.engine.goal = work.engine.goal)
    (hState : next.engine.mode ≠ .insert) : work.MindsColumn key next := by
  refine ⟨Or.inr (h.keeps.of_eq hMode hGoal hBuffer), fun command typed hInsert => ?_⟩
  exact absurd (by rw [Engine.mode, hInsert]; rfl) hState

/-! ### Normal and Visual mode -/

/-- A cursor that stands on a character stays. -/
theorem settle_of_onCharacter {result : Workspace × KeyOutcome}
    (h : result.1.buffer.OnCharacter) : settle result = result := by
  rw [settle, clampCursor_of_onCharacter h]
  split <;> rfl

theorem InColumn.minds_settle_same (h : work.InColumn) (hMode : work.engine.mode ≠ .insert)
    {result : Workspace × KeyOutcome} (hBuffer : result.1.buffer = work.buffer)
    (hGoal : result.1.engine.goal = work.engine.goal) (hState : result.1.engine.mode ≠ .insert) :
    work.MindsColumn key (settle result).1 := by
  rw [settle_of_onCharacter (hBuffer ▸ h.placed.onCharacter hMode)]
  exact h.minds_same hMode hBuffer hGoal hState

theorem InColumn.minds_enter (h : work.InColumn) (hMode : work.engine.mode ≠ .insert)
    {state : ModeState} (hState : state.mode ≠ .insert) (outcome : KeyOutcome) :
    work.MindsColumn key (settle (work.enter state, outcome)).1 :=
  h.minds_settle_same hMode rfl rfl hState

theorem mindsColumn_settle_of_goal_eq_none {result : Workspace × KeyOutcome}
    (h : result.1.engine.goal = none) : work.MindsColumn key (settle result).1 :=
  mindsColumn_of_goal_eq_none (by rw [settle_engine, h])

theorem mindsColumn_settle_of_skips {result : Workspace × KeyOutcome}
    (h : work.SkipsColumn key)
    (hState : ∀ command typed, result.1.engine.state ≠ .insert (some command) typed) :
    work.MindsColumn key (settle result).1 := by
  refine ⟨Or.inl h, fun command typed hInsert => ?_⟩
  rw [settle_engine] at hInsert
  exact absurd hInsert (hState command typed)

theorem InColumn.minds_move (h : work.InColumn) (ground : Ground) (surroundings : Surroundings)
    (motion : Motion) (count : Count) (outcome : KeyOutcome) :
    work.MindsColumn key
      (settle ((work.enter (ground.state none)).move surroundings motion count, outcome)).1 := by
  have hCoherent : (work.enter (ground.state none)).buffer.Coherent := h.placed.coherent.cursor
  have hKeeps := keepsColumn_move hCoherent surroundings motion count
  cases ground <;>
    · refine ⟨Or.inr hKeeps, fun command typed hInsert => ?_⟩
      rw [settle_engine] at hInsert
      cases hInsert

theorem runOperator_goal (work : Workspace) (surroundings : Surroundings) (operator : Operator)
    (motion : Motion) (count : Count) :
    (work.runOperator surroundings operator motion count).1.engine.goal = none := by
  rw [runOperator_engine]

theorem operate_goal (work : Workspace) (surroundings : Surroundings) (operator : Operator)
    (motion : Motion) (count : Count) :
    (work.operate surroundings operator motion count).1.engine.goal = none := by
  have hGoal := runOperator_goal work surroundings operator motion count
  simp only [operate]
  split
  · exact hGoal
  · split
    · exact hGoal
    · split <;> exact hGoal

/-- Text that is put in leaves the column alone. -/
theorem leaveInsert_insertText_goal (work : Workspace) (text : Text) :
    (work.insertText text).leaveInsert.engine.goal = work.engine.goal := by
  rw [leaveInsert, stepBack_engine]
  show (work.insertText text).engine.goal = work.engine.goal
  rw [insertText_engine]

theorem overwrite?_engine {fill : Char} {count : Nat} (h : work.overwrite? fill count = some next) :
    next.engine = work.engine := by
  rw [overwrite?, Option.map_eq_some_iff] at h
  obtain ⟨outcome, -, rfl⟩ := h
  rfl

theorem replaceChars_state (work : Workspace) (fill : Char) (count : Nat) :
    (work.replaceChars fill count).1.engine.state = work.engine.state := by
  rw [replaceChars]
  split
  · next after hNext =>
    show after.engine.state = work.engine.state
    rw [overwrite?_engine hNext]
  · rfl

theorem repeatLast_state {fill : Char} {recorded : Nat}
    (h : work.engine.lastCommand = some (.replace fill recorded)) (surroundings : Surroundings)
    (count : Count) :
    (work.repeatLast surroundings count).1.engine.state = work.engine.state := by
  rw [repeatLast, h]
  dsimp only
  split
  · next hNext => exact congrArg Engine.state (overwrite?_engine hNext)
  · rfl

/-- The last command forgets the column, unless it replaced characters or there is none. -/
theorem repeatLast_cases (work : Workspace) (surroundings : Surroundings) (count : Count) :
    (∃ fill recorded, work.engine.lastCommand = some (.replace fill recorded)) ∨
      work.repeatLast surroundings count = (work, .ignored) ∨
      (work.repeatLast surroundings count).1.engine.goal = none := by
  rw [repeatLast]
  split
  · exact Or.inr (Or.inl rfl)
  · exact Or.inr (Or.inr (runOperator_goal _ _ _ _ _))
  · next motion recorded typed _ =>
    have hGoal := runOperator_goal work surroundings .change motion
      (if count.typed then count else recorded)
    refine Or.inr (Or.inr ?_)
    dsimp only
    generalize work.runOperator surroundings .change motion
      (if count.typed then count else recorded) = result at hGoal ⊢
    by_cases hBlocked : result.2 = .blocked
    · rw [if_pos hBlocked]
      exact hGoal
    · rw [if_neg hBlocked]
      exact (leaveInsert_insertText_goal _ _).trans hGoal
  · next fill recorded hLast => exact Or.inl ⟨fill, recorded, hLast⟩
  · refine Or.inr (Or.inr ((leaveInsert_insertText_goal _ _).trans ?_))
    rw [goToEntry_engine]
    rfl

theorem InColumn.minds_pressCommand (h : work.InColumn) {pending : PendingCommand}
    (hState : work.engine.state = .normal (.command pending)) (surroundings : Surroundings)
    (c : Char) :
    work.MindsColumn (.char c) (settle (work.pressCommand surroundings pending c)).1 := by
  have hMode : work.engine.mode ≠ .insert := by simp [Engine.mode, hState, ModeState.mode]
  refine pressCommand_cases
    (P := fun result => work.MindsColumn (.char c) (settle result).1) ?_ ?_ ?_ ?_ ?_ ?_ ?_ ?_
  · exact fun operator motion => mindsColumn_settle_of_goal_eq_none (operate_goal _ _ _ _ _)
  · exact fun input => h.minds_enter hMode (by simp [ModeState.mode]) _
  · exact h.minds_enter hMode (by simp [ModeState.mode]) _
  -- `.` skips the column where it replaces characters again, and only there.
  · rintro rfl
    rcases (work.enter ModeState.idle).repeatLast_cases surroundings pending.total with
      hReplace | hNone | hGoal
    · obtain ⟨fill, count, hLast⟩ := hReplace
      have hSkips : work.SkipsColumn (.char '.') := by
        rw [SkipsColumn, hState]
        exact ⟨rfl, fill, count, hLast⟩
      refine mindsColumn_settle_of_skips hSkips fun _ _ => ?_
      rw [repeatLast_state hLast]
      simp [enter, ModeState.idle]
    · rw [hNone]
      exact h.minds_enter hMode (by decide) _
    · exact mindsColumn_settle_of_goal_eq_none hGoal
  · exact h.minds_enter hMode (by decide) _
  · exact fun prompt => h.minds_enter hMode (by simp [ModeState.mode]) _
  · intro entry
    refine mindsColumn_settle_of_goal_eq_none ?_
    show ((work.setGoal none).goToEntry entry).engine.goal = none
    rw [goToEntry_engine]
    rfl
  · exact fun _ => h.minds_enter hMode (by decide) _

theorem InColumn.minds_pressNormal (h : work.InColumn) {input : NormalInput}
    (hState : work.engine.state = .normal input) (surroundings : Surroundings) (key : Key) :
    work.MindsColumn key (settle (work.pressNormal surroundings input key)).1 := by
  have hMode : work.engine.mode ≠ .insert := by simp [Engine.mode, hState, ModeState.mode]
  refine pressNormal_cases (P := fun result => work.MindsColumn key (settle result).1) ?_ ?_ ?_ ?_
  · rintro pending c rfl rfl
    refine pressNormalChar_cases
      (P := fun result => work.MindsColumn (.char c) (settle result).1) ?_ ?_ ?_ ?_
    · intro pending motion
      rw [complete]
      split
      · exact mindsColumn_settle_of_goal_eq_none (operate_goal _ _ _ _ _)
      · exact h.minds_move .normal surroundings motion pending.total _
    · exact fun _ => h.minds_enter hMode (by simp [ModeState.mode]) _
    · exact fun _ => h.minds_enter hMode (by decide) _
    · exact h.minds_pressCommand hState surroundings c
  · exact h.minds_settle_same hMode rfl rfl hMode
  · rintro waiting fill count rfl hFill
    have hSkips : work.SkipsColumn key := by
      rw [SkipsColumn, hState]
      exact Option.isSome_of_eq_some hFill
    refine mindsColumn_settle_of_skips hSkips fun _ _ => ?_
    rw [replaceChars_state]
    simp [enter, ModeState.idle]
  · exact fun _ => h.minds_enter hMode (by decide) _

theorem InColumn.minds_pressVisual (h : work.InColumn) {anchor : Position} {count : Option Nat}
    {afterG : Bool} (hState : work.engine.state = .visual anchor count afterG)
    (surroundings : Surroundings) (key : Key) :
    work.MindsColumn key (settle (work.pressVisual surroundings anchor count afterG key)).1 := by
  have hMode : work.engine.mode ≠ .insert := by simp [Engine.mode, hState, ModeState.mode]
  have hDiscard (wasPending : Bool) :
      work.MindsColumn key (settle (work.discardVisual anchor wasPending)).1 :=
    h.minds_enter hMode (by simp [ModeState.mode]) _
  cases key with
  | escape => exact h.minds_enter hMode (by decide) _
  | enter | backspace | ctrl => exact hDiscard _
  | char c =>
      refine pressVisualChar_cases
        (P := fun result => work.MindsColumn (.char c) (settle result).1) ?_ ?_ ?_ ?_ ?_ hDiscard
      · exact fun motion count => h.minds_move (.visual anchor) surroundings motion count _
      · exact fun _ _ => h.minds_enter hMode (by simp [ModeState.mode]) _
      -- A change of a selection starts an insert session that is not recorded.
      · intro operator hKey
        have hSkips : work.SkipsColumn (.char c) := by
          rw [SkipsColumn, hState]
          exact ⟨c, rfl, hKey.imp_left Option.isSome_of_eq_some⟩
        refine mindsColumn_settle_of_skips hSkips fun command typed => ?_
        rw [operateOnSelection]
        split <;> simp [beginInsert, enter, ModeState.idle]
      · exact fun _ => h.minds_enter hMode (by simp [ModeState.mode]) _
      · exact h.minds_enter hMode (by decide) _

/-! ### Insert mode and the command line -/

/-- An insert session goes on with the column it started with. -/
theorem InColumn.minds_insert (h : work.InColumn) {recording : Option Recording}
    {typed rest : Text} (hState : work.engine.state = .insert recording typed)
    (hNext : next.engine.state = .insert recording rest)
    (hGoal : next.engine.goal = work.engine.goal) : work.MindsColumn key next := by
  refine ⟨Or.inr (keepsColumn_of_insert (by rw [Engine.mode, hNext]; rfl)), ?_⟩
  intro command other hInsert
  rw [hNext] at hInsert
  cases hInsert
  rw [hGoal]
  exact h.recorded command typed hState

theorem InColumn.minds_pressInsert (h : work.InColumn) {recording : Option Recording}
    {typed : Text} (hState : work.engine.state = .insert recording typed) (key : Key) :
    work.MindsColumn key (work.pressInsert recording typed key).1 := by
  have hTyped (text : Text) :
      work.MindsColumn key
        ((work.enter (.insert recording (typed ++ text))).insertText text) := by
    have hEngine := (work.enter (.insert recording (typed ++ text))).insertText_engine text
    refine h.minds_insert hState (congrArg Engine.state hEngine) ?_
    rw [hEngine]
    rfl
  cases key with
  | escape =>
      cases recording with
      -- The step back moves the cursor, and a column from before the selection stays.
      | none =>
          have hSkips : work.SkipsColumn .escape := by
            rw [SkipsColumn, hState]
            exact ⟨rfl, rfl⟩
          refine ⟨Or.inl hSkips, fun command typed hInsert => ?_⟩
          have hIdle : (work.finishInsert none typed).engine.state = ModeState.idle := by
            rw [finishInsert, leaveInsert, stepBack_engine]
            rfl
          exact absurd (hIdle.symm.trans hInsert) (by simp [ModeState.idle])
      | some command =>
          refine mindsColumn_of_goal_eq_none ?_
          show (work.finishInsert (some command) typed).engine.goal = none
          rw [finishInsert, leaveInsert, stepBack_engine]
          exact h.recorded command typed hState
  | char c => exact hTyped [c]
  | enter => exact hTyped [lineFeed]
  | backspace =>
      rw [pressInsert, deleteBefore?]
      by_cases hStart : work.buffer.cursor.offset = 0
      · rw [if_pos hStart]
        exact h.minds_insert hState hState rfl
      · rw [if_neg hStart]
        exact h.minds_insert hState rfl rfl
  | ctrl c => exact h.minds_insert hState hState rfl

theorem InColumn.minds_pressPrompt (h : work.InColumn) {kind : Prompt} {typed : Text}
    (hState : work.engine.state = .prompt kind typed) (key : Key) :
    work.MindsColumn key (work.pressPrompt kind typed key).1 := by
  have hMode : work.engine.mode ≠ .insert := by simp [Engine.mode, hState, ModeState.mode]
  have hEnter {state : ModeState} (hOther : state.mode ≠ .insert) :
      work.MindsColumn key (work.enter state) :=
    h.minds_same hMode rfl rfl hOther
  cases key with
  | escape => exact hEnter (by decide)
  | char c => exact hEnter (by simp [ModeState.mode])
  | ctrl c => exact h.minds_same hMode rfl rfl hMode
  | backspace =>
      rw [pressPrompt]
      split
      · exact hEnter (by decide)
      · exact hEnter (by simp [ModeState.mode])
  | enter =>
      cases kind with
      | search => exact hEnter (by decide)
      | command =>
          simp only [pressPrompt, runTyped]
          split
          · exact hEnter (by decide)
          · split
            · exact hEnter (by decide)
            · exact mindsColumn_of_goal_eq_none rfl

/-- What one key does to the column. -/
theorem InColumn.minds_press (h : work.InColumn) (surroundings : Surroundings) (key : Key) :
    work.MindsColumn key (work.press surroundings key).1 := by
  rw [press]
  split
  · next hState => exact h.minds_pressNormal hState surroundings key
  · next hState => exact h.minds_pressVisual hState surroundings key
  · next hState => exact h.minds_pressInsert hState key
  · next hState => exact h.minds_pressPrompt hState key

/-! ## Runs -/

/-- In a fresh workspace no column is kept. -/
theorem inColumn_fresh (text : Text) (tabSize : Nat) (register : Register) :
    (⟨Engine.fresh, ⟨text, Position.origin, tabSize⟩, register⟩ : Workspace).InColumn where
  placed := ⟨⟨Position.isIn_origin text, fun _ hAnchor => by cases hAnchor⟩, fun _ => Or.inl rfl⟩
  keeps := keepsColumn_of_goal_eq_none rfl
  recorded := fun _ _ _ => rfl

/-- The invariant stays as long as the column is kept. -/
theorem InColumn.press (h : work.InColumn) (surroundings : Surroundings) (key : Key)
    (hKeeps : (work.press surroundings key).1.KeepsColumn) :
    (work.press surroundings key).1.InColumn :=
  ⟨h.placed.press surroundings key, hKeeps, (h.minds_press surroundings key).recorded⟩

/-- After any keys of a run, going down and up from above the last line returns exactly if the
column is kept.  It is kept throughout the run exactly if it is after each of the keys that
skip it. -/
theorem down_then_up_returns_iff_column_kept (text : Text) (tabSize : Nat) (register : Register)
    (keys : List (Surroundings × Key)) :
    let start : Workspace := ⟨Engine.fresh, ⟨text, Position.origin, tabSize⟩, register⟩
    let after (n : Nat) : Workspace := start.pressAll (keys.take n)
    (∀ n, (after n).engine.mode = .normal → (after n).engine.state.isPending = false →
      (after n).buffer.cursor.line < lastLine (after n).buffer.lines → ∀ first second,
        (((after n).pressAll [(first, .char 'j'), (second, .char 'k')]).buffer.cursor =
            (after n).buffer.cursor ↔ (after n).KeepsColumn)) ∧
      ((∀ n, (after n).KeepsColumn) ↔
        ∀ n key, keys[n]? = some key → (after n).SkipsColumn key.2 →
          ((after n).press key.1 key.2).1.KeepsColumn) := by
  intro start after
  have hStart : start.InColumn := inColumn_fresh text tabSize register
  constructor
  · intro n hMode hPending hLine first second
    exact (hStart.placed.pressAll _).down_up_iff hMode hPending hLine first second
  · have hStep {work : Workspace} (h : work.InColumn) (key : Surroundings × Key) :
        (work.press key.1 key.2).1.KeepsColumn ↔
          (work.SkipsColumn key.2 → (work.press key.1 key.2).1.KeepsColumn) :=
      ⟨fun hKeeps _ => hKeeps, fun hAllows => (h.minds_press key.1 key.2).keeps.elim hAllows id⟩
    exact forall_foldl_take_iff_of_keeps (motive := InColumn) InColumn.keeps
      (fun h key => h.press key.1 key.2) hStep hStart keys

/-- A selection that is yanked leaves the column from before, so going down and up does not
return. -/
theorem selection_leaves_kept_column :
    let text : Text := ['a', 'b', 'c', '\n', 'a', 'b', 'c']
    let keys : List (Surroundings × Key) :=
      ['l', 'v', 'h', 'j', 'y'].map fun c => (.unknown, .char c)
    let work := (⟨Engine.fresh, ⟨text, Position.origin, 4⟩, Register.empty⟩ : Workspace).pressAll
      (keys.take 5)
    (work.engine.mode = .normal ∧ work.engine.state.isPending = false ∧
        work.buffer.cursor.line < lastLine work.buffer.lines) ∧ ¬work.KeepsColumn := by
  intro text keys work
  obtain ⟨hReturns, -⟩ := down_then_up_returns_iff_column_kept text 4 Register.empty keys
  have hReturn := hReturns 5 (by decide +kernel) (by decide +kernel) (by decide +kernel)
    .unknown .unknown
  refine ⟨by decide +kernel, fun hKeeps => absurd (hReturn.mpr hKeeps) ?_⟩
  decide +kernel

/-- After replacing two characters, going down and up does not return. -/
theorem replacement_leaves_kept_column :
    let work := (ofBuffer (Buffer.ofText ['a', 'b', 'c', '\n', 'a', 'b', 'c'])).pressAll
      (['k', '2', 'r', 'x'].map fun c => (.unknown, .char c))
    (work.IsReachable ∧ work.engine.mode = .normal ∧ work.engine.state.isPending = false ∧
        work.buffer.cursor.line < lastLine work.buffer.lines) ∧
      work.buffer.cursor = ⟨0, 1, 1⟩ ∧
      (work.pressAll [(.unknown, .char 'j'), (.unknown, .char 'k')]).buffer.cursor = ⟨0, 0, 0⟩ := by
  intro work
  exact ⟨⟨⟨_, _, Register.empty, _, rfl⟩, by decide +kernel, by decide +kernel, by decide +kernel⟩,
    by decide +kernel, by decide +kernel⟩

end Workspace

end ModalEditor
