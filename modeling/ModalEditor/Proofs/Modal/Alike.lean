import ModalEditor.Modal.Press

namespace ModalEditor

/-!
# What keys go by

Keys write to the register and never read it.  Of what surrounds the buffer they go by
the lines on the screen and by the matches, and the lines on the screen are all that the
geometry is good for.  So keys do the same to two workspaces with the same engine and the
same buffer, in surroundings that agree.
-/

/-- Whether the same lines are on the screen, whatever the text, and the same matches were
found. -/
structure Surroundings.Agree (first second : Surroundings) : Prop where
  screen : ∀ lines, Motion.screenLines lines first.screen = Motion.screenLines lines second.screen
  found : first.found = second.found

namespace Motion

variable {first second : Surroundings}

theorem span_congr (h : first.Agree second) (motion : Motion) (lines : List Text)
    (cursor : Position) (count : Count) (operatorPending : Bool) (goal : Option GoalColumn) :
    motion.span lines cursor count ⟨operatorPending, goal, first⟩ =
      motion.span lines cursor count ⟨operatorPending, goal, second⟩ := by
  have hTarget : motion.target? lines cursor count ⟨operatorPending, goal, first⟩ =
      motion.target? lines cursor count ⟨operatorPending, goal, second⟩ := by
    simp only [target?, h.screen lines, h.found]
  simp only [span, hTarget]

end Motion

namespace Workspace

/-- Whether two workspaces have the same engine and the same buffer. -/
structure Alike (work other : Workspace) : Prop where
  engine : other.engine = work.engine
  buffer : other.buffer = work.buffer

/-- Whether two results are the same but for the register. -/
def AlikeResult {Outcome : Type} (result other : Workspace × Outcome) : Prop :=
  result.1.Alike other.1 ∧ other.2 = result.2

variable {work other : Workspace} {first second : Surroundings}

theorem Alike.exists_register (h : work.Alike other) :
    ∃ register, other = { work with register } :=
  ⟨other.register, by rw [← h.engine, ← h.buffer]⟩

/-! ## Steps of an insert session -/

theorem Alike.enter (h : work.Alike other) (state : ModeState) :
    (work.enter state).Alike (other.enter state) := by
  obtain ⟨register, rfl⟩ := h.exists_register
  exact ⟨rfl, rfl⟩

theorem Alike.setGoal (h : work.Alike other) (goal : Option GoalColumn) :
    (work.setGoal goal).Alike (other.setGoal goal) := by
  obtain ⟨register, rfl⟩ := h.exists_register
  exact ⟨rfl, rfl⟩

theorem Alike.remember (h : work.Alike other) (command : Repeatable) :
    (work.remember command).Alike (other.remember command) := by
  obtain ⟨register, rfl⟩ := h.exists_register
  exact ⟨rfl, rfl⟩

theorem Alike.moveTo (h : work.Alike other) (cursor : Position) :
    (work.moveTo cursor).Alike (other.moveTo cursor) := by
  obtain ⟨register, rfl⟩ := h.exists_register
  exact ⟨rfl, rfl⟩

theorem Alike.perform (h : work.Alike other) (outcome : OperatorOutcome) :
    (work.perform outcome).Alike (other.perform outcome) := by
  obtain ⟨register, rfl⟩ := h.exists_register
  exact ⟨rfl, rfl⟩

theorem Alike.clampCursor (h : work.Alike other) : work.clampCursor.Alike other.clampCursor := by
  obtain ⟨register, rfl⟩ := h.exists_register
  simp only [Workspace.clampCursor]
  split
  · exact ⟨rfl, rfl⟩
  · exact ⟨rfl, rfl⟩

theorem Alike.insertText (h : work.Alike other) (text : Text) :
    (work.insertText text).Alike (other.insertText text) := by
  obtain ⟨register, rfl⟩ := h.exists_register
  simp only [Workspace.insertText]
  split
  · exact ⟨rfl, rfl⟩
  · exact ⟨rfl, rfl⟩

theorem Alike.goToEntry (h : work.Alike other) (entry : InsertEntry) :
    (work.goToEntry entry).Alike (other.goToEntry entry) := by
  obtain ⟨register, rfl⟩ := h.exists_register
  cases entry with
  | _ => exact ⟨rfl, rfl⟩

theorem Alike.stepBack (h : work.Alike other) : work.stepBack.Alike other.stepBack := by
  obtain ⟨register, rfl⟩ := h.exists_register
  simp only [Workspace.stepBack]
  split
  · exact ⟨rfl, rfl⟩
  · exact ⟨rfl, rfl⟩

theorem Alike.leaveInsert (h : work.Alike other) : work.leaveInsert.Alike other.leaveInsert :=
  (h.enter ModeState.idle).stepBack

theorem Alike.finishInsert (h : work.Alike other) (recording : Option Recording) (typed : Text) :
    (work.finishInsert recording typed).Alike (other.finishInsert recording typed) := by
  cases recording with
  | none => exact h.leaveInsert
  | some command => exact (h.remember (command.finish typed)).leaveInsert

/-- Deleting fails for both or leads to workspaces that are alike. -/
theorem Alike.deleteBefore? (h : work.Alike other) :
    work.deleteBefore? = none ∧ other.deleteBefore? = none ∨
      ∃ next nextOther, work.deleteBefore? = some next ∧ other.deleteBefore? = some nextOther ∧
        next.Alike nextOther := by
  obtain ⟨register, rfl⟩ := h.exists_register
  simp only [Workspace.deleteBefore?]
  split
  · exact Or.inl ⟨rfl, rfl⟩
  · exact Or.inr ⟨_, _, rfl, rfl, rfl, rfl⟩

theorem Alike.pressInsert (h : work.Alike other) (recording : Option Recording) (typed : Text)
    (key : Key) :
    AlikeResult (work.pressInsert recording typed key) (other.pressInsert recording typed key) := by
  cases key with
  | escape => exact ⟨h.finishInsert recording typed, rfl⟩
  | char c => exact ⟨(h.enter (.insert recording (typed ++ [c]))).insertText [c], rfl⟩
  | enter =>
      exact ⟨(h.enter (.insert recording (typed ++ [lineFeed]))).insertText [lineFeed], rfl⟩
  | ctrl c => exact ⟨h, rfl⟩
  | backspace =>
      unfold Workspace.pressInsert
      rcases h.deleteBefore? with ⟨hNone, hOther⟩ | ⟨next, nextOther, hSome, hOther, hNext⟩
      · rw [hNone, hOther]
        exact ⟨h, rfl⟩
      · rw [hSome, hOther]
        exact ⟨hNext.enter _, rfl⟩

/-! ## Commands -/

section Commands

variable (hAgree : first.Agree second)
include hAgree

theorem operatorSpan?_congr (buffer : Buffer) (operator : Operator) (motion : Motion)
    (count : Count) :
    operatorSpan? buffer first operator motion count =
      operatorSpan? buffer second operator motion count := by
  simp only [operatorSpan?, Motion.span_congr hAgree]

theorem Alike.move (h : work.Alike other) (motion : Motion) (count : Count) :
    (work.move first motion count).Alike (other.move second motion count) := by
  obtain ⟨register, rfl⟩ := h.exists_register
  constructor
  · rfl
  · simp only [Workspace.move, Motion.span_congr hAgree]
    rfl

theorem Alike.runOperator (h : work.Alike other) (operator : Operator) (motion : Motion)
    (count : Count) :
    AlikeResult (work.runOperator first operator motion count)
      (other.runOperator second operator motion count) := by
  have hGoal := h.setGoal none
  have hBuffer : other.buffer.settled = work.buffer.settled := by rw [h.buffer]
  simp only [Workspace.runOperator, operatorSpan?_congr hAgree, hBuffer]
  cases operatorSpan? work.buffer.settled second operator motion count with
  | none => exact ⟨hGoal, rfl⟩
  | some span =>
      dsimp only
      cases operator.apply work.buffer.settled span count.value with
      | none => exact ⟨hGoal, rfl⟩
      | some outcome => exact ⟨hGoal.perform outcome, rfl⟩

theorem Alike.operate (h : work.Alike other) (operator : Operator) (motion : Motion)
    (count : Count) :
    AlikeResult (work.operate first operator motion count)
      (other.operate second operator motion count) := by
  obtain ⟨hNext, hRun⟩ := h.runOperator hAgree operator motion count
  simp only [Workspace.operate, hRun]
  split
  · exact ⟨hNext, rfl⟩
  · split
    · exact ⟨hNext.enter _, rfl⟩
    · split
      · exact ⟨hNext.remember _, rfl⟩
      · exact ⟨hNext, rfl⟩

end Commands

theorem Alike.operateOnSelection (h : work.Alike other) (anchor : Position)
    (operator : Operator) :
    AlikeResult (work.operateOnSelection anchor operator)
      (other.operateOnSelection anchor operator) := by
  have hNext (outcome : Option OperatorOutcome) :
      (outcome.elim work work.perform).Alike (outcome.elim other other.perform) := by
    cases outcome with
    | none => exact h
    | some outcome => exact h.perform outcome
  simp only [Workspace.operateOnSelection, h.buffer]
  split
  · exact ⟨(hNext _).enter _, rfl⟩
  · exact ⟨(hNext _).enter _, rfl⟩

/-- Overwriting fails for both or leads to workspaces that are alike. -/
theorem Alike.overwrite? (h : work.Alike other) (fill : Char) (count : Nat) :
    work.overwrite? fill count = none ∧ other.overwrite? fill count = none ∨
      ∃ next nextOther, work.overwrite? fill count = some next ∧
        other.overwrite? fill count = some nextOther ∧ next.Alike nextOther := by
  simp only [Workspace.overwrite?, h.buffer]
  cases (Operator.replace fill).apply work.buffer.settled
      (Span.empty work.buffer.settled.cursor) count with
  | none => exact Or.inl ⟨rfl, rfl⟩
  | some outcome => exact Or.inr ⟨_, _, rfl, rfl, h.perform outcome⟩

theorem Alike.replaceChars (h : work.Alike other) (fill : Char) (count : Nat) :
    AlikeResult (work.replaceChars fill count) (other.replaceChars fill count) := by
  unfold Workspace.replaceChars
  rcases h.overwrite? fill count with ⟨hNone, hOther⟩ | ⟨next, nextOther, hSome, hOther, hNext⟩
  · rw [hNone, hOther]
    exact ⟨h, rfl⟩
  · rw [hSome, hOther]
    exact ⟨hNext.remember _, rfl⟩

theorem Alike.repeatLast (hAgree : first.Agree second) (h : work.Alike other) (count : Count) :
    AlikeResult (work.repeatLast first count) (other.repeatLast second count) := by
  unfold Workspace.repeatLast
  rw [h.engine]
  cases work.engine.lastCommand with
  | none => exact ⟨h, rfl⟩
  | some command =>
      cases command with
      | operate operator motion recorded =>
          obtain ⟨hNext, hRun⟩ := h.runOperator hAgree operator motion
            (if count.typed then count else recorded)
          exact ⟨hNext, congrArg OperatorRun.outcome hRun⟩
      | change motion recorded typed =>
          obtain ⟨hNext, hRun⟩ := h.runOperator hAgree .change motion
            (if count.typed then count else recorded)
          dsimp only
          rw [hRun]
          by_cases hBlocked : (work.runOperator first .change motion
              (if count.typed then count else recorded)).2 = .blocked
          · rw [if_pos hBlocked, if_pos hBlocked]
            exact ⟨hNext, rfl⟩
          · rw [if_neg hBlocked, if_neg hBlocked]
            exact ⟨(hNext.insertText typed).leaveInsert, rfl⟩
      | replace fill recorded =>
          dsimp only
          rcases h.overwrite? fill (if count.typed then count.value else recorded) with
            ⟨hNone, hOther⟩ | ⟨next, nextOther, hSome, hOther, hNext⟩
          · rw [hNone, hOther]
            exact ⟨h, rfl⟩
          · rw [hSome, hOther]
            exact ⟨hNext, rfl⟩
      | insert entry typed =>
          exact ⟨(((h.setGoal none).goToEntry entry).insertText typed).leaveInsert, rfl⟩

/-! ## Keys -/

theorem Alike.await (h : work.Alike other) (input : NormalInput) :
    AlikeResult (work.await input) (other.await input) :=
  ⟨h.enter _, rfl⟩

theorem Alike.discard (h : work.Alike other) (wasPending : Bool) :
    AlikeResult (work.discard wasPending) (other.discard wasPending) :=
  ⟨h.enter _, rfl⟩

theorem Alike.openPrompt (h : work.Alike other) (prompt : Prompt) :
    AlikeResult (work.openPrompt prompt) (other.openPrompt prompt) :=
  ⟨h.enter _, rfl⟩

section Keys

variable (hAgree : first.Agree second)
include hAgree

theorem Alike.complete (h : work.Alike other) (pending : PendingCommand) (motion : Motion) :
    AlikeResult (work.complete first pending motion) (other.complete second pending motion) := by
  have hReady := h.enter ModeState.idle
  simp only [Workspace.complete]
  split
  · exact hReady.operate hAgree _ motion pending.total
  · exact ⟨hReady.move hAgree motion pending.total, rfl⟩

theorem Alike.pressCommand (h : work.Alike other) (pending : PendingCommand) (c : Char) :
    AlikeResult (work.pressCommand first pending c) (other.pressCommand second pending c) := by
  have hReady := h.enter ModeState.idle
  unfold Workspace.pressCommand
  dsimp only
  split
  · exact hReady.operate hAgree _ _ _
  · exact hReady.operate hAgree _ _ _
  · exact hReady.operate hAgree _ _ _
  · exact h.await _
  · rw [h.buffer]
    exact ⟨h.enter _, rfl⟩
  · exact hReady.repeatLast hAgree _
  · exact ⟨hReady, rfl⟩
  · split
    · exact h.openPrompt _
    · exact ⟨((h.setGoal none).goToEntry _).enter _, rfl⟩
    · exact h.discard _

theorem Alike.pressNormalChar (h : work.Alike other) (pending : PendingCommand) (c : Char) :
    AlikeResult (work.pressNormalChar first pending c)
      (other.pressNormalChar second pending c) := by
  simp only [Workspace.pressNormalChar]
  split
  · split
    · exact h.complete hAgree _ _
    · exact h.discard _
  · split
    · exact h.await _
    · split
      · exact h.await _
      · split
        · split
          · exact h.complete hAgree _ _
          · split
            · exact h.complete hAgree _ _
            · exact h.discard _
        · exact h.complete hAgree _ _
        · exact h.await _
        · exact h.pressCommand hAgree _ _

theorem Alike.pressNormal (h : work.Alike other) (input : NormalInput) (key : Key) :
    AlikeResult (work.pressNormal first input key) (other.pressNormal second input key) := by
  cases input with
  | command pending =>
      cases key with
      | escape => exact h.discard _
      | char c => exact h.pressNormalChar hAgree pending c
      | enter | backspace => exact h.discard _
      | ctrl c =>
          show AlikeResult (if _ then _ else _) (if _ then _ else _)
          split
          · exact ⟨h, rfl⟩
          · exact h.discard _
  | replacement count =>
      cases key with
      | escape => exact h.discard _
      | char fill => exact (h.enter ModeState.idle).replaceChars fill _
      | enter => exact (h.enter ModeState.idle).replaceChars lineFeed _
      | backspace | ctrl => exact h.discard _

theorem Alike.pressVisualChar (h : work.Alike other) (anchor : Position) (count : Option Nat)
    (afterG : Bool) (c : Char) :
    AlikeResult (work.pressVisualChar first anchor count afterG c)
      (other.pressVisualChar second anchor count afterG c) := by
  have hStay : (work.stayVisual anchor).Alike (other.stayVisual anchor) := h.enter _
  simp only [Workspace.pressVisualChar]
  split
  · split
    · exact ⟨hStay.move hAgree _ _, rfl⟩
    · exact ⟨hStay, rfl⟩
  · split
    · exact ⟨h.enter _, rfl⟩
    · split
      · exact ⟨h.enter _, rfl⟩
      · split
        · exact ⟨hStay.move hAgree _ _, rfl⟩
        · exact h.operateOnSelection anchor _
        · exact h.openPrompt _
        · split
          · exact ⟨h.enter _, rfl⟩
          · split
            · exact h.operateOnSelection anchor _
            · exact ⟨hStay, rfl⟩

theorem Alike.pressVisual (h : work.Alike other) (anchor : Position) (count : Option Nat)
    (afterG : Bool) (key : Key) :
    AlikeResult (work.pressVisual first anchor count afterG key)
      (other.pressVisual second anchor count afterG key) := by
  cases key with
  | escape => exact ⟨h.enter _, rfl⟩
  | char c => exact h.pressVisualChar hAgree anchor count afterG c
  | enter | backspace | ctrl => exact ⟨h.enter _, rfl⟩

end Keys

theorem Alike.runTyped (h : work.Alike other) (typed : Text) :
    AlikeResult (work.runTyped typed) (other.runTyped typed) := by
  simp only [Workspace.runTyped, h.buffer]
  split
  · exact ⟨h, rfl⟩
  · split
    · exact ⟨h, rfl⟩
    · exact ⟨(h.moveTo _).setGoal none, rfl⟩

theorem Alike.pressPrompt (h : work.Alike other) (kind : Prompt) (typed : Text) (key : Key) :
    AlikeResult (work.pressPrompt kind typed key) (other.pressPrompt kind typed key) := by
  cases key with
  | escape => exact ⟨h.enter _, rfl⟩
  | char c => exact ⟨h.enter _, rfl⟩
  | ctrl c => exact ⟨h, rfl⟩
  | backspace =>
      simp only [Workspace.pressPrompt]
      split
      · exact ⟨h.enter _, rfl⟩
      · exact ⟨h.enter _, rfl⟩
  | enter =>
      cases kind with
      | search => exact ⟨h.enter _, rfl⟩
      | command => exact (h.enter ModeState.idle).runTyped typed

theorem AlikeResult.settle {result after : Workspace × KeyOutcome} (h : AlikeResult result after) :
    AlikeResult (settle result) (settle after) := by
  have hMode : after.1.engine.mode = result.1.engine.mode := by rw [h.1.engine]
  unfold Workspace.settle
  rw [hMode]
  split
  · exact ⟨h.1.clampCursor, h.2⟩
  · exact ⟨h.1.clampCursor, h.2⟩
  · exact h
  · exact h

/-- A key does the same to workspaces that are alike. -/
theorem Alike.press (h : work.Alike other) (hAgree : first.Agree second) (key : Key) :
    AlikeResult (work.press first key) (other.press second key) := by
  unfold Workspace.press
  rw [h.engine]
  cases work.engine.state with
  | normal input => exact (h.pressNormal hAgree input key).settle
  | visual anchor count afterG => exact (h.pressVisual hAgree anchor count afterG key).settle
  | insert recording typed => exact h.pressInsert recording typed key
  | prompt kind typed => exact h.pressPrompt kind typed key

end Workspace

end ModalEditor
