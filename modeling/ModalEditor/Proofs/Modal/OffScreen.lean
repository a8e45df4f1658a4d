import ModalEditor.Proofs.Modal.SlotCoherence

namespace ModalEditor

/-!
# Keys that leave the screen out

Only the motions of `H`, `M` and `L` go by the lines on the screen.  One of them can come
back without its key: with the command that `.` repeats, and with an insert session that
ends in such a command.  Where neither holds a motion of the screen, and no key brings
one, keys do the same whatever is on the screen, and they leave none behind.
-/

/-- Whether a motion goes by what is on the screen. -/
def Motion.isScreen : Motion → Bool
  | .screenTop | .screenMiddle | .screenBottom => true
  | _ => false

/-- Whether a key stands for a motion that goes by the screen. -/
def Key.isScreen : Key → Bool
  | .char 'H' | .char 'M' | .char 'L' => true
  | _ => false

/-- Whether a command to be repeated leaves the screen out. -/
def Repeatable.IsOffScreen : Repeatable → Prop
  | .operate _ motion _ | .change motion _ _ => motion.isScreen = false
  | .replace _ _ | .insert _ _ => True

/-- Whether a command that is being recorded leaves the screen out. -/
def Recording.IsOffScreen : Recording → Prop
  | .change motion _ => motion.isScreen = false
  | .insert _ => True

theorem Recording.IsOffScreen.finish {recording : Recording} (h : recording.IsOffScreen)
    (typed : Text) : (recording.finish typed).IsOffScreen := by
  cases recording with
  | change motion count => exact h
  | insert entry => trivial

namespace Motion

/-- The keys of the other motions are other keys. -/
theorem isScreen_eq_false_of_ofKey? {c : Char} {motion : Motion} (h : ofKey? c = some motion)
    (hKey : (Key.char c).isScreen = false) : motion.isScreen = false := by
  unfold ofKey? at h
  split at h <;> cases h <;> first | rfl | cases hKey

variable {first second : Surroundings}

theorem span_eq_of_found_eq {motion : Motion} (h : motion.isScreen = false)
    (hFound : first.found = second.found) (lines : List Text) (cursor : Position) (count : Count)
    (operatorPending : Bool) (goal : Option GoalColumn) :
    motion.span lines cursor count ⟨operatorPending, goal, second⟩ =
      motion.span lines cursor count ⟨operatorPending, goal, first⟩ := by
  have hTarget : motion.target? lines cursor count ⟨operatorPending, goal, second⟩ =
      motion.target? lines cursor count ⟨operatorPending, goal, first⟩ := by
    cases motion with
    | screenTop | screenMiddle | screenBottom => cases h
    | nextMatch | previousMatch => simp only [target?, hFound]
    | _ => rfl
  simp only [span, hTarget]

end Motion

namespace Workspace

/-- Whether no command of a workspace, finished or not, goes by the screen. -/
structure OffScreen (work : Workspace) : Prop where
  lastCommand : ∀ command, work.engine.lastCommand = some command → command.IsOffScreen
  recording : ∀ recording typed, work.engine.state = .insert (some recording) typed →
    recording.IsOffScreen

/-- Whether two results are the same and leave no command that goes by the screen. -/
structure SameOffScreen (result other : Workspace × KeyOutcome) : Prop where
  eq : other = result
  offScreen : result.1.OffScreen

variable {work next : Workspace} {first second : Surroundings}

/-! ## What has no command of the screen -/

theorem OffScreen.of_engine_eq (h : work.OffScreen)
    (hLast : next.engine.lastCommand = work.engine.lastCommand)
    (hState : next.engine.state = work.engine.state) : next.OffScreen :=
  ⟨hLast ▸ h.lastCommand, hState ▸ h.recording⟩

/-- Outside an insert session nothing is recorded. -/
theorem OffScreen.of_idle (h : work.OffScreen)
    (hLast : next.engine.lastCommand = work.engine.lastCommand)
    (hState : next.engine.state = ModeState.idle) : next.OffScreen := by
  refine ⟨hLast ▸ h.lastCommand, fun recording typed hInsert => ?_⟩
  rw [hState] at hInsert
  cases hInsert

theorem OffScreen.enter (h : work.OffScreen) {state : ModeState}
    (hState : ∀ recording typed, state = .insert (some recording) typed →
      recording.IsOffScreen) : (work.enter state).OffScreen :=
  ⟨h.lastCommand, hState⟩

theorem OffScreen.idle (h : work.OffScreen) : (work.enter ModeState.idle).OffScreen :=
  h.of_idle rfl rfl

theorem OffScreen.remember (h : work.OffScreen) {command : Repeatable}
    (hCommand : command.IsOffScreen) : (work.remember command).OffScreen := by
  refine ⟨?_, h.recording⟩
  rintro _ ⟨⟩
  exact hCommand

theorem OffScreen.leaveInsert (h : work.OffScreen) : work.leaveInsert.OffScreen :=
  h.of_idle work.leaveInsert_lastCommand work.leaveInsert_state

theorem OffScreen.runOperator (h : work.OffScreen) (surroundings : Surroundings)
    (operator : Operator) (motion : Motion) (count : Count) :
    (work.runOperator surroundings operator motion count).1.OffScreen :=
  h.of_engine_eq (runOperator_lastCommand _ _ _ _ _) (runOperator_state _ _ _ _ _)

theorem OffScreen.overwrite? (h : work.OffScreen) {fill : Char} {count : Nat}
    (hNext : work.overwrite? fill count = some next) : next.OffScreen := by
  rw [overwrite?_desk] at hNext
  obtain ⟨done, -, rfl⟩ := Option.map_eq_some_iff.mp hNext
  exact h.of_engine_eq rfl rfl

/-! ## Commands -/

theorem SameOffScreen.settle {result other : Workspace × KeyOutcome}
    (h : SameOffScreen result other) : SameOffScreen (settle result) (settle other) := by
  refine ⟨congrArg _ h.eq, ?_⟩
  have hEngine := settle_engine result
  exact h.offScreen.of_engine_eq (by rw [hEngine]) (by rw [hEngine])

section Commands

variable (hFound : first.found = second.found)
include hFound

theorem move_eq_of_found_eq (work : Workspace) {motion : Motion} (hMotion : motion.isScreen = false)
    (count : Count) : work.move second motion count = work.move first motion count := by
  simp only [move, Motion.span_eq_of_found_eq hMotion hFound]

theorem runOperator_eq_of_found_eq (work : Workspace) (operator : Operator) {motion : Motion}
    (hMotion : motion.isScreen = false) (count : Count) :
    work.runOperator second operator motion count =
      work.runOperator first operator motion count := by
  simp only [runOperator, operatorSpan?, Motion.span_eq_of_found_eq hMotion hFound]

theorem OffScreen.moved (h : work.OffScreen) {motion : Motion}
    (hMotion : motion.isScreen = false) (count : Count) :
    SameOffScreen (work.move first motion count, .moved)
      (work.move second motion count, .moved) := by
  rw [move_eq_of_found_eq hFound work hMotion]
  exact ⟨rfl, h.of_engine_eq rfl rfl⟩

theorem OffScreen.operate (h : work.OffScreen) (operator : Operator) {motion : Motion}
    (hMotion : motion.isScreen = false) (count : Count) :
    SameOffScreen (work.operate first operator motion count)
      (work.operate second operator motion count) := by
  have hNext := h.runOperator first operator motion count
  simp only [Workspace.operate, runOperator_eq_of_found_eq hFound work operator hMotion]
  refine ⟨rfl, ?_⟩
  split
  · exact hNext
  · split
    · refine hNext.enter ?_
      rintro _ _ ⟨⟩
      exact hMotion
    · split
      · exact hNext.remember hMotion
      · exact hNext

theorem OffScreen.repeatLast (h : work.OffScreen) (count : Count) :
    SameOffScreen (work.repeatLast first count) (work.repeatLast second count) := by
  unfold Workspace.repeatLast
  cases hLast : work.engine.lastCommand with
  | none => exact ⟨rfl, h⟩
  | some command =>
      have hCommand := h.lastCommand command hLast
      cases command with
      | operate operator motion recorded =>
          simp only [runOperator_eq_of_found_eq hFound work operator hCommand]
          exact ⟨rfl, h.runOperator _ _ _ _⟩
      | change motion recorded typed =>
          simp only [runOperator_eq_of_found_eq hFound work .change hCommand]
          refine ⟨rfl, ?_⟩
          generalize (if count.typed = true then count else recorded) = chosen
          have hNext := h.runOperator first .change motion chosen
          split
          · exact hNext
          · exact hNext.of_idle (by simp) (leaveInsert_state _)
      | replace fill recorded =>
          refine ⟨rfl, ?_⟩
          dsimp only
          split
          next hNext => exact h.overwrite? hNext
          next => exact h
      | insert entry typed => exact ⟨rfl, h.of_idle (by simp; rfl) (leaveInsert_state _)⟩

end Commands

theorem OffScreen.replaceChars (h : work.OffScreen) (fill : Char) (count : Nat) :
    (work.replaceChars fill count).1.OffScreen := by
  rw [Workspace.replaceChars]
  split
  next hNext => exact (h.overwrite? hNext).remember trivial
  next => exact h

theorem OffScreen.operateOnSelection (h : work.OffScreen) (anchor : Position)
    (operator : Operator) : (work.operateOnSelection anchor operator).1.OffScreen := by
  rw [operateOnSelection_desk]
  dsimp only
  split
  · refine ⟨h.lastCommand, ?_⟩
    rintro _ _ ⟨⟩
  · exact h.of_idle rfl rfl

theorem OffScreen.enterInsert (h : work.OffScreen) (entry : InsertEntry) :
    (work.enterInsert entry).OffScreen := by
  refine ⟨?_, ?_⟩
  · show ∀ command, ((work.setGoal none).goToEntry entry).engine.lastCommand = some command → _
    rw [goToEntry_lastCommand]
    exact h.lastCommand
  · rintro _ _ ⟨⟩
    trivial

theorem OffScreen.finishInsert (h : work.OffScreen) {recording : Option Recording}
    (hRecording : ∀ command, recording = some command → command.IsOffScreen) (typed : Text) :
    (work.finishInsert recording typed).OffScreen := by
  cases recording with
  | none => exact h.leaveInsert
  | some command => exact (h.remember ((hRecording command rfl).finish typed)).leaveInsert

/-! ## Keys -/

section Keys

variable (hFound : first.found = second.found)
include hFound

theorem OffScreen.complete (h : work.OffScreen) (pending : PendingCommand) {motion : Motion}
    (hMotion : motion.isScreen = false) :
    SameOffScreen (work.complete first pending motion) (work.complete second pending motion) := by
  simp only [Workspace.complete]
  split
  · exact h.idle.operate hFound _ hMotion _
  · exact h.idle.moved hFound hMotion _

theorem OffScreen.pressCommand (h : work.OffScreen) (pending : PendingCommand) (c : Char) :
    SameOffScreen (work.pressCommand first pending c) (work.pressCommand second pending c) := by
  have hWaits {state : ModeState} {outcome : KeyOutcome}
      (hState : ∀ recording typed, state = .insert (some recording) typed →
        recording.IsOffScreen) :
      SameOffScreen (work.enter state, outcome) (work.enter state, outcome) :=
    ⟨rfl, h.enter hState⟩
  unfold Workspace.pressCommand
  dsimp only
  split
  · exact h.idle.operate hFound _ rfl _
  · exact h.idle.operate hFound _ rfl _
  · exact h.idle.operate hFound _ rfl _
  · exact hWaits (by rintro _ _ ⟨⟩)
  · exact hWaits (by rintro _ _ ⟨⟩)
  · exact h.idle.repeatLast hFound _
  · exact ⟨rfl, h.idle⟩
  · split
    · exact hWaits (by rintro _ _ ⟨⟩)
    · exact ⟨rfl, h.enterInsert _⟩
    · exact ⟨rfl, h.idle⟩

theorem OffScreen.pressNormalChar (h : work.OffScreen) (pending : PendingCommand) {c : Char}
    (hKey : (Key.char c).isScreen = false) :
    SameOffScreen (work.pressNormalChar first pending c)
      (work.pressNormalChar second pending c) := by
  have hAwait (input : NormalInput) : SameOffScreen (work.await input) (work.await input) := by
    refine ⟨rfl, h.enter ?_⟩
    rintro _ _ ⟨⟩
  have hDiscard (wasPending : Bool) :
      SameOffScreen (work.discard wasPending) (work.discard wasPending) := ⟨rfl, h.idle⟩
  have hOther {motion : Motion} (hMotion : Motion.ofKey? c = some motion) :
      motion.isScreen = false := Motion.isScreen_eq_false_of_ofKey? hMotion hKey
  simp only [Workspace.pressNormalChar]
  split
  · split
    · exact h.complete hFound _ rfl
    · exact hDiscard _
  · split
    · exact hAwait _
    · split
      · exact hAwait _
      · split
        · split
          · exact h.complete hFound _ rfl
          · split
            next hMotion => exact h.complete hFound _ (hOther hMotion)
            next => exact hDiscard _
        next _ hMotion => exact h.complete hFound _ (hOther hMotion)
        · exact hAwait _
        · exact h.pressCommand hFound _ _

theorem OffScreen.pressNormal (h : work.OffScreen) (input : NormalInput) {key : Key}
    (hKey : key.isScreen = false) :
    SameOffScreen (work.pressNormal first input key) (work.pressNormal second input key) := by
  cases input with
  | command pending =>
      cases key with
      | char c => exact h.pressNormalChar hFound pending hKey
      | escape | enter | backspace => exact ⟨rfl, h.idle⟩
      | ctrl c =>
          refine ⟨rfl, ?_⟩
          show (if Key.ctrl c = .ctrl 'r' ∧ !pending.isPending then (work, KeyOutcome.redo)
            else work.discard pending.isPending).1.OffScreen
          split
          · exact h
          · exact h.idle
  | replacement count =>
      cases key with
      | char fill => exact ⟨rfl, h.idle.replaceChars fill _⟩
      | enter => exact ⟨rfl, h.idle.replaceChars lineFeed _⟩
      | escape | backspace | ctrl => exact ⟨rfl, h.idle⟩

theorem OffScreen.pressVisual (h : work.OffScreen) (anchor : Position) (count : Option Nat)
    (afterG : Bool) {key : Key} (hKey : key.isScreen = false) :
    SameOffScreen (work.pressVisual first anchor count afterG key)
      (work.pressVisual second anchor count afterG key) := by
  have hSelects (anchor : Position) (count : Option Nat) (afterG : Bool) :
      (work.enter (.visual anchor count afterG)).OffScreen := by
    refine h.enter ?_
    rintro _ _ ⟨⟩
  cases key with
  | escape => exact ⟨rfl, h.idle⟩
  | enter | backspace | ctrl => exact ⟨rfl, hSelects _ _ _⟩
  | char c =>
      simp only [Workspace.pressVisual, pressVisualChar]
      split
      · split
        · exact (hSelects _ _ _).moved hFound rfl _
        · exact ⟨rfl, hSelects _ _ _⟩
      · split
        · exact ⟨rfl, hSelects _ _ _⟩
        · split
          · exact ⟨rfl, hSelects _ _ _⟩
          · split
            next hMotion =>
              have hOther := Motion.isScreen_eq_false_of_ofKey? hMotion hKey
              exact (hSelects _ _ _).moved hFound hOther _
            · exact ⟨rfl, h.operateOnSelection anchor _⟩
            · refine ⟨rfl, h.enter ?_⟩
              rintro _ _ ⟨⟩
            · split
              · exact ⟨rfl, h.idle⟩
              · split
                · exact ⟨rfl, h.operateOnSelection anchor _⟩
                · exact ⟨rfl, hSelects _ _ _⟩

end Keys

/-- An insert session keeps what it records until Escape makes it the last command. -/
theorem OffScreen.pressInsert (h : work.OffScreen) {recording : Option Recording} {typed : Text}
    (hState : work.engine.state = .insert recording typed) (key : Key) :
    (work.pressInsert recording typed key).1.OffScreen := by
  have hRecording : ∀ command, recording = some command → command.IsOffScreen := by
    rintro command rfl
    exact h.recording command typed hState
  have hTyped (next : Workspace) (typed : Text)
      (hLast : next.engine.lastCommand = work.engine.lastCommand)
      (hState : next.engine.state = .insert recording typed) : next.OffScreen := by
    refine ⟨hLast ▸ h.lastCommand, fun command other hInsert => ?_⟩
    rw [hState] at hInsert
    cases hInsert
    exact hRecording command rfl
  have hInserted (text typed : Text) :
      ((work.enter (.insert recording text)).insertText typed).OffScreen := by
    refine hTyped _ text (by simp; rfl) ?_
    rw [enter_insertText]
    rfl
  cases key with
  | escape => exact h.finishInsert hRecording typed
  | char c => exact hInserted (typed ++ [c]) [c]
  | enter => exact hInserted (typed ++ [lineFeed]) [lineFeed]
  | backspace =>
      rw [Workspace.pressInsert, deleteBefore?_desk]
      cases work.desk.deleteBefore? with
      | none => exact h
      | some next => exact hTyped _ _ rfl rfl
  | ctrl c => exact h

theorem OffScreen.pressPrompt (h : work.OffScreen) (kind : Prompt) (typed : Text) (key : Key) :
    (work.pressPrompt kind typed key).1.OffScreen := by
  have hPrompt (text : Text) : (work.enter (.prompt kind text)).OffScreen := by
    refine h.enter ?_
    rintro _ _ ⟨⟩
  cases key with
  | escape => exact h.idle
  | char c => exact hPrompt _
  | ctrl c => exact h
  | backspace =>
      rw [Workspace.pressPrompt]
      split
      · exact h.idle
      · exact hPrompt _
  | enter =>
      cases kind with
      | search => exact h.idle
      | command =>
          simp only [Workspace.pressPrompt, runTyped]
          split
          · exact h.idle
          · split
            · exact h.idle
            · exact h.idle.of_engine_eq rfl rfl

/-- A key that brings no motion of the screen does the same whatever is on it. -/
theorem OffScreen.press (h : work.OffScreen) (hFound : first.found = second.found) {key : Key}
    (hKey : key.isScreen = false) :
    SameOffScreen (work.press first key) (work.press second key) := by
  unfold Workspace.press
  cases hState : work.engine.state with
  | normal input => exact (h.pressNormal hFound input hKey).settle
  | visual anchor count afterG => exact (h.pressVisual hFound anchor count afterG hKey).settle
  | insert recording typed => exact ⟨rfl, h.pressInsert hState key⟩
  | prompt kind typed => exact ⟨rfl, h.pressPrompt kind typed key⟩

theorem offScreen_ofBuffer (buffer : Buffer) : (ofBuffer buffer).OffScreen := by
  constructor
  · rintro _ ⟨⟩
  · rintro _ _ ⟨⟩

end Workspace

end ModalEditor
