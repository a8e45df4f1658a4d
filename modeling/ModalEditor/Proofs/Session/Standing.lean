import ModalEditor.Proofs.Modal.Cursor
import ModalEditor.Proofs.Session.Action
import ModalEditor.Proofs.Session.Places
import ModalEditor.Proofs.Session.Undo

namespace ModalEditor

/-!
# Where a session leaves the cursor

The modal engine ends a key of Normal mode by putting the cursor on a character.  Undoing,
redoing and searching are done after that, and go where they lead.  What was done last
ended on a character, so redoing does no harm.  Undoing goes back to the scene before the
first key that changed the text, where an insert session may have had its cursor past the
end of a line, and a search goes to the start of a match, which may be a line break.
-/

/-- Whether the cursor of a scene stands on a character of its line, or at the start of
the line. -/
def Scene.OnCharacter (scene : Scene) : Prop :=
  scene.cursor.column = 0 ∨
    scene.cursor.column < lineLength (splitLines scene.text) scene.cursor.line

instance (scene : Scene) : Decidable scene.OnCharacter :=
  inferInstanceAs (Decidable (_ ∨ _))

/-! ## Changes of a timeline -/

namespace Timeline

/-- The changes that can be undone or done again. -/
def changes (timeline : Timeline) : List Change := timeline.done ++ timeline.undone

variable {timeline : Timeline} {change : Change}

theorem mem_changes_of_stepBack (h : change ∈ timeline.stepBack.changes) :
    change ∈ timeline.changes := by
  obtain ⟨done, undone, opened, capacity⟩ := timeline
  cases done with
  | nil => exact h
  | cons last older =>
      simp only [changes, stepBack, List.mem_append, List.mem_cons] at h ⊢
      exact or_assoc.mpr (or_left_comm.mp h)

theorem mem_changes_of_stepOn (h : change ∈ timeline.stepOn.changes) :
    change ∈ timeline.changes := by
  obtain ⟨done, undone, opened, capacity⟩ := timeline
  cases undone with
  | nil => exact h
  | cons last later =>
      simp only [changes, stepOn, List.mem_append, List.mem_cons] at h ⊢
      exact or_left_comm.mp (or_assoc.mp h)

@[simp]
theorem changes_notice (timeline : Timeline) (before : Scene) (text : Text) :
    (timeline.notice before text).changes = timeline.changes := by
  rw [notice]
  split <;> rfl

/-- A change that is new at the end of a command ended there. -/
theorem mem_changes_of_close {after : Scene} (h : change ∈ (timeline.close after).changes) :
    change.after = after ∨ change ∈ timeline.changes := by
  rw [close] at h
  split at h
  · exact Or.inr h
  · rw [changes, List.append_nil] at h
    rcases List.mem_cons.mp (List.mem_of_mem_take h) with rfl | hDone
    · exact Or.inl rfl
    · exact Or.inr (List.mem_append_left _ hDone)

end Timeline

/-! ## Searching -/

namespace Session

variable {session : Session}

/-- The search for a pattern that was typed.  The empty one repeats the last search. -/
def searchFor (session : Session) (pattern : Text) : Search :=
  if pattern.isEmpty then session.search.refresh session.text
  else session.search.setQuery pattern session.text

/-- The scene that a search leads to, if it finds anything. -/
def foundScene? (session : Session) (pattern : Text) : Option Scene :=
  ((session.searchFor pattern).nextAfter session.cursor.offset).map fun found =>
    ⟨session.text, Position.ofOffset session.text found.start⟩

theorem scene_runSearch (session : Session) (pattern : Text) :
    (session.runSearch pattern).scene = (session.foundScene? pattern).getD session.scene := by
  simp only [runSearch, foundScene?, searchFor]
  split
  next hNone =>
    rw [show Search.nextAfter _ session.cursor.offset = none from hNone]
    rfl
  next found hFound =>
    rw [show Search.nextAfter _ session.cursor.offset = some found from hFound]
    rfl

theorem scene_runCommand (session : Session) (command : Text) :
    (session.runCommand command).scene = session.scene := by
  rw [runCommand]
  split
  · split
    next saved hSaved =>
      obtain ⟨files, path, rfl⟩ := save_eq hSaved
      rfl
    next => rfl
  · rfl
  · rfl

end Session

namespace Watched

variable {watched : Watched} {key : Key}

/-- The scene that a key leads to beyond what the engine does. -/
def target? (watched : Watched) (key : Key) (now : Nat) : Option Scene :=
  match watched.session.outcomeOf key with
  | .undo => watched.timeline.done.head?.map Change.before
  | .redo => watched.timeline.undone.head?.map Change.after
  | .search pattern => (watched.session.engage key now).foundScene? pattern
  | _ => none

/-- Whether undoing or searching, if it leads anywhere, leads to a cursor on a
character. -/
def Lands (watched : Watched) (key : Key) (now : Nat) : Prop :=
  watched.session.outcomeOf key ≠ .redo →
    ∀ scene, watched.target? key now = some scene → scene.OnCharacter

/-! ## What a key shows -/

/-- A step in the history shows the scene that it leads to, or leaves what was shown. -/
theorem scene_travelByKey {session : Session} {timeline : Timeline}
    {step : History → History × Option Restoration} {target : Option Scene}
    (hCurrent : session.history.current = none)
    (h : timeline.Answers session.history session.text (step session.history) target)
    (now : Nat) :
    (session.travelByKey (Session.travelBy step) now).scene = target.getD session.scene := by
  cases target with
  | none =>
      obtain ⟨hStep, -⟩ := h
      rw [travelByKey_of_eq_none hCurrent hStep]
      rfl
  | some scene =>
      obtain ⟨after, restoration, hStep, hLeads, -⟩ := h
      exact (travelByKey_of_leadsTo hCurrent hStep hLeads now).1

/-- A key shows where it leads beyond what the engine does, or what the engine did. -/
theorem Agrees.scene_press (h : watched.Agrees) (key : Key) (now : Nat) :
    (watched.press key now).session.scene =
      (watched.target? key now).getD (watched.session.engage key now).scene := by
  have hCommand (hTravel : (watched.session.outcomeOf key).isTravel = false) :
      (watched.press key now).session.scene =
        ((watched.session.engage key now).carryOut (watched.session.outcomeOf key)).scene := by
    rw [press_session, Session.press_of_isTravel_eq_false hTravel]
    show (Session.recordChange _ _ now).scene = _
    rw [Session.scene, Session.recordChange_text, Session.cursor, Session.recordChange_work]
    rfl
  rw [target?]
  cases hOutcome : watched.session.outcomeOf key with
  | undo =>
      obtain ⟨hOpened, -, -, hFits⟩ := h.of_isTravel (by rw [hOutcome]; rfl) now
      rw [press_session, Session.press_of_undo hOutcome]
      exact scene_travelByKey (hFits.of_opened_eq_none hOpened).1 (hFits.undo hOpened) now
  | redo =>
      obtain ⟨hOpened, -, -, hFits⟩ := h.of_isTravel (by rw [hOutcome]; rfl) now
      rw [press_session, Session.press_of_redo hOutcome]
      exact scene_travelByKey (hFits.of_opened_eq_none hOpened).1 (hFits.redo hOpened) now
  | search pattern =>
      rw [hCommand (by rw [hOutcome]; rfl), hOutcome]
      exact Session.scene_runSearch _ pattern
  | exCommand command =>
      rw [hCommand (by rw [hOutcome]; rfl), hOutcome]
      exact Session.scene_runCommand _ command
  | pending | moved | edited | modeChanged | cancelled | ignored =>
      rw [hCommand (by rw [hOutcome]; rfl), hOutcome]
      rfl

/-- The mode after a key is the one that the engine went to. -/
theorem mode_press (watched : Watched) (key : Key) (now : Nat) :
    (watched.press key now).session.mode = (watched.session.engage key now).mode :=
  congrArg Engine.mode (watched.session.press_engine key now)

/-- Only keys that end in Normal mode lead beyond what the engine does. -/
theorem mode_of_target? {now : Nat} {scene : Scene} (h : watched.target? key now = some scene) :
    (watched.session.engage key now).mode = .normal := by
  rw [target?] at h
  cases hOutcome : watched.session.outcomeOf key with
  | undo | redo =>
      have hTravel : (watched.session.outcomeOf key).isTravel = true := by rw [hOutcome]; rfl
      exact (Workspace.of_isTravel_press hTravel).2.1
  | search pattern => exact Workspace.mode_of_search_press hOutcome
  | _ =>
      rw [hOutcome] at h
      cases h

/-! ## The invariant -/

/-- Whether in Normal mode the cursor stands on a character. -/
def StandsInNormal (watched : Watched) : Prop :=
  watched.session.mode = .normal → watched.session.scene.OnCharacter

/-- The invariant: the history matches the timeline, and outside Insert mode the cursor
stands on a character, as it did at the end of every change. -/
structure Stands (watched : Watched) : Prop where
  agrees : watched.Agrees
  onCharacter : watched.session.mode ≠ .insert → watched.session.scene.OnCharacter
  after : ∀ change ∈ watched.timeline.changes, change.after.OnCharacter

theorem Stands.standsInNormal (h : watched.Stands) : watched.StandsInNormal :=
  fun hMode => h.onCharacter (by rw [hMode]; decide)

/-- The engine leaves the cursor on a character. -/
theorem Stands.engage (h : watched.Stands) (now : Nat)
    (hMode : (watched.session.engage key now).mode ≠ .insert) :
    (watched.session.engage key now).scene.OnCharacter := by
  have hPlaced : watched.session.work.WellPlaced := ⟨h.agrees.coherent, h.onCharacter⟩
  exact (hPlaced.press watched.session.surroundings key).onCharacter hMode

/-- A key keeps the cursor of Normal mode on a character exactly if it lands on one. -/
theorem Stands.press_iff (h : watched.Stands) (key : Key) (now : Nat) :
    (watched.press key now).StandsInNormal ↔ watched.Lands key now := by
  rw [StandsInNormal, h.agrees.scene_press, mode_press]
  constructor
  · intro hOn _ scene hTarget
    have hScene := hOn (mode_of_target? hTarget)
    rwa [hTarget] at hScene
  · intro hLands hMode
    cases hTarget : watched.target? key now with
    | none => exact h.engage now (by rw [hMode]; decide)
    | some scene =>
        by_cases hRedo : watched.session.outcomeOf key = .redo
        · -- What was undone ended on a character.
          rw [target?, hRedo] at hTarget
          obtain ⟨change, hChange, rfl⟩ := Option.map_eq_some_iff.mp hTarget
          exact h.after change (List.mem_append_right _ (List.mem_of_mem_head? hChange))
        · exact hLands hRedo scene hTarget

/-- A key that keeps the cursor of Normal mode on a character keeps the invariant. -/
theorem Stands.press (h : watched.Stands) (key : Key) (now : Nat)
    (hNormal : (watched.press key now).StandsInNormal) :
    (watched.press key now).Stands := by
  have hOn : (watched.press key now).session.mode ≠ .insert →
      (watched.press key now).session.scene.OnCharacter := by
    intro hMode
    cases hTarget : watched.target? key now with
    | none =>
        rw [h.agrees.scene_press, hTarget]
        rw [mode_press] at hMode
        exact h.engage now hMode
    | some scene => exact hNormal ((watched.mode_press key now).trans (mode_of_target? hTarget))
  refine ⟨h.agrees.press key now, hOn, fun change hChange => ?_⟩
  cases hTravel : (watched.session.outcomeOf key).isTravel with
  | true =>
      refine h.after change ?_
      rw [press_timeline] at hChange
      cases hOutcome : watched.session.outcomeOf key with
      | undo =>
          rw [hOutcome] at hChange
          exact Timeline.mem_changes_of_stepBack hChange
      | redo =>
          rw [hOutcome] at hChange
          exact Timeline.mem_changes_of_stepOn hChange
      | _ =>
          rw [hOutcome] at hTravel
          cases hTravel
  | false =>
      rw [press_timeline, observe_of_isTravel_eq_false _ hTravel] at hChange
      split at hChange
      · rw [Timeline.changes_notice] at hChange
        exact h.after change hChange
      next hMode =>
        rcases Timeline.mem_changes_of_close hChange with hEnd | hEarlier
        · rw [hEnd]
          exact hOn hMode
        · rw [Timeline.changes_notice] at hEarlier
          exact h.after change hEarlier

/-! ## Runs -/

/-- A session as it is created, with an onlooker. -/
def ofCreated (parser : Parser) (settings : Settings) (files : Files) (content : Option Text) :
    Watched :=
  let session := Session.created parser settings files content
  ⟨session, Timeline.ofCapacity session.history.capacity⟩

theorem stands_ofCreated (parser : Parser) (settings : Settings) (files : Files)
    (content : Option Text) : (ofCreated parser settings files content).Stands := by
  refine ⟨⟨Session.coherent_created parser settings files content, ?_, fun _ => rfl⟩, ?_, ?_⟩
  · cases content with
    | none => exact Timeline.matches_clear (History.ofCapacity settings.historyCapacity) []
    | some text => exact Timeline.matches_clear _ text
  · cases content <;> exact fun _ => Or.inl rfl
  · intro change hChange
    cases hChange

/-- After every key that leaves a session in Normal mode the cursor stands on a character
or at the start of its line, exactly if no undoing key goes back to a scene whose cursor
does not, and no search goes to a match that starts where it would not.  Redoing and all
that the engine does keep it there. -/
theorem cursor_stands_iff_lands (parser : Parser) (settings : Settings) (files : Files)
    (content : Option Text) (keys : List (Key × Nat)) :
    let start := ofCreated parser settings files content
    (∀ n, let session := (start.pressAll (keys.take n)).session
        session.mode = .normal →
          session.cursor.column = 0 ∨
            session.cursor.column <
              lineLength (splitLines session.text) session.cursor.line) ↔
      ∀ n key, keys[n]? = some key →
        (start.pressAll (keys.take n)).Lands key.1 key.2 := by
  intro start
  have hStart := stands_ofCreated parser settings files content
  have hKeeps {watched : Watched} (h : watched.Stands) (key : Key × Nat) :
      (watched.press key.1 key.2).StandsInNormal → (watched.press key.1 key.2).Stands :=
    h.press key.1 key.2
  have hStep {watched : Watched} (h : watched.Stands) (key : Key × Nat) :
      (watched.press key.1 key.2).StandsInNormal ↔ watched.Lands key.1 key.2 :=
    h.press_iff key.1 key.2
  exact forall_foldl_take_iff_of_keeps (motive := Stands) Stands.standsInNormal hKeeps hStep
    hStart keys

/-- Appending to a line and undoing that leaves the cursor of Normal mode past the end of
the line, where the insert session had it.  So does a search for a line break. -/
theorem undo_and_search_leave_cursor_past_line_end :
    let undone := (ofCreated Parser.rootOnly Settings.default Files.empty
      (some ['a', 'b', 'c'])).pressAll
        [(.char 'A', 0), (.char 'x', 0), (.escape, 0), (.char 'u', 0)]
    let searched := (ofCreated Parser.rootOnly
      { Settings.default with searchUsesPattern := true } Files.empty
      (some ['a', 'b', '\n', 'c'])).pressAll
        [(.char '/', 0), (.char '\\', 0), (.char 'n', 0), (.enter, 0)]
    (undone.session.mode = .normal ∧ undone.session.text = ['a', 'b', 'c'] ∧
        undone.session.cursor = ⟨0, 3, 3⟩ ∧ ¬undone.session.scene.OnCharacter) ∧
      searched.session.mode = .normal ∧ searched.session.cursor = ⟨0, 2, 2⟩ ∧
        ¬searched.session.scene.OnCharacter :=
  ⟨⟨rfl, rfl, rfl, by decide⟩, rfl, rfl, by decide⟩

end Watched

end ModalEditor
