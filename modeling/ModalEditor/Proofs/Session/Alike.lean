import ModalEditor.Proofs.Modal.Alike
import ModalEditor.Proofs.Session.Action
import ModalEditor.Proofs.Session.Basic

namespace ModalEditor

/-!
# What the keys of a session go by

Of all that a session holds, keys go by the engine and the buffer, the history, the search
and the lines on the screen.  They never look at the register, the files, the tree or the
clock to decide what becomes of the text.  So sessions that are alike in what keys go by
stay alike, whenever the keys come.
-/

namespace Session

variable {session other : Session}

/-- Whether two sessions have the same engine, buffer, history and search, and agree on
what is on the screen. -/
structure Alike (session other : Session) : Prop where
  work : session.work.Alike other.work
  history : other.history = session.history
  search : other.search = session.search
  screen : ∀ lines, Motion.screenLines lines session.viewport.geometry =
    Motion.screenLines lines other.viewport.geometry

theorem Alike.text (h : session.Alike other) : other.text = session.text := by
  rw [Session.text, h.work.buffer, Session.text]

theorem Alike.agree (h : session.Alike other) :
    session.surroundings.Agree other.surroundings :=
  ⟨h.screen, congrArg Search.found h.search.symm⟩

theorem Alike.engage (h : session.Alike other) (key : Key) (now later : Nat) :
    (session.engage key now).Alike (other.engage key later) :=
  ⟨(h.work.press h.agree key).1, h.history, h.search, h.screen⟩

theorem Alike.outcomeOf (h : session.Alike other) (key : Key) :
    other.outcomeOf key = session.outcomeOf key :=
  (h.work.press h.agree key).2

theorem Alike.noteChange (h : session.Alike other) (now later : Nat) :
    (session.noteChange now).Alike (other.noteChange later) := by
  refine ⟨h.work, h.history, ?_, h.screen⟩
  simp only [Session.noteChange, h.search, h.text]

theorem Alike.travel (h : session.Alike other) {step next : History × Option Restoration}
    (hStep : next = step) :
    (session.travel step).1.Alike (other.travel next).1 ∧
      (other.travel next).2 = (session.travel step).2 := by
  subst hStep
  obtain ⟨history, restoration⟩ := next
  cases restoration with
  | none => exact ⟨⟨h.work, rfl, h.search, h.screen⟩, rfl⟩
  | some restoration =>
      have hSame (session : Session) :
          ({ session with history } : Session).text = session.text := rfl
      simp only [Session.travel, restore, hSame, h.text]
      cases Splice.applyAll session.text restoration.splices with
      | none => exact ⟨⟨h.work, rfl, h.search, h.screen⟩, rfl⟩
      | some text =>
          dsimp only
          rw [h.work.buffer]
          exact ⟨⟨⟨h.work.engine, rfl⟩, rfl, h.search, h.screen⟩, rfl⟩

theorem Alike.noteIf {result after : Session × Bool} (h : result.1.Alike after.1)
    (hSame : after.2 = result.2) (now later : Nat) :
    (if result.2 then result.1.noteChange now else result.1).Alike
      (if after.2 then after.1.noteChange later else after.1) := by
  rw [hSame]
  split
  · exact h.noteChange now later
  · exact h

theorem Alike.travelByKey (h : session.Alike other) (step : History → History × Option Restoration)
    (now later : Nat) :
    (session.travelByKey (travelBy step) now).Alike (other.travelByKey (travelBy step) later) := by
  have hCommitted : ({ session with history := session.history.commit } : Session).Alike
      { other with history := other.history.commit } :=
    ⟨h.work, congrArg History.commit h.history, h.search, h.screen⟩
  have hStep : step other.history.commit = step session.history.commit := by rw [h.history]
  obtain ⟨hTravelled, hRestored⟩ := hCommitted.travel hStep
  exact hTravelled.noteIf hRestored now later

theorem Alike.runSearch (h : session.Alike other) (pattern : Text) :
    (session.runSearch pattern).Alike (other.runSearch pattern) := by
  have hCursor : other.cursor = session.cursor := congrArg Buffer.cursor h.work.buffer
  simp only [Session.runSearch, h.text, h.search]
  have hSame (session : Session) (search : Search) :
      ({ session with search } : Session).cursor = session.cursor := rfl
  simp only [hSame, hCursor]
  split
  · exact ⟨h.work, h.history, rfl, h.screen⟩
  · exact ⟨h.work.moveTo _, h.history, rfl, h.screen⟩

theorem Alike.runCommand (h : session.Alike other) (command : Text) :
    (session.runCommand command).Alike (other.runCommand command) := by
  -- The files of the two may differ, so that saving may fail for one of them only.
  have hSaved (session : Session) : ∃ files path isModified,
      session.orElse session.save = { session with files, path, isModified } := by
    refine orElse_induction (motive := fun next => ∃ files path isModified,
      next = { session with files, path, isModified }) ⟨_, _, _, rfl⟩ fun saved hSaved => ?_
    obtain ⟨files, path, rfl⟩ := save_eq hSaved
    exact ⟨_, _, _, rfl⟩
  unfold Session.runCommand
  split
  · show (session.orElse session.save).Alike (other.orElse other.save)
    obtain ⟨files, path, isModified, hSession⟩ := hSaved session
    obtain ⟨files', path', isModified', hOther⟩ := hSaved other
    rw [hSession, hOther]
    exact ⟨h.work, h.history, h.search, h.screen⟩
  · exact ⟨h.work, h.history, congrArg Search.clear h.search, h.screen⟩
  · exact h

theorem Alike.carryOut (h : session.Alike other) (outcome : KeyOutcome) :
    (session.carryOut outcome).Alike (other.carryOut outcome) := by
  cases outcome with
  | search pattern => exact h.runSearch pattern
  | exCommand command => exact h.runCommand command
  | _ => exact h

theorem Alike.recordChange (h : session.Alike other) (before : Buffer) (now later : Nat) :
    (session.recordChange before now).Alike (other.recordChange before later) := by
  unfold Session.recordChange
  rw [h.text, h.history]
  split
  · exact h
  next splice _ =>
    have hRecorded : ({ session with
        history := session.history.record splice before.cursor } : Session).Alike
          { other with history := session.history.record splice before.cursor } :=
      ⟨h.work, rfl, h.search, h.screen⟩
    exact hRecorded.noteChange now later

theorem Alike.endCommand (h : session.Alike other) : session.endCommand.Alike other.endCommand := by
  have hMode : other.mode = session.mode := congrArg Engine.mode h.work.engine
  have hCursor : other.cursor = session.cursor := congrArg Buffer.cursor h.work.buffer
  simp only [Session.endCommand, h.history, hMode, hCursor]
  exact ⟨h.work, rfl, h.search, h.screen⟩

/-- A key does the same to sessions that are alike, whenever it comes. -/
theorem Alike.press (h : session.Alike other) (key : Key) (now later : Nat) :
    (session.press key now).1.Alike (other.press key later).1 := by
  have hEngaged := h.engage key now later
  have hOther := h.outcomeOf key
  cases hOutcome : session.outcomeOf key with
  | undo =>
      rw [press_of_undo hOutcome, press_of_undo (hOther.trans hOutcome)]
      exact hEngaged.travelByKey History.undo now later
  | redo =>
      rw [press_of_redo hOutcome, press_of_redo (hOther.trans hOutcome)]
      exact hEngaged.travelByKey History.redo now later
  | _ =>
      rw [press_of_isTravel_eq_false (by rw [hOutcome]; rfl),
        press_of_isTravel_eq_false (by rw [hOther, hOutcome]; rfl), hOther, h.work.buffer]
      exact ((hEngaged.carryOut _).recordChange _ now later).endCommand

/-- Whether the same keys are pressed, at whatever instants. -/
def SameKeys (keys later : List (Key × Nat)) : Prop :=
  keys.map Prod.fst = later.map Prod.fst

theorem Alike.pressEach (h : session.Alike other) {keys later : List (Key × Nat)}
    (hKeys : SameKeys keys later) : (session.pressEach keys).Alike (other.pressEach later) := by
  induction keys generalizing session other later with
  | nil =>
      obtain rfl : later = [] := List.map_eq_nil_iff.mp hKeys.symm
      exact h
  | cons key keys ih =>
      obtain ⟨⟨code, now⟩, rest, rfl, hKey, hRest⟩ := List.map_eq_cons_iff.mp hKeys.symm
      obtain rfl : code = key.1 := hKey
      exact ih (h.press key.1 key.2 now) hRest.symm

/-- What is seen of a session. -/
structure Sight where
  text : Text
  cursor : Position
  mode : Mode
  undoDepth : Nat
  canRedo : Bool
  deriving DecidableEq

def sight (session : Session) : Sight :=
  ⟨session.text, session.cursor, session.mode, session.history.undoDepth,
    session.history.canRedo⟩

theorem Alike.sight_eq (h : session.Alike other) : session.sight = other.sight := by
  unfold sight Session.cursor Session.mode
  rw [h.text, h.history, h.work.engine, h.work.buffer]

end Session

end ModalEditor
