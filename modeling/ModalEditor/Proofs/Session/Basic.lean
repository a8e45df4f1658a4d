import ModalEditor.Proofs.Modal.Coherence
import ModalEditor.Proofs.Modal.Outcome
import ModalEditor.Proofs.Text.Splice
import ModalEditor.Session.Press

namespace ModalEditor

/-!
# What the parts of a key leave alone

A key of a session goes through the engine, then the session carries out what is
asked of it, records the change and ends the command, or it takes a step in the
history.  The lemmas say of each part what it leaves as it was, so that nothing
further has to look into the definitions.
-/

namespace Session

variable {session : Session}

/-! ## After the engine -/

/-- The session once its engine took a key. -/
def engage (session : Session) (key : Key) (now : Nat) : Session :=
  { session with
    work := (session.work.press session.surroundings key).1
    cadence := (session.cadence.record now).1 }

/-- What the engine says of a key. -/
def outcomeOf (session : Session) (key : Key) : KeyOutcome :=
  (session.work.press session.surroundings key).2

theorem press_outcome (session : Session) (key : Key) (now : Nat) :
    (session.press key now).2 = session.outcomeOf key := by
  simp only [press, outcomeOf]
  split <;> rfl

theorem press_of_undo {key : Key} (h : session.outcomeOf key = .undo) (now : Nat) :
    (session.press key now).1 = (session.engage key now).travelByKey undo now := by
  rw [outcomeOf] at h
  simp only [press, h]
  rfl

theorem press_of_redo {key : Key} (h : session.outcomeOf key = .redo) (now : Nat) :
    (session.press key now).1 = (session.engage key now).travelByKey redo now := by
  rw [outcomeOf] at h
  simp only [press, h]
  rfl

theorem press_of_isTravel_eq_false {key : Key} (h : (session.outcomeOf key).isTravel = false)
    (now : Nat) :
    (session.press key now).1 =
      (((session.engage key now).carryOut (session.outcomeOf key)).recordChange
        session.work.buffer now).endCommand := by
  simp only [press, outcomeOf, engage] at h ⊢
  split <;> rename_i hOutcome
  · rw [hOutcome] at h
    cases h
  · rw [hOutcome] at h
    cases h
  · rfl

/-! ## Carrying out, recording and ending -/

/-- Whether a step leaves the text, the engine, the history and what was parsed
as they were, and the cursor in the text. -/
structure KeepsText (session after : Session) : Prop where
  text : after.text = session.text
  engine : after.work.engine = session.work.engine
  history : after.history = session.history
  parsedSource : after.parsedSource = session.parsedSource
  debounce : after.debounce = session.debounce
  coherent : session.work.Coherent → after.work.Coherent

/-- A step that leaves the workspace as it was. -/
theorem keepsText_of_work_eq {after : Session} (hWork : after.work = session.work)
    (hHistory : after.history = session.history)
    (hParsed : after.parsedSource = session.parsedSource)
    (hDebounce : after.debounce = session.debounce) : session.KeepsText after := by
  refine ⟨?_, by rw [hWork], hHistory, hParsed, hDebounce, fun h => hWork.symm ▸ h⟩
  rw [text, text, hWork]

/-- Saving touches the files, the path and the flag only. -/
theorem saveAs_eq {path : Path} {saved : Session} (h : session.saveAs path = .ok saved) :
    ∃ files, saved = { session with files, path := some path, isModified := false } := by
  rw [saveAs] at h
  split at h
  · cases h
  · cases h
    exact ⟨_, rfl⟩

theorem save_eq {saved : Session} (h : session.save = .ok saved) :
    ∃ files path, saved = { session with files, path, isModified := false } := by
  rw [save] at h
  split at h
  · cases h
  · obtain ⟨files, rfl⟩ := saveAs_eq h
    exact ⟨files, _, rfl⟩

theorem keepsText_saveAs {path : Path} {saved : Session}
    (h : session.saveAs path = .ok saved) : session.KeepsText saved := by
  obtain ⟨files, rfl⟩ := saveAs_eq h
  exact keepsText_of_work_eq rfl rfl rfl rfl

theorem keepsText_save {saved : Session} (h : session.save = .ok saved) :
    session.KeepsText saved := by
  obtain ⟨files, path, rfl⟩ := save_eq h
  exact keepsText_of_work_eq rfl rfl rfl rfl

theorem keepsText_runSearch (session : Session) (pattern : Text) :
    session.KeepsText (session.runSearch pattern) := by
  simp only [runSearch]
  split
  · exact keepsText_of_work_eq rfl rfl rfl rfl
  · refine ⟨rfl, rfl, rfl, rfl, rfl, fun h => ⟨?_, h.anchor⟩⟩
    exact Position.isIn_ofOffset _ _

theorem keepsText_runCommand (session : Session) (command : Text) :
    session.KeepsText (session.runCommand command) := by
  rw [runCommand]
  split
  · split
    next saved hSaved => exact keepsText_save hSaved
    next => exact keepsText_of_work_eq rfl rfl rfl rfl
  · exact keepsText_of_work_eq rfl rfl rfl rfl
  · exact keepsText_of_work_eq rfl rfl rfl rfl

theorem keepsText_carryOut (session : Session) (outcome : KeyOutcome) :
    session.KeepsText (session.carryOut outcome) := by
  rw [carryOut.eq_def]
  split
  · exact keepsText_runSearch session _
  · exact keepsText_runCommand session _
  · exact keepsText_of_work_eq rfl rfl rfl rfl

@[simp]
theorem recordChange_work (session : Session) (before : Buffer) (now : Nat) :
    (session.recordChange before now).work = session.work := by
  rw [recordChange]
  split <;> rfl

@[simp]
theorem recordChange_text (session : Session) (before : Buffer) (now : Nat) :
    (session.recordChange before now).text = session.text := by
  rw [text, recordChange_work, text]

/-- The same text leaves the session as it is, another one is noted. -/
theorem recordChange_cases (session : Session) (before : Buffer) (now : Nat) :
    session.text = before.text ∧ session.recordChange before now = session ∨
      ∃ history, session.recordChange before now =
        ({ session with history } : Session).noteChange now := by
  rw [recordChange]
  cases hSplice : Splice.between before.text session.text with
  | none => exact Or.inl ⟨(Splice.between_eq_none_iff.mp hSplice).symm, rfl⟩
  | some splice => exact Or.inr ⟨_, rfl⟩

/-! ## Steps in the history -/

/-- Undoing or redoing, told apart by what the history does. -/
def travelBy (step : History → History × Option Restoration) (session : Session) :
    Session × Bool :=
  session.travel (step session.history)

/-- A step in the history touches the history and the buffer only. -/
theorem travel_eq (session : Session) (step : History × Option Restoration) :
    ∃ history buffer, (session.travel step).1 =
      { session with history, work := { session.work with buffer } } := by
  simp only [travel, restore]
  split
  · exact ⟨_, _, rfl⟩
  · split
    · exact ⟨_, _, rfl⟩
    · exact ⟨_, _, rfl⟩

@[simp]
theorem travel_parsedSource (session : Session) (step : History × Option Restoration) :
    (session.travel step).1.parsedSource = session.parsedSource := by
  obtain ⟨history, buffer, hTravel⟩ := session.travel_eq step
  rw [hTravel]

@[simp]
theorem travel_debounce (session : Session) (step : History × Option Restoration) :
    (session.travel step).1.debounce = session.debounce := by
  obtain ⟨history, buffer, hTravel⟩ := session.travel_eq step
  rw [hTravel]

@[simp]
theorem travel_isModified (session : Session) (step : History × Option Restoration) :
    (session.travel step).1.isModified = session.isModified := by
  obtain ⟨history, buffer, hTravel⟩ := session.travel_eq step
  rw [hTravel]

@[simp]
theorem travel_engine (session : Session) (step : History × Option Restoration) :
    (session.travel step).1.work.engine = session.work.engine := by
  obtain ⟨history, buffer, hTravel⟩ := session.travel_eq step
  rw [hTravel]

/-- Splices that fit are applied, and the cursor goes where it was before them. -/
theorem travel_of_applyAll {step : History × Option Restoration} {restoration : Restoration}
    {next : Text} (hStep : step.2 = some restoration)
    (h : Splice.applyAll session.text restoration.splices = some next) :
    session.travel step =
      ({ session with
          history := step.1
          work := { session.work with
            buffer := (session.work.buffer.replaceText next).moveTo
              (Position.ofOffset next restoration.cursor.offset) } }, true) := by
  have hSame : ({ session with history := step.1 } : Session).text = session.text := rfl
  simp only [travel, hStep, restore, hSame, h, Buffer.replaceText_text, Position.ofOffset_min]

/-- A step that restored nothing leaves the workspace as it was. -/
theorem travel_work_of_eq_false {step : History × Option Restoration}
    (h : (session.travel step).2 = false) : (session.travel step).1.work = session.work := by
  simp only [travel, restore] at h ⊢
  split at h
  · rfl
  · split at h
    · rfl
    · cases h

theorem travelByKey_engine (session : Session)
    (step : History → History × Option Restoration) (now : Nat) :
    (session.travelByKey (travelBy step) now).work.engine = session.work.engine := by
  have hTravel := travel_engine { session with history := session.history.commit }
    (step session.history.commit)
  rw [travelByKey, travelBy]
  generalize travel _ _ = result at hTravel ⊢
  obtain ⟨next, restored⟩ := result
  cases restored with
  | false => exact hTravel
  | true => exact hTravel

/-- What a key does.  The keys for undoing and redoing belong to Normal mode, where they
leave the text to the history.  For any other key the session carries out what the
engine left to it, records the change and ends the command. -/
theorem press_cases (session : Session) (key : Key) (now : Nat) :
    ((session.outcomeOf key).isTravel = true ∧ (session.engage key now).mode = .normal ∧
        (session.engage key now).text = session.text ∧
        ∃ step, (session.press key now).1 =
          (session.engage key now).travelByKey (travelBy step) now) ∨
      (session.press key now).1 =
        (((session.engage key now).carryOut (session.outcomeOf key)).recordChange
          session.work.buffer now).endCommand := by
  cases hTravel : (session.outcomeOf key).isTravel with
  | true =>
      obtain ⟨-, hMode, hText⟩ := Workspace.of_isTravel_press hTravel
      refine Or.inl ⟨rfl, hMode, hText, ?_⟩
      cases hOutcome : session.outcomeOf key with
      | undo => exact ⟨History.undo, press_of_undo hOutcome now⟩
      | redo => exact ⟨History.redo, press_of_redo hOutcome now⟩
      | _ =>
          rw [hOutcome] at hTravel
          cases hTravel
  | false => exact Or.inr (press_of_isTravel_eq_false hTravel now)

/-- What follows the engine in a key leaves the engine alone. -/
theorem press_engine (session : Session) (key : Key) (now : Nat) :
    (session.press key now).1.work.engine = (session.engage key now).work.engine := by
  rcases session.press_cases key now with ⟨-, -, -, step, hPress⟩ | hPress
  · rw [hPress, travelByKey_engine]
  · have hCarried := (session.engage key now).keepsText_carryOut (session.outcomeOf key)
    rw [hPress, ← hCarried.engine]
    exact congrArg Workspace.engine (recordChange_work _ _ now)

/-! ## What no key touches -/

theorem carryOut_of_isTravel {outcome : KeyOutcome} (h : outcome.isTravel = true) :
    session.carryOut outcome = session := by
  cases outcome with
  | undo | redo => rfl
  | _ => cases h

/-- Besides what the session carries out, a key touches the buffer and its engine, the
history, the search, the request to parse and the modified flag. -/
theorem press_eq_carried (session : Session) (key : Key) (now : Nat) :
    ∃ work history search debounce isModified, (session.press key now).1 =
      { (session.engage key now).carryOut (session.outcomeOf key) with
        work, history, search, debounce, isModified } := by
  rcases session.press_cases key now with ⟨hTravel, -, -, step, hPress⟩ | hPress
  · rw [hPress, carryOut_of_isTravel hTravel, travelByKey, travelBy]
    obtain ⟨history, buffer, hStep⟩ := travel_eq
      { session.engage key now with history := (session.engage key now).history.commit }
      (step (session.engage key now).history.commit)
    dsimp only
    rw [hStep]
    split
    · exact ⟨_, _, _, _, _, rfl⟩
    · exact ⟨_, _, _, _, _, rfl⟩
  · rw [hPress]
    rcases recordChange_cases ((session.engage key now).carryOut (session.outcomeOf key))
        session.work.buffer now with ⟨-, hSame⟩ | ⟨history, hNoted⟩
    · rw [hSame]
      exact ⟨_, _, _, _, _, rfl⟩
    · rw [hNoted]
      exact ⟨_, _, _, _, _, rfl⟩

/-- The session carries out a search or a typed command. -/
theorem carryOut_eq (session : Session) (outcome : KeyOutcome) :
    ∃ work search path isModified files, session.carryOut outcome =
      { session with work, search, path, isModified, files } := by
  cases outcome with
  | search pattern =>
      simp only [carryOut, runSearch]
      split
      · exact ⟨_, _, _, _, _, rfl⟩
      · exact ⟨_, _, _, _, _, rfl⟩
  | exCommand command =>
      simp only [carryOut, runCommand]
      split
      · split
        next saved hSaved =>
          obtain ⟨files, path, rfl⟩ := save_eq hSaved
          exact ⟨_, _, _, _, _, rfl⟩
        next => exact ⟨_, _, _, _, _, rfl⟩
      · exact ⟨_, _, _, _, _, rfl⟩
      · exact ⟨_, _, _, _, _, rfl⟩
  | _ => exact ⟨_, _, _, _, _, rfl⟩

/-- No key touches the settings, the viewport, the tree and the text that it belongs to. -/
theorem press_eq (session : Session) (key : Key) (now : Nat) :
    ∃ work history search debounce cadence path isModified files,
      (session.press key now).1 =
        { session with
          work, history, search, debounce, cadence, path, isModified, files } := by
  obtain ⟨work, history, search, debounce, isModified, hPress⟩ :=
    session.press_eq_carried key now
  obtain ⟨work', search', path, isModified', files, hCarried⟩ :=
    (session.engage key now).carryOut_eq (session.outcomeOf key)
  refine ⟨work, history, search, debounce, (session.engage key now).cadence, path, isModified,
    files, ?_⟩
  rw [hPress, hCarried]
  rfl

/-! ## Keys that are done when the engine is -/

/-- A key that asks for nothing more than the engine does has its change recorded and ends
the command. -/
theorem press_eq_of_isLocal {key : Key} (h : (session.outcomeOf key).isLocal = true) (now : Nat) :
    (session.press key now).1 =
      ((session.engage key now).recordChange session.work.buffer now).endCommand := by
  rw [press_of_isTravel_eq_false (KeyOutcome.isTravel_of_isLocal h)]
  cases hOutcome : session.outcomeOf key with
  | exCommand | search =>
      rw [hOutcome] at h
      cases h
  | _ => rfl

/-- Such a key leaves the workspace as the engine does, and the viewport as it was. -/
theorem press_work_of_isLocal {key : Key} {work : Workspace} {outcome : KeyOutcome}
    (hPress : session.work.press session.surroundings key = (work, outcome))
    (hLocal : outcome.isLocal = true) (now : Nat) :
    (session.press key now).1.work = work ∧
      (session.press key now).1.viewport = session.viewport := by
  have hOutcome : (session.outcomeOf key).isLocal = true := by
    rw [outcomeOf, hPress]
    exact hLocal
  have hEngaged : (session.engage key now).work = work := congrArg Prod.fst hPress
  obtain ⟨_, _, _, _, _, _, _, _, hViewport⟩ := session.press_eq key now
  refine ⟨?_, by rw [hViewport]⟩
  rw [press_eq_of_isLocal hOutcome]
  exact (recordChange_work _ _ _).trans hEngaged

end Session

end ModalEditor
