import ModalEditor.Proofs.Modal.OffScreen
import ModalEditor.Proofs.Session.Action
import ModalEditor.Proofs.Session.Basic

namespace ModalEditor

/-!
# Time and view leave editing alone

The instants of the keys decide when the text is parsed again, and the calls for the view
decide what is on the screen and how it is highlighted.  All of that is the backdrop of a
session.  Editing looks at it only where a motion goes by the lines on the screen.  So a
run of keys without such motions makes the same of a session whenever they come and
whatever is done for the view in between: both runs are compared with the one that presses
the keys alone, all at one instant.
-/

/-- What the passing of time and the view change of a session. -/
structure Backdrop where
  debounce : Debounce
  cadence : Cadence
  viewport : Viewport
  highlighting : Highlighting
  parsedSource : Text

/-- What a host does to a session besides editing. -/
inductive ViewAction where
  | scroll (scrollTop height lineHeight : Float32)
  | tick (now : Nat)
  | flush
  | setLanguage (language : Language)
  /-- Asks for the highlighted lines. -/
  | tokens

/-- A key at an instant, or something that is done for the view. -/
inductive HostEvent where
  | press (key : Key) (now : Nat)
  | view (action : ViewAction)

namespace HostEvent

/-- The key that is pressed. -/
def key? : HostEvent → Option Key
  | .press key _ => some key
  | .view _ => none

/-- The keys of a run, without their instants. -/
def keys (events : List HostEvent) : List Key :=
  events.filterMap key?

end HostEvent

/-- What editing makes of a session. -/
structure EditingState where
  text : Text
  cursor : Position
  mode : Mode
  register : Register
  found : List Match
  isModified : Bool
  canUndo : Bool
  canRedo : Bool
  deriving DecidableEq

namespace Session

/-- The session as it is seen in front of another backdrop. -/
def inFrontOf (session : Session) (backdrop : Backdrop) : Session :=
  { session with
    debounce := backdrop.debounce
    cadence := backdrop.cadence
    viewport := backdrop.viewport
    highlighting := backdrop.highlighting
    parsedSource := backdrop.parsedSource }

section InFrontOf

variable (session : Session) (backdrop : Backdrop)

@[simp]
theorem inFrontOf_text : (session.inFrontOf backdrop).text = session.text := rfl

@[simp]
theorem inFrontOf_cursor : (session.inFrontOf backdrop).cursor = session.cursor := rfl

@[simp]
theorem inFrontOf_history : (session.inFrontOf backdrop).history = session.history := rfl

@[simp]
theorem inFrontOf_search : (session.inFrontOf backdrop).search = session.search := rfl

/-- Saving does not look at the backdrop. -/
theorem save_inFrontOf :
    (session.inFrontOf backdrop).save = session.save.map (·.inFrontOf backdrop) := by
  have hPath : (session.inFrontOf backdrop).path = session.path := rfl
  have hFiles : (session.inFrontOf backdrop).files = session.files := rfl
  rw [save, save, hPath]
  cases session.path with
  | none => rfl
  | some path =>
      simp only [saveAs, hFiles, inFrontOf_text]
      cases session.files.writeText path session.text with
      | error error => rfl
      | ok files => rfl

end InFrontOf

/-- Something that is done for the view.  To ask for the highlighted lines leaves the
session as it is. -/
def view (parser : Parser) (session : Session) : ViewAction → Session
  | .scroll scrollTop height lineHeight => (session.scroll scrollTop height lineHeight).1
  | .tick now => (session.tick parser now).1
  | .flush => (session.flush parser).1
  | .setLanguage language => session.setLanguage parser language
  | .tokens => session

/-- One event. -/
def perform (parser : Parser) (session : Session) : HostEvent → Session
  | .press key now => (session.press key now).1
  | .view action => session.view parser action

/-- Events in order. -/
def performAll (parser : Parser) (session : Session) (events : List HostEvent) : Session :=
  events.foldl (perform parser) session

/-- What editing made of a session so far. -/
def editing (session : Session) : EditingState where
  text := session.text
  cursor := session.cursor
  mode := session.mode
  register := session.work.register
  found := session.search.found
  isModified := session.isModified
  canUndo := session.history.canUndo
  canRedo := session.history.canRedo

/-- Whether two sessions differ in the backdrop only. -/
def SameEditing (session other : Session) : Prop :=
  ∃ backdrop, other = session.inFrontOf backdrop

variable {session other : Session}

namespace SameEditing

theorem refl (session : Session) : session.SameEditing session :=
  ⟨⟨session.debounce, session.cadence, session.viewport, session.highlighting,
    session.parsedSource⟩, rfl⟩

theorem symm (h : session.SameEditing other) : other.SameEditing session := by
  obtain ⟨backdrop, rfl⟩ := h
  exact ⟨⟨session.debounce, session.cadence, session.viewport, session.highlighting,
    session.parsedSource⟩, rfl⟩

theorem trans {last : Session} (h : session.SameEditing other) (hNext : other.SameEditing last) :
    session.SameEditing last := by
  obtain ⟨backdrop, rfl⟩ := h
  obtain ⟨next, rfl⟩ := hNext
  exact ⟨next, rfl⟩

theorem work_eq (h : session.SameEditing other) : other.work = session.work := by
  obtain ⟨backdrop, rfl⟩ := h
  rfl

theorem found_eq (h : session.SameEditing other) :
    session.surroundings.found = other.surroundings.found := by
  obtain ⟨backdrop, rfl⟩ := h
  rfl

/-- The backdrop is no part of what editing makes of a session. -/
theorem editing_eq (h : session.SameEditing other) : other.editing = session.editing := by
  obtain ⟨backdrop, rfl⟩ := h
  rfl

/-! ## Keys -/

theorem noteChange (h : session.SameEditing other) (now later : Nat) :
    (session.noteChange now).SameEditing (other.noteChange later) := by
  obtain ⟨backdrop, rfl⟩ := h
  exact ⟨{ backdrop with debounce := _ }, rfl⟩

/-- Steps in the history are the same in front of any backdrop. -/
theorem travel (h : session.SameEditing other) (step : History × Option Restoration) :
    (session.travel step).1.SameEditing (other.travel step).1 ∧
      (other.travel step).2 = (session.travel step).2 := by
  obtain ⟨backdrop, rfl⟩ := h
  obtain ⟨history, restoration⟩ := step
  cases restoration with
  | none => exact ⟨⟨backdrop, rfl⟩, rfl⟩
  | some restoration =>
      have hSame : ({ session.inFrontOf backdrop with history } : Session).text =
          ({ session with history } : Session).text := rfl
      simp only [Session.travel, restore]
      rw [hSame]
      -- Whether the splices fit is a matter of the text alone.
      cases Splice.applyAll _ restoration.splices with
      | none => exact ⟨⟨backdrop, rfl⟩, rfl⟩
      | some text => exact ⟨⟨backdrop, rfl⟩, rfl⟩

theorem noteIf {result after : Session × Bool} (h : result.1.SameEditing after.1)
    (hSame : after.2 = result.2) (now later : Nat) :
    (if result.2 then result.1.noteChange now else result.1).SameEditing
      (if after.2 then after.1.noteChange later else after.1) := by
  rw [hSame]
  split
  · exact h.noteChange now later
  · exact h

theorem travelByKey (h : session.SameEditing other)
    (step : History → History × Option Restoration) (now later : Nat) :
    (session.travelByKey (travelBy step) now).SameEditing
      (other.travelByKey (travelBy step) later) := by
  obtain ⟨backdrop, rfl⟩ := h
  have hCommitted : SameEditing { session with history := session.history.commit }
      { session.inFrontOf backdrop with history := session.history.commit } := ⟨backdrop, rfl⟩
  obtain ⟨hTravelled, hRestored⟩ := hCommitted.travel (step session.history.commit)
  exact hTravelled.noteIf hRestored now later

theorem runSearch (h : session.SameEditing other) (pattern : Text) :
    (session.runSearch pattern).SameEditing (other.runSearch pattern) := by
  obtain ⟨backdrop, rfl⟩ := h
  have hSame (session : Session) (search : Search) :
      ({ session with search } : Session).cursor = session.cursor := rfl
  simp only [Session.runSearch, inFrontOf_text, inFrontOf_search, hSame, inFrontOf_cursor]
  split
  · exact ⟨backdrop, rfl⟩
  · exact ⟨backdrop, rfl⟩

theorem runCommand (h : session.SameEditing other) (command : Text) :
    (session.runCommand command).SameEditing (other.runCommand command) := by
  obtain ⟨backdrop, rfl⟩ := h
  refine ⟨backdrop, ?_⟩
  unfold Session.runCommand
  rw [save_inFrontOf]
  split
  · cases session.save with
    | ok saved => rfl
    | error error => rfl
  · rfl
  · rfl

theorem carryOut (h : session.SameEditing other) (outcome : KeyOutcome) :
    (session.carryOut outcome).SameEditing (other.carryOut outcome) := by
  cases outcome with
  | search pattern => exact h.runSearch pattern
  | exCommand command => exact h.runCommand command
  | _ => exact h

theorem recordChange (h : session.SameEditing other) (before : Buffer) (now later : Nat) :
    (session.recordChange before now).SameEditing (other.recordChange before later) := by
  obtain ⟨backdrop, rfl⟩ := h
  unfold Session.recordChange
  rw [inFrontOf_text, inFrontOf_history]
  split
  · exact ⟨backdrop, rfl⟩
  next splice _ =>
    have hRecorded : SameEditing
        { session with history := session.history.record splice before.cursor }
        { session.inFrontOf backdrop with
          history := session.history.record splice before.cursor } := ⟨backdrop, rfl⟩
    exact hRecorded.noteChange now later

theorem endCommand (h : session.SameEditing other) :
    session.endCommand.SameEditing other.endCommand := by
  obtain ⟨backdrop, rfl⟩ := h
  exact ⟨backdrop, rfl⟩

/-- A key that brings no motion of the screen does the same in front of any backdrop. -/
theorem press (h : session.SameEditing other) (hOff : session.work.OffScreen) {key : Key}
    (hKey : key.isScreen = false) (now later : Nat) :
    (session.press key now).1.SameEditing (other.press key later).1 := by
  -- The engine is told of the screen and of the matches, and only the matches are the same.
  have hPress : other.work.press other.surroundings key =
      session.work.press session.surroundings key := by
    rw [h.work_eq, (hOff.press h.found_eq hKey).eq]
  have hOther : other.outcomeOf key = session.outcomeOf key := congrArg Prod.snd hPress
  have hEngaged : (session.engage key now).SameEditing (other.engage key later) := by
    obtain ⟨backdrop, rfl⟩ := h
    refine ⟨{ backdrop with cadence := (backdrop.cadence.record later).1 }, ?_⟩
    rw [engage, hPress]
    rfl
  cases hOutcome : session.outcomeOf key with
  | undo =>
      rw [press_of_undo hOutcome, press_of_undo (hOther.trans hOutcome)]
      exact hEngaged.travelByKey History.undo now later
  | redo =>
      rw [press_of_redo hOutcome, press_of_redo (hOther.trans hOutcome)]
      exact hEngaged.travelByKey History.redo now later
  | _ =>
      rw [press_of_isTravel_eq_false (by rw [hOutcome]; rfl),
        press_of_isTravel_eq_false (by rw [hOther, hOutcome]; rfl), hOther, h.work_eq]
      exact ((hEngaged.carryOut _).recordChange _ now later).endCommand

/-! ## The view -/

/-- Nothing that is done for the view touches more than the backdrop. -/
theorem view (parser : Parser) (session : Session) (action : ViewAction) :
    session.SameEditing (session.view parser action) := by
  cases action with
  | scroll scrollTop height lineHeight => exact ⟨⟨_, _, _, _, _⟩, rfl⟩
  | tick now =>
      obtain ⟨debounce, highlighting, parsedSource, hTick⟩ := session.tick_eq parser now
      exact ⟨⟨debounce, _, _, highlighting, parsedSource⟩, hTick⟩
  | flush =>
      obtain ⟨debounce, highlighting, parsedSource, hFlush⟩ := session.flush_eq parser
      exact ⟨⟨debounce, _, _, highlighting, parsedSource⟩, hFlush⟩
  | setLanguage language => exact ⟨⟨_, _, _, _, _⟩, rfl⟩
  | tokens => exact refl session

end SameEditing

/-! ## Runs -/

/-- No key but those of the screen brings a motion of the screen. -/
theorem offScreen_press (h : session.work.OffScreen) {key : Key} (hKey : key.isScreen = false)
    (now : Nat) : (session.press key now).1.work.OffScreen := by
  have hEngine := session.press_engine key now
  have hEngaged : (session.engage key now).work.OffScreen := (h.press rfl hKey).offScreen
  exact hEngaged.of_engine_eq (by rw [hEngine]) (by rw [hEngine])

/-- A run comes to what its keys come to alone, all at one instant. -/
theorem SameEditing.performAll (h : session.SameEditing other) (hOff : session.work.OffScreen)
    (parser : Parser) {events : List HostEvent}
    (hScreen : ∀ key ∈ HostEvent.keys events, key.isScreen = false) :
    (session.performAll parser events).SameEditing
      (other.pressAll 0 (HostEvent.keys events)).1 := by
  induction events generalizing session other with
  | nil => exact h
  | cons event events ih =>
      cases event with
      | press key now =>
          have hKey := hScreen key List.mem_cons_self
          exact ih (h.press hOff hKey now 0) (offScreen_press hOff hKey now)
            (fun later hLater => hScreen later (List.mem_cons_of_mem key hLater))
      | view action =>
          -- The other session stays where it is.
          have hView := SameEditing.view parser session action
          have hOffView : (session.view parser action).work.OffScreen := by
            rw [hView.work_eq]
            exact hOff
          exact ih (hView.symm.trans h) hOffView hScreen

theorem offScreen_created (parser : Parser) (settings : Settings) (files : Files)
    (content : Option Text) : (created parser settings files content).work.OffScreen := by
  cases content with
  | none => exact Workspace.offScreen_ofBuffer _
  | some text => exact Workspace.offScreen_ofBuffer _

/-- Two runs with the same keys, none of them for a line of the screen, make the same of a
session, at whatever instants the keys come and whatever is done for the view between
them. -/
theorem time_and_view_leave_editing_alone (parser : Parser) (settings : Settings)
    (files : Files) (content : Option Text) {events others : List HostEvent}
    (hKeys : HostEvent.keys events = HostEvent.keys others)
    (hScreen : ∀ key ∈ HostEvent.keys events, key.isScreen = false) :
    ((created parser settings files content).performAll parser events).editing =
      ((created parser settings files content).performAll parser others).editing := by
  have hOff := offScreen_created parser settings files content
  have hSame := SameEditing.refl (created parser settings files content)
  have hEvents := hSame.performAll hOff parser hScreen
  have hOthers := hSame.performAll hOff parser (hKeys ▸ hScreen)
  rw [← hKeys] at hOthers
  exact hEvents.editing_eq.symm.trans hOthers.editing_eq

/-- Instants that go back, a screen that moves and a tree that is brought up to date on the
way leave a deletion, its undoing and a search as they are without them. -/
theorem deletion_and_search_ignore_time_and_view :
    let keys : List Key := [.char 'd', .char 'd', .char 'u', .char '/', .char 'c', .enter]
    let events : List HostEvent :=
      [.press (.char 'd') 9, .view (.scroll 40 800 20), .press (.char 'd') 5, .view (.tick 7),
        .press (.char 'u') 6, .view (.setLanguage .rust), .press (.char '/') 2, .view .flush,
        .press (.char 'c') 4, .view .tokens, .press .enter 1]
    let others := keys.map fun key => HostEvent.press key 0
    HostEvent.keys events = HostEvent.keys others ∧
      (∀ key ∈ HostEvent.keys events, key.isScreen = false) ∧
      ((created Parser.rootOnly Settings.default Files.empty (some ['a', '\n', 'c'])).performAll
        Parser.rootOnly events).editing =
          ⟨['a', '\n', 'c'], ⟨1, 0, 2⟩, .normal, ⟨some ⟨['a', '\n'], true⟩, 1⟩, [⟨2, 3⟩], true,
            false, true⟩ := by
  intro keys events others
  have hKeys : HostEvent.keys events = HostEvent.keys others := rfl
  have hScreen : ∀ key ∈ HostEvent.keys events, key.isScreen = false := by decide
  have hAlone : ((created Parser.rootOnly Settings.default Files.empty
      (some ['a', '\n', 'c'])).performAll Parser.rootOnly others).editing =
        ⟨['a', '\n', 'c'], ⟨1, 0, 2⟩, .normal, ⟨some ⟨['a', '\n'], true⟩, 1⟩, [⟨2, 3⟩], true,
          false, true⟩ := by decide +kernel
  exact ⟨hKeys, hScreen, (time_and_view_leave_editing_alone Parser.rootOnly Settings.default
    Files.empty (some ['a', '\n', 'c']) hKeys hScreen).trans hAlone⟩

end Session

end ModalEditor
