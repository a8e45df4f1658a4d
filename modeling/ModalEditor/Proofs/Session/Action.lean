import ModalEditor.Proofs.Run
import ModalEditor.Session.Press
import ModalEditor.Session.View

namespace ModalEditor

/-!
# What a host does with a session

A host sends keys, calls the session directly, and lets time pass.  In between
the files may change without the session.  A call that fails leaves the session
as it was.
-/

/-- One call of a host, or a change of the files from outside. -/
inductive HostAction where
  | press (key : Key) (now : Nat)
  | feed (script : Text) (now : Nat)
  /-- Undoing without a key. -/
  | undo
  /-- Redoing without a key. -/
  | redo
  | openFile (path : Path)
  | save
  | saveAs (path : Path)
  | setLanguage (language : Language)
  | scroll (scrollTop height lineHeight : Float32)
  | tick (now : Nat)
  | flush
  | changeFiles (files : Files)

namespace Session

/-- A session as it is created, empty or with a text. -/
def created (parser : Parser) (settings : Settings) (files : Files) : Option Text → Session
  | none => ofSettings settings files
  | some text => ofText parser settings files text

/-- The session after a call that may have failed. -/
def orElse (session : Session) : Except FileError Session → Session
  | .ok after => after
  | .error _ => session

/-- One action of the host. -/
def act (parser : Parser) (session : Session) : HostAction → Session
  | .press key now => (session.press key now).1
  | .feed script now => (session.feed script now).1
  | .undo => session.undo.1
  | .redo => session.redo.1
  | .openFile path => session.orElse (session.openFile parser path)
  | .save => session.orElse session.save
  | .saveAs path => session.orElse (session.saveAs path)
  | .setLanguage language => session.setLanguage parser language
  | .scroll scrollTop height lineHeight => (session.scroll scrollTop height lineHeight).1
  | .tick now => (session.tick parser now).1
  | .flush => (session.flush parser).1
  | .changeFiles files => { session with files }

/-- Actions in order. -/
def actAll (parser : Parser) (session : Session) (actions : List HostAction) : Session :=
  actions.foldl (act parser) session

/-- Whether undoing or redoing without a key leads where a relation allows.  Nothing
is asked of other actions. -/
def TravelsWithin (allowed : Session → Session → Prop) (parser : Parser) (session : Session) :
    HostAction → Prop
  | .undo => allowed session (session.act parser .undo)
  | .redo => allowed session (session.act parser .redo)
  | _ => True

/-- What every key keeps, several keys keep. -/
theorem pressAll_induction {motive : Session → Prop} {now : Nat}
    (hPress : ∀ session key, motive session → motive (session.press key now).1) {session : Session}
    (h : motive session) (keys : List Key) : motive (session.pressAll now keys).1 := by
  induction keys generalizing session with
  | nil => exact h
  | cons key keys ih => exact ih (hPress session key h)

/-- What every action keeps, a run keeps. -/
theorem actAll_induction {motive : Session → Prop} {parser : Parser}
    (hAct : ∀ session action, motive session → motive (session.act parser action))
    {session : Session} (h : motive session) (actions : List HostAction) :
    motive (session.actAll parser actions) := by
  induction actions generalizing session with
  | nil => exact h
  | cons action actions ih => exact ih (hAct session action h)

/-- Keys in order, each at its instant. -/
def pressEach (session : Session) (keys : List (Key × Nat)) : Session :=
  keys.foldl (fun session key => (session.press key.1 key.2).1) session

theorem pressEach_concat (session : Session) (keys : List (Key × Nat)) (key : Key) (now : Nat) :
    session.pressEach (keys ++ [(key, now)]) = ((session.pressEach keys).press key now).1 := by
  simp [pressEach]

/-- A call that may fail leads to a new session or leaves the session as it is. -/
theorem orElse_induction {motive : Session → Prop} {session : Session} (h : motive session)
    {result : Except FileError Session} (hResult : ∀ after, result = .ok after → motive after) :
    motive (session.orElse result) := by
  cases result with
  | ok after => exact hResult after rfl
  | error error => exact h

-- Parsing is all that the passing of time does to a session.
theorem tick_eq (parser : Parser) (session : Session) (now : Nat) :
    ∃ debounce highlighting parsedSource, (session.tick parser now).1 =
      { session with debounce, highlighting, parsedSource } := by
  simp only [tick]
  split
  · exact ⟨_, _, _, rfl⟩
  · exact ⟨_, _, _, rfl⟩

theorem flush_eq (parser : Parser) (session : Session) :
    ∃ debounce highlighting parsedSource, (session.flush parser).1 =
      { session with debounce, highlighting, parsedSource } := by
  unfold flush
  split
  · exact ⟨_, _, _, rfl⟩
  next deadline _ => exact session.tick_eq parser deadline

/-- What holds of a session whatever was parsed, and whatever is to be, holds once time has
passed. -/
theorem tick_induction {motive : Session → Prop} {session : Session}
    (h : ∀ debounce highlighting parsedSource,
      motive { session with debounce, highlighting, parsedSource })
    (parser : Parser) (now : Nat) : motive (session.tick parser now).1 := by
  obtain ⟨debounce, highlighting, parsedSource, hTick⟩ := session.tick_eq parser now
  rw [hTick]
  exact h debounce highlighting parsedSource

theorem flush_induction {motive : Session → Prop} {session : Session}
    (h : ∀ debounce highlighting parsedSource,
      motive { session with debounce, highlighting, parsedSource })
    (parser : Parser) : motive (session.flush parser).1 := by
  obtain ⟨debounce, highlighting, parsedSource, hFlush⟩ := session.flush_eq parser
  rw [hFlush]
  exact h debounce highlighting parsedSource

/-- A file that can be read can be opened. -/
theorem openFile_of_readText {session : Session} {path : Path} {text : Text}
    (h : session.files.readText path = .ok text) (parser : Parser) :
    session.openFile parser path =
      .ok (({ session with path := some path }.load parser text).setLanguage parser
        (Language.ofPath path)) := by
  rw [openFile, h]

/-- Opening a file loads the text in it and chooses the language by its name. -/
theorem openFile_eq_ok {parser : Parser} {session opened : Session} {path : Path}
    (h : session.openFile parser path = .ok opened) :
    ∃ text, session.files.readText path = .ok text ∧
      opened = ({ session with path := some path }.load parser text).setLanguage parser
        (Language.ofPath path) := by
  unfold openFile at h
  split at h
  · cases h
  next text hRead =>
    cases h
    exact ⟨text, hRead, rfl⟩

end Session

end ModalEditor
