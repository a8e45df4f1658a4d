import ModalEditor.CommandLine.Run
import ModalEditor.Proofs.Session.Modified

namespace ModalEditor

/-!
# The result of a run is on file

A run writes the file that it opened only if the session claims to be modified, so
whether the result is kept hangs on that claim.  Beside the keys that save, no key
touches a file, and the file of the buffer always holds the text stored last.  A session
that does not claim to be modified holds that text, too.  So in the end the file holds the
text of the session, whether the run wrote it, a key did, or nobody did.
-/

namespace Session

variable {session : Session} {path : Path} {stored : Text}

/-! ## What keys do to files -/

/-- The files, and which of them is that of the buffer. -/
def disk (session : Session) : Files × Option Path := (session.files, session.path)

/-- Only what the engine leaves to the session can touch a file. -/
theorem press_disk (session : Session) (key : Key) (now : Nat) :
    (session.press key now).1.disk =
      ((session.engage key now).carryOut (session.outcomeOf key)).disk := by
  obtain ⟨work, history, search, debounce, isModified, hPress⟩ :=
    session.press_eq_carried key now
  rw [hPress]
  rfl

/-! ## The file of the buffer -/

/-- Whether the file of the buffer is at a path and holds the text stored last. -/
structure HasStored (session : Session) (path : Path) (stored : Text) : Prop where
  isAt : session.path = some path
  readText : session.files.readText path = .ok stored

theorem HasStored.of_disk_eq {after : Session} (h : session.HasStored path stored)
    (hDisk : after.disk = session.disk) : after.HasStored path stored := by
  obtain ⟨hFiles, hPath⟩ := Prod.mk.injEq .. ▸ hDisk
  exact ⟨hPath.trans h.isAt, hFiles ▸ h.readText⟩

theorem hasStored_of_saveAs {saved : Session} (h : session.saveAs path = .ok saved) :
    saved.HasStored path session.text := by
  obtain ⟨hPath, hRead⟩ := readText_of_saveAs h
  exact ⟨hPath, hRead⟩

theorem HasStored.save_eq (h : session.HasStored path stored) :
    session.save = session.saveAs path := by
  rw [save, h.isAt]

/-- The command for saving stores the text, and nothing else stores anything. -/
theorem HasStored.carryOut (h : session.HasStored path stored) (outcome : KeyOutcome) :
    (session.carryOut outcome).HasStored path (session.storedAfterOutcome stored outcome) := by
  cases outcome with
  | exCommand command =>
      simp only [Session.carryOut, runCommand, storedAfterOutcome]
      cases hName : TypedCommand.ofName? command with
      | none => exact h
      | some typed =>
          cases typed with
          | hideMatches => exact h.of_disk_eq rfl
          | write =>
              rw [if_pos rfl, h.save_eq]
              cases hSave : session.saveAs path with
              | ok saved => exact hasStored_of_saveAs hSave
              | error error => exact h
  | search pattern =>
      refine h.of_disk_eq ?_
      simp only [Session.carryOut, runSearch]
      split <;> rfl
  | _ => exact h

theorem HasStored.press (h : session.HasStored path stored) (key : Key) (now : Nat) :
    (session.press key now).1.HasStored path (session.storedAfterKey stored key now) := by
  have hEngaged : (session.engage key now).HasStored path stored := h.of_disk_eq rfl
  exact (hEngaged.carryOut (session.outcomeOf key)).of_disk_eq (session.press_disk key now)

theorem HasStored.pressAll (h : session.HasStored path stored) (now : Nat) (keys : List Key) :
    (session.pressAll now keys).1.HasStored path (session.storedAfterKeys stored now keys) := by
  induction keys generalizing session stored with
  | nil => exact h
  | cons key keys ih => exact ih (h.press key now)

/-- A file that was just opened is that of the buffer and holds its text, which the session
does not claim to have modified. -/
theorem hasStored_openFile {parser : Parser} {opened : Session}
    (h : session.openFile parser path = .ok opened) :
    opened.HasStored path opened.text ∧ opened.IsHonest opened.text ∧
      opened.files = session.files := by
  obtain ⟨text, hRead, rfl⟩ := openFile_eq_ok h
  exact ⟨⟨rfl, hRead⟩, fun _ => rfl, rfl⟩

/-! ## Files that can be written -/

theorem directories_saveAs {saved : Session} (h : session.saveAs path = .ok saved) :
    saved.files.directories = session.files.directories := by
  unfold saveAs Files.writeText at h
  split at h
  · cases h
  next files hWrite =>
    cases h
    exact Files.directories_write hWrite

theorem directories_save {saved : Session} (h : session.save = .ok saved) :
    saved.files.directories = session.files.directories := by
  unfold save at h
  split at h
  · cases h
  · exact directories_saveAs h

theorem exists_saveAs (h : session.files.CanWrite path) :
    ∃ saved, session.saveAs path = .ok saved := by
  obtain ⟨after, hWrite⟩ := h.exists_write (encodeText session.text)
  have hText : session.files.writeText path session.text = .ok after := hWrite
  rw [saveAs, hText]
  exact ⟨_, rfl⟩

/-- Keys create no directory and remove none. -/
theorem directories_press (session : Session) (key : Key) (now : Nat) :
    (session.press key now).1.files.directories = session.files.directories := by
  have hDisk := congrArg (fun disk => disk.1.directories) (session.press_disk key now)
  refine hDisk.trans ?_
  show ((session.engage key now).carryOut _).files.directories =
    (session.engage key now).files.directories
  generalize session.engage key now = engaged
  cases session.outcomeOf key with
  | exCommand command =>
      simp only [carryOut, runCommand]
      split
      · split
        next saved hSave => exact directories_save hSave
        next => rfl
      · rfl
      · rfl
  | search pattern =>
      simp only [carryOut, runSearch]
      split <;> rfl
  | _ => rfl

end Session

namespace Options

variable {options : Options} {parser : Parser} {files : Files} {opened : Session}

/-- Another name for the error changes no result. -/
theorem mapError_eq_ok_iff {result : Except FileError Session} {name : FileError → CommandError}
    {session : Session} : result.mapError name = .ok session ↔ result = .ok session := by
  cases result with
  | ok after =>
      refine ⟨fun h => ?_, fun h => ?_⟩
      · cases h
        rfl
      · cases h
        rfl
  | error error =>
      refine ⟨fun h => ?_, fun h => ?_⟩
      · cases h
      · cases h

theorem openSession_eq_ok_iff :
    options.openSession parser files = .ok opened ↔
      ∃ path settings, options.file = some path ∧ options.readSettings files = .ok settings ∧
        (Session.ofSettings settings files).openFile parser path = .ok opened := by
  unfold openSession
  cases options.file with
  | none => simp
  | some path =>
      cases options.readSettings files with
      | error error => simp [bind, Except.bind]
      | ok settings =>
          simp [bind, Except.bind, mapError_eq_ok_iff]

/-- The session after the keys of a run. -/
def edited (parser : Parser) (options : Options) (opened : Session) : Session :=
  (options.edit parser opened).1

/-- Once the keys are pressed, a request to parse that is pending is all there is left to
do. -/
theorem edited_eq (parser : Parser) (options : Options) (opened : Session) :
    ∃ debounce highlighting parsedSource, options.edited parser opened =
      { (opened.pressAll 0 (Key.parseScript options.script)).1 with
        debounce, highlighting, parsedSource } :=
  (opened.pressAll 0 (Key.parseScript options.script)).1.flush_eq parser

/-- At the end of the keys the file of the buffer holds a text that is the one of the
session unless that claims to be modified, and what could be written still can be. -/
theorem exists_stored_edited {path : Path}
    (hOpen : options.openSession parser files = .ok opened) (hFile : options.file = some path) :
    ∃ stored, (options.edited parser opened).HasStored path stored ∧
      (options.edited parser opened).IsHonest stored ∧
      (options.edited parser opened).files.directories = files.directories := by
  obtain ⟨path', settings, hFile', -, hOpened⟩ := openSession_eq_ok_iff.mp hOpen
  obtain rfl : path' = path := Option.some.inj (hFile'.symm.trans hFile)
  obtain ⟨hStored, hHonest, hFiles⟩ := Session.hasStored_openFile hOpened
  have hKeysStored := hStored.pressAll 0 (Key.parseScript options.script)
  have hKeysHonest := hHonest.pressAll 0 (Key.parseScript options.script)
  have hDirectories : (opened.pressAll 0 (Key.parseScript options.script)).1.files.directories =
      files.directories :=
    Session.pressAll_induction (motive := fun session => session.files.directories = files.directories)
      (fun session key h => (session.directories_press key 0).trans h)
      (congrArg Files.directories hFiles) (Key.parseScript options.script)
  generalize opened.storedAfterKeys opened.text 0 (Key.parseScript options.script) = stored
    at hKeysStored hKeysHonest
  obtain ⟨debounce, highlighting, parsedSource, hEdited⟩ := edited_eq parser options opened
  rw [hEdited]
  exact ⟨stored, hKeysStored.of_disk_eq rfl, hKeysHonest, hDirectories⟩

variable {session stored : Session}

/-- Wherever the text of a session was to be stored, it is there afterwards. -/
theorem get?_of_store {path : Path} {text : Text} (hStored : session.HasStored path text)
    (hHonest : session.IsHonest text) (h : options.store session = .ok stored) :
    stored.files.get? (options.output.getD path) = some (encodeText session.text) := by
  rw [← Files.readText_eq_ok_iff]
  unfold store at h
  cases hOutput : options.output with
  | some target =>
      rw [hOutput] at h
      exact (Session.hasStored_of_saveAs (mapError_eq_ok_iff.mp h)).readText
  | none =>
      rw [hOutput] at h
      dsimp only at h
      split at h
      · rw [hStored.save_eq] at h
        exact (Session.hasStored_of_saveAs (mapError_eq_ok_iff.mp h)).readText
      next hModified =>
        -- Nothing is written, and the file holds the text already.
        cases h
        rw [hHonest (Bool.eq_false_iff.mpr hModified)]
        exact hStored.readText

/-- A session can be stored if its file can be written. -/
theorem exists_store {path : Path} {text : Text} (hStored : session.HasStored path text)
    (hWrite : session.files.CanWrite (options.output.getD path)) :
    ∃ stored, options.store session = .ok stored := by
  obtain ⟨saved, hSave⟩ := Session.exists_saveAs hWrite
  unfold store
  cases hOutput : options.output with
  | some target =>
      rw [hOutput] at hSave
      exact ⟨saved, mapError_eq_ok_iff.mpr hSave⟩
  | none =>
      rw [hOutput] at hSave
      dsimp only
      split
      · rw [hStored.save_eq]
        exact ⟨saved, mapError_eq_ok_iff.mpr hSave⟩
      · exact ⟨session, rfl⟩

theorem run_of_openSession (hOpen : options.openSession parser files = .ok opened) :
    options.run parser files =
      match options.store (options.edited parser opened) with
      | .error error => ⟨(options.edited parser opened).files, .error error⟩
      | .ok stored =>
          ⟨stored.files,
            .ok (if options.reports then
              some (Report.ofSession stored (options.edit parser opened).2) else none)⟩ := by
  rw [run, hOpen]
  rfl

end Options

/-- A run whose files can be read and written ends well.  When a run ends well, the file
that was named for the result, or else the one that was opened, holds the UTF-8 form of the
text at the end of the keys and nothing more. -/
theorem result_is_on_file (parser : Parser) (arguments : List Text) (files : Files) :
    (∀ options path settings text, Options.read files arguments = .ok options →
        options.file = some path → options.readSettings files = .ok settings →
        files.get? path = some (encodeText text) →
        files.CanWrite (options.output.getD path) →
        ∃ report, (runArguments parser arguments files).result = .ok report) ∧
      ∀ report, (runArguments parser arguments files).result = .ok report →
        ∃ options path opened, Options.read files arguments = .ok options ∧
          options.file = some path ∧ options.openSession parser files = .ok opened ∧
          (runArguments parser arguments files).files.get? (options.output.getD path) =
            some (encodeText (options.edited parser opened).text) := by
  constructor
  · intro options path settings text hRead hFile hSettings hText hWrite
    have hContent : (Session.ofSettings settings files).files.readText path = .ok text :=
      Files.readText_eq_ok_iff.mpr hText
    have hOpen := Options.openSession_eq_ok_iff.mpr
      ⟨path, settings, hFile, hSettings, Session.openFile_of_readText hContent parser⟩
    obtain ⟨stored, hStored, -, hDirectories⟩ := Options.exists_stored_edited hOpen hFile
    have hStores : ∃ after, options.store (options.edited parser _) = .ok after :=
      Options.exists_store hStored (hWrite.of_directories_eq hDirectories)
    obtain ⟨after, hStore⟩ := hStores
    rw [runArguments, hRead]
    dsimp only
    rw [Options.run_of_openSession hOpen, hStore]
    exact ⟨_, rfl⟩
  · intro report hResult
    unfold runArguments at hResult ⊢
    cases hRead : Options.read files arguments with
    | error error =>
        rw [hRead] at hResult
        cases hResult
    | ok options =>
        rw [hRead] at hResult
        dsimp only at hResult ⊢
        cases hOpen : options.openSession parser files with
        | error error =>
            rw [Options.run, hOpen] at hResult
            cases hResult
        | ok opened =>
            obtain ⟨path, -, hFile, -, -⟩ := Options.openSession_eq_ok_iff.mp hOpen
            obtain ⟨text, hStored, hHonest, -⟩ := Options.exists_stored_edited hOpen hFile
            rw [Options.run_of_openSession hOpen] at hResult ⊢
            cases hStore : options.store (options.edited parser opened) with
            | error error =>
                rw [hStore] at hResult
                cases hResult
            | ok stored =>
                exact ⟨options, path, opened, rfl, hFile, hOpen,
                  Options.get?_of_store hStored hHonest hStore⟩

/-- Files with two letters in the file `f`. -/
def twoLetterFiles : Files := ⟨[⟨[], ['f'], encodeText ['a', 'b']⟩], [[]]⟩

/-- The first letter in the file `f` is to be deleted and the other stored, both by keys. -/
def storingOptions : Options :=
  ⟨some ['f'], ['x', ':', 'w', '<', 'C', 'R', '>'], none, none, none, false⟩

theorem edited_storingOptions {opened : Session}
    (h : storingOptions.openSession Parser.rootOnly twoLetterFiles = .ok opened) :
    (storingOptions.edited Parser.rootOnly opened).text = ['b'] ∧
      (storingOptions.edited Parser.rootOnly opened).isModified = false := by
  obtain ⟨path, settings, hFile, hSettings, hOpened⟩ := Options.openSession_eq_ok_iff.mp h
  cases hFile
  cases hSettings
  have hContent : (Session.ofSettings Settings.default twoLetterFiles).files.readText ['f'] =
      .ok ['a', 'b'] := Files.readText_eq_ok_iff.mpr rfl
  cases (Session.openFile_of_readText hContent Parser.rootOnly).symm.trans hOpened
  obtain ⟨debounce, highlighting, parsedSource, hEdited⟩ :=
    storingOptions.edited_eq Parser.rootOnly _
  rw [hEdited]
  exact ⟨rfl, rfl⟩

/-- After a letter was deleted and the other was stored by a key, nothing is left to be
written at the end, and the file holds the other letter. -/
theorem text_stored_by_key_is_on_file :
    let arguments := [['-', '-', 'k', 'e', 'y', 's'], storingOptions.script, ['f']]
    let ending := runArguments Parser.rootOnly arguments twoLetterFiles
    (∃ opened, storingOptions.openSession Parser.rootOnly twoLetterFiles = .ok opened ∧
        (storingOptions.edited Parser.rootOnly opened).isModified = false) ∧
      (∃ report, ending.result = .ok report) ∧
      ending.files.get? ['f'] = some (encodeText ['b']) := by
  intro arguments ending
  obtain ⟨hEnds, hResult⟩ := result_is_on_file Parser.rootOnly arguments twoLetterFiles
  have hRead : Options.read twoLetterFiles arguments = .ok storingOptions := rfl
  obtain ⟨report, hEnd⟩ := hEnds storingOptions ['f'] Settings.default ['a', 'b'] hRead rfl rfl
    rfl ⟨([], ['f']), rfl, rfl⟩
  obtain ⟨options, path, opened, hOptions, hFile, hOpen, hStored⟩ := hResult report hEnd
  cases hRead.symm.trans hOptions
  cases hFile
  obtain ⟨hText, hSaved⟩ := edited_storingOptions hOpen
  rw [hText] at hStored
  exact ⟨⟨opened, hOpen, hSaved⟩, ⟨report, hEnd⟩, hStored⟩

end ModalEditor
