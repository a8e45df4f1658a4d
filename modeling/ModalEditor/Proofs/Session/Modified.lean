import ModalEditor.Proofs.Session.Action
import ModalEditor.Proofs.Session.Basic

namespace ModalEditor

/-!
# Whether the modified flag tells of every unsaved change

Beside a session stands the text that was loaded or saved last.  A session that
does not claim to be modified should hold that text.  Keys see to that, the typed
command for saving included, and so does every call of the host but two: undoing and
redoing without a key change the text and leave the flag alone.  They do no harm
while the flag is set anyway.
-/

namespace Session

variable {session : Session}

/-! ## What is stored -/

/-- The text stored last, once a file operation was tried with a text. -/
def storedUnless {α : Type} (stored text : Text) : Except FileError α → Text
  | .ok _ => text
  | .error _ => stored

/-- The text stored last, once the session carried out what the engine left to it.  Only
the command for saving stores anything. -/
def storedAfterOutcome (session : Session) (stored : Text) : KeyOutcome → Text
  | .exCommand command =>
      if TypedCommand.ofName? command = some .write then
        storedUnless stored session.text session.save
      else stored
  | _ => stored

/-- The text stored last, once a key was pressed. -/
def storedAfterKey (session : Session) (stored : Text) (key : Key) (now : Nat) : Text :=
  (session.engage key now).storedAfterOutcome stored (session.outcomeOf key)

/-- The text stored last, once keys were pressed. -/
def storedAfterKeys (session : Session) (stored : Text) (now : Nat) : List Key → Text
  | [] => stored
  | key :: keys =>
      storedAfterKeys (session.press key now).1 (session.storedAfterKey stored key now) now keys

/-- The text stored last, once an action was done.  Opening a file stores the text that
is read. -/
def storedAfter (session : Session) (stored : Text) : HostAction → Text
  | .press key now => session.storedAfterKey stored key now
  | .feed script now => session.storedAfterKeys stored now (Key.parseScript script)
  | .openFile path =>
      match session.files.readText path with
      | .ok text => text
      | .error _ => stored
  | .save => storedUnless stored session.text session.save
  | .saveAs path => storedUnless stored session.text (session.saveAs path)
  | _ => stored

/-- What was saved can be read from the file that is the one of the buffer then. -/
theorem readText_of_saveAs {path : Path} {saved : Session} (h : session.saveAs path = .ok saved) :
    saved.path = some path ∧ saved.files.readText path = .ok session.text := by
  unfold saveAs Files.writeText at h
  split at h
  · cases h
  next files hWrite =>
    cases h
    refine ⟨rfl, ?_⟩
    show files.readText path = .ok session.text
    rw [Files.readText, Files.get?_write hWrite]
    simp only [decodeText?_encodeText]

/-! ## Honest flags -/

/-- Whether a session that does not claim to be modified holds the text stored last. -/
def IsHonest (session : Session) (stored : Text) : Prop :=
  session.isModified = false → session.text = stored

theorem isHonest_noteChange (session : Session) (now : Nat) (stored : Text) :
    (session.noteChange now).IsHonest stored := by
  intro hModified
  cases hModified

/-- Saving stores the text, and a session that cannot be saved stays as it is. -/
theorem IsHonest.orElse_save {stored : Text} (h : session.IsHonest stored)
    {result : Except FileError Session}
    (hResult : ∀ saved, result = .ok saved → session.KeepsText saved) :
    (session.orElse result).IsHonest (storedUnless stored session.text result) := by
  cases result with
  | error error => exact h
  | ok saved =>
      intro _
      exact (hResult saved rfl).text

/-- The session either stores its text or leaves its flag as it is. -/
theorem carryOut_cases (session : Session) (stored : Text) (outcome : KeyOutcome) :
    session.storedAfterOutcome stored outcome = session.text ∨
      (session.storedAfterOutcome stored outcome = stored ∧
        (session.carryOut outcome).isModified = session.isModified) := by
  cases outcome with
  | exCommand command =>
      simp only [storedAfterOutcome, carryOut, runCommand]
      cases hName : TypedCommand.ofName? command with
      | none => exact Or.inr ⟨rfl, rfl⟩
      | some typed =>
          cases typed with
          | hideMatches => exact Or.inr ⟨rfl, rfl⟩
          | write =>
              rw [if_pos rfl]
              cases hSave : session.save with
              | ok saved => exact Or.inl rfl
              | error error => exact Or.inr ⟨rfl, rfl⟩
  | search pattern =>
      refine Or.inr ⟨rfl, ?_⟩
      simp only [carryOut, runSearch]
      split <;> rfl
  | _ => exact Or.inr ⟨rfl, rfl⟩

/-- A step in the history by a key notes the change if there is one. -/
theorem IsHonest.travelByKey {stored : Text} (h : session.IsHonest stored)
    (step : History → History × Option Restoration) (now : Nat) :
    (session.travelByKey (travelBy step) now).IsHonest stored := by
  simp only [Session.travelByKey]
  split
  · exact isHonest_noteChange _ now stored
  next hRestored =>
    unfold travelBy at hRestored ⊢
    have hWork := travel_work_of_eq_false (Bool.eq_false_iff.mpr hRestored)
    intro hModified
    rw [travel_isModified] at hModified
    rw [text, hWork]
    exact h hModified

theorem storedAfterKey_of_isTravel {key : Key} (h : (session.outcomeOf key).isTravel = true)
    (stored : Text) (now : Nat) : session.storedAfterKey stored key now = stored := by
  unfold storedAfterKey
  cases hOutcome : session.outcomeOf key with
  | exCommand command =>
      rw [hOutcome] at h
      cases h
  | _ => rfl

/-- A key keeps the flag honest. -/
theorem IsHonest.press {stored : Text} (h : session.IsHonest stored) (key : Key) (now : Nat) :
    (session.press key now).1.IsHonest (session.storedAfterKey stored key now) := by
  rcases session.press_cases key now with ⟨hTravel, -, hText, step, hPress⟩ | hPress
  · rw [hPress, storedAfterKey_of_isTravel hTravel]
    have hEngaged : (session.engage key now).IsHonest stored := by
      intro hModified
      rw [hText]
      exact h hModified
    exact hEngaged.travelByKey step now
  · rw [hPress, storedAfterKey]
    have hKeeps := (session.engage key now).keepsText_carryOut (session.outcomeOf key)
    have hStored := (session.engage key now).carryOut_cases stored (session.outcomeOf key)
    generalize (session.engage key now).carryOut (session.outcomeOf key) = carried
      at hKeeps hStored ⊢
    show (carried.recordChange session.work.buffer now).IsHonest _
    rcases carried.recordChange_cases session.work.buffer now with
      ⟨hText, hSame⟩ | ⟨history, hNoted⟩
    · rw [hSame]
      intro hModified
      -- The flag was cleared by storing this text, or it was clear before the key.
      rcases hStored with hSaved | ⟨hStored, hFlag⟩
      · rw [hSaved]
        exact hKeeps.text
      · rw [hStored, hText]
        exact h (hFlag.symm.trans hModified)
    · rw [hNoted]
      exact isHonest_noteChange _ now _

theorem IsHonest.pressAll {stored : Text} (h : session.IsHonest stored) (now : Nat)
    (keys : List Key) :
    (session.pressAll now keys).1.IsHonest (session.storedAfterKeys stored now keys) := by
  induction keys generalizing session stored with
  | nil => exact h
  | cons key keys ih => exact ih (h.press key now)

/-! ## Calls of the host -/

theorem isHonest_load (parser : Parser) (session : Session) (text : Text) :
    (session.load parser text).IsHonest text := by
  intro _
  rfl

theorem isHonest_created (parser : Parser) (settings : Settings) (files : Files)
    (content : Option Text) :
    (created parser settings files content).IsHonest (content.getD []) := by
  cases content with
  | none => exact fun _ => rfl
  | some text => exact isHonest_load parser _ text

/-- Whether the text stays the same or was not claimed to be stored. -/
def UnsavedOrSame (before after : Session) : Prop :=
  before.isModified = true ∨ after.text = before.text

/-- A step in the history without a key leaves the flag as it was, so it stays honest
exactly if it was set or the text stays the same. -/
theorem IsHonest.travel_iff {stored : Text} (h : session.IsHonest stored)
    (step : History × Option Restoration) :
    (session.travel step).1.IsHonest stored ↔ session.UnsavedOrSame (session.travel step).1 := by
  unfold UnsavedOrSame
  rw [IsHonest, travel_isModified]
  cases hModified : session.isModified with
  | true => simp
  | false =>
      rw [h hModified]
      simp

theorem IsHonest.act_iff {stored : Text} (h : session.IsHonest stored) (parser : Parser)
    (action : HostAction) :
    (session.act parser action).IsHonest (session.storedAfter stored action) ↔
      session.TravelsWithin UnsavedOrSame parser action := by
  have hAlways {after : Session} {stored : Text} (hAfter : after.IsHonest stored) :
      after.IsHonest stored ↔ True := iff_true_intro hAfter
  cases action with
  | press key now => exact hAlways (h.press key now)
  | feed script now => exact hAlways (h.pressAll now _)
  | undo => exact h.travel_iff _
  | redo => exact h.travel_iff _
  | openFile path =>
      refine hAlways ?_
      simp only [act, storedAfter, openFile]
      cases session.files.readText path with
      | ok text => exact isHonest_load parser _ text
      | error error => exact h
  | save => exact hAlways (h.orElse_save fun _ hSaved => keepsText_save hSaved)
  | saveAs path => exact hAlways (h.orElse_save fun _ hSaved => keepsText_saveAs hSaved)
  | setLanguage language => exact hAlways h
  | scroll => exact hAlways h
  | tick now =>
      exact hAlways (tick_induction (motive := fun next => next.IsHonest stored)
        (fun _ _ _ => h) parser now)
  | flush =>
      exact hAlways (flush_induction (motive := fun next => next.IsHonest stored)
        (fun _ _ _ => h) parser)
  | changeFiles => exact hAlways h

end Session

/-! ## Runs -/

/-- A session and the text that was loaded or saved last. -/
structure Kept where
  session : Session
  stored : Text

namespace Kept

variable {kept : Kept}

/-- A new session stores the text it is created with. -/
def created (parser : Parser) (settings : Settings) (files : Files) (content : Option Text) :
    Kept :=
  ⟨Session.created parser settings files content, content.getD []⟩

/-- One action of the host. -/
def act (parser : Parser) (kept : Kept) (action : HostAction) : Kept :=
  ⟨kept.session.act parser action, kept.session.storedAfter kept.stored action⟩

/-- Actions in order. -/
def actAll (parser : Parser) (kept : Kept) (actions : List HostAction) : Kept :=
  actions.foldl (act parser) kept

/-- Watching what is stored does not interfere with the session. -/
theorem session_actAll (parser : Parser) (kept : Kept) (actions : List HostAction) :
    (kept.actAll parser actions).session = kept.session.actAll parser actions := by
  induction actions generalizing kept with
  | nil => rfl
  | cons next actions ih => exact ih (kept.act parser next)

/-- Whether the flag of the session is honest about what is stored. -/
def IsHonest (kept : Kept) : Prop := kept.session.IsHonest kept.stored

theorem IsHonest.act_iff (h : kept.IsHonest) (parser : Parser) (action : HostAction) :
    (kept.act parser action).IsHonest ↔
      kept.session.TravelsWithin Session.UnsavedOrSame parser action :=
  Session.IsHonest.act_iff h parser action

theorem IsHonest.actAll_iff (h : kept.IsHonest) (parser : Parser) (actions : List HostAction) :
    (∀ n, (kept.actAll parser (actions.take n)).IsHonest) ↔
      ∀ n action, actions[n]? = some action →
        (kept.actAll parser (actions.take n)).session.TravelsWithin Session.UnsavedOrSame
          parser action :=
  forall_foldl_take_iff (motive := IsHonest)
    (fun hBefore action => hBefore.act_iff parser action) h actions

/-- In every state of a run a session that does not claim to be modified holds the text
loaded or saved last, exactly if the host undoes and redoes without a key only while
the session claims to be modified or where the text stays as it is. -/
theorem flag_is_honest_iff_unsaved_or_same (parser : Parser) (settings : Settings)
    (files : Files) (content : Option Text) (actions : List HostAction) :
    (∀ n, let kept := (created parser settings files content).actAll parser (actions.take n)
        kept.session.isModified = false → kept.session.text = kept.stored) ↔
      ∀ n action, actions[n]? = some action →
        ((Session.created parser settings files content).actAll parser
          (actions.take n)).TravelsWithin Session.UnsavedOrSame parser action := by
  have hStart : (created parser settings files content).IsHonest :=
    Session.isHonest_created parser settings files content
  have hRun := hStart.actAll_iff parser actions
  simp only [session_actAll] at hRun
  exact hRun

/-- After two deletions were saved, undoing one of them without a key leaves a text that
was never loaded nor saved in a session that does not claim to be modified. -/
theorem undo_without_key_hides_change :
    let loaded := created Parser.rootOnly Settings.default Files.empty (some ['a', 'b', 'c'])
    let saved := loaded.actAll Parser.rootOnly [.feed ['x', 'x'] 0, .saveAs ['f']]
    let undone := saved.act Parser.rootOnly .undo
    loaded.stored = ['a', 'b', 'c'] ∧ saved.stored = ['c'] ∧ undone.stored = ['c'] ∧
      undone.session.isModified = false ∧ undone.session.text = ['b', 'c'] := by
  exact ⟨rfl, rfl, rfl, rfl, rfl⟩

end Kept

end ModalEditor
