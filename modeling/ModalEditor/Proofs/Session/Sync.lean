import ModalEditor.Proofs.Session.Action
import ModalEditor.Proofs.Session.Basic

namespace ModalEditor

/-!
# Whether the parser hears of every change

A session is synced when the text that was parsed last is the present one or a
request to parse is pending.  Keys keep a session synced, and so does every call
of the host but two: undoing and redoing without a key change the text and
request nothing.  They do no harm while a request is pending anyway.
-/

namespace Session

variable {session : Session}

/-- Whether the present text was parsed or is going to be. -/
def IsSynced (session : Session) : Prop :=
  session.parsedSource = session.text ∨ session.debounce.pending.isSome = true

theorem isSynced_parse (parser : Parser) (session : Session) :
    (session.parse parser).IsSynced :=
  Or.inl rfl

theorem isSynced_created (parser : Parser) (settings : Settings) (files : Files)
    (content : Option Text) : (created parser settings files content).IsSynced := by
  cases content with
  | none => exact Or.inl rfl
  | some text => exact isSynced_parse parser _

theorem KeepsText.isSynced {after : Session} (h : session.KeepsText after)
    (hSynced : session.IsSynced) : after.IsSynced := by
  rw [IsSynced, h.text, h.parsedSource, h.debounce]
  exact hSynced

/-! ## Keys -/

theorem isSynced_noteChange (session : Session) (now : Nat) :
    (session.noteChange now).IsSynced :=
  Or.inr rfl

/-- A step in the history that restores nothing changes no text. -/
theorem IsSynced.travelByKey (h : session.IsSynced)
    (step : History → History × Option Restoration) (now : Nat) :
    (session.travelByKey (travelBy step) now).IsSynced := by
  simp only [Session.travelByKey]
  split
  · exact isSynced_noteChange _ now
  next hRestored =>
    unfold travelBy at hRestored ⊢
    have hWork := travel_work_of_eq_false (Bool.eq_false_iff.mpr hRestored)
    rw [IsSynced, travel_parsedSource, travel_debounce, text, hWork]
    exact h

/-- A key keeps a session synced. -/
theorem IsSynced.press (h : session.IsSynced) (key : Key) (now : Nat) :
    (session.press key now).1.IsSynced := by
  -- A step in the history schedules by itself, a command where it is recorded.
  rcases session.press_cases key now with ⟨-, -, hText, step, hPress⟩ | hPress
  · rw [hPress]
    have hEngaged : (session.engage key now).IsSynced := by
      rw [IsSynced, hText]
      exact h
    exact hEngaged.travelByKey step now
  · rw [hPress]
    have hKeeps := (session.engage key now).keepsText_carryOut (session.outcomeOf key)
    generalize (session.engage key now).carryOut (session.outcomeOf key) = carried at hKeeps
    show (carried.recordChange session.work.buffer now).IsSynced
    rcases carried.recordChange_cases session.work.buffer now with
      ⟨hText, hSame⟩ | ⟨history, hNoted⟩
    -- Without a change the session is synced for the reason it was before.
    · rw [hSame, IsSynced, hText, hKeeps.parsedSource, hKeeps.debounce]
      exact h
    · rw [hNoted]
      exact isSynced_noteChange _ now

/-! ## Calls of the host -/

theorem isSynced_openFile {parser : Parser} {path : Path} {opened : Session}
    (h : session.openFile parser path = .ok opened) : opened.IsSynced := by
  obtain ⟨text, -, rfl⟩ := openFile_eq_ok h
  exact isSynced_parse parser _

theorem IsSynced.tick (h : session.IsSynced) (parser : Parser) (now : Nat) :
    (session.tick parser now).1.IsSynced := by
  simp only [Session.tick]
  split
  · exact Or.inl rfl
  · exact h

/-- Flushing parses the text if a request is pending, and does nothing
otherwise. -/
theorem flush_of_pending_eq_none (parser : Parser) (h : session.debounce.pending = none) :
    (session.flush parser).1 = session := by
  rw [flush, Debounce.deadline, h]
  rfl

theorem flush_of_isPending (parser : Parser) (h : session.debounce.pending.isSome = true) :
    ∃ highlighting, (session.flush parser).1 =
      { session with
        debounce := session.debounce.cancel, highlighting, parsedSource := session.text } := by
  obtain ⟨request, hPending⟩ := Option.isSome_iff_exists.mp h
  -- The instant of the flush is the deadline, so the request is due.
  have hPoll : session.debounce.poll request.deadline = (session.debounce.cancel, true) := by
    simp [Debounce.poll, hPending]
  rw [flush, Debounce.deadline, hPending]
  simp only [Option.map_some, Session.tick, hPoll, if_true]
  exact ⟨_, rfl⟩

theorem IsSynced.flush (h : session.IsSynced) (parser : Parser) :
    (session.flush parser).1.IsSynced := by
  cases hPending : session.debounce.pending.isSome with
  | true =>
      obtain ⟨highlighting, hFlush⟩ := session.flush_of_isPending parser hPending
      rw [hFlush]
      exact Or.inl rfl
  | false => rwa [session.flush_of_pending_eq_none parser (by simpa using hPending)]

/-- Flushing makes the parsed text the present one exactly in synced sessions. -/
theorem flush_parsedSource_iff (parser : Parser) (session : Session) :
    (session.flush parser).1.parsedSource = (session.flush parser).1.text ↔
      session.IsSynced := by
  cases hPending : session.debounce.pending.isSome with
  | true =>
      obtain ⟨highlighting, hFlush⟩ := session.flush_of_isPending parser hPending
      rw [hFlush]
      exact iff_of_true rfl (Or.inr hPending)
  | false =>
      rw [session.flush_of_pending_eq_none parser (by simpa using hPending), IsSynced, hPending]
      simp

/-- Whether undoing or redoing by the host is of no concern to the parser: a
request is pending anyway, or the text stays as it is. -/
def IsHarmless (parser : Parser) (session : Session) : HostAction → Prop
  | .undo => session.debounce.pending.isSome = true ∨
      (session.act parser .undo).text = session.text
  | .redo => session.debounce.pending.isSome = true ∨
      (session.act parser .redo).text = session.text
  | _ => True

/-- A step in the history keeps a session synced exactly if it is of no concern to
the parser. -/
theorem IsSynced.travel_iff (h : session.IsSynced) (step : History × Option Restoration) :
    (session.travel step).1.IsSynced ↔
      session.debounce.pending.isSome = true ∨ (session.travel step).1.text = session.text := by
  rw [IsSynced, travel_parsedSource, travel_debounce]
  constructor
  · rintro (hParsed | hPending)
    · rcases h with hSame | hPending
      · exact Or.inr (hParsed.symm.trans hSame)
      · exact Or.inl hPending
    · exact Or.inl hPending
  · rintro (hPending | hText)
    · exact Or.inr hPending
    · rw [hText]
      exact h

/-- An action keeps a session synced exactly if it is of no concern to the
parser, as all but two always are. -/
theorem IsSynced.act_iff (h : session.IsSynced) (parser : Parser) (action : HostAction) :
    (session.act parser action).IsSynced ↔ session.IsHarmless parser action := by
  have hAlways {after : Session} (hAfter : after.IsSynced) : after.IsSynced ↔ True :=
    iff_true_intro hAfter
  cases action with
  | press key now => exact hAlways (h.press key now)
  | feed script now =>
      exact hAlways (pressAll_induction (fun _ key hBefore => hBefore.press key now) h _)
  | undo => exact h.travel_iff _
  | redo => exact h.travel_iff _
  | openFile path => exact hAlways (orElse_induction h fun _ hOpened => isSynced_openFile hOpened)
  | save => exact hAlways (orElse_induction h fun _ hSaved => (keepsText_save hSaved).isSynced h)
  | saveAs path =>
      exact hAlways (orElse_induction h fun _ hSaved => (keepsText_saveAs hSaved).isSynced h)
  | setLanguage language => exact hAlways (isSynced_parse parser _)
  | scroll => exact hAlways h
  | tick now => exact hAlways (h.tick parser now)
  | flush => exact hAlways (h.flush parser)
  | changeFiles => exact hAlways h

/-- A run is synced throughout exactly if each of its actions is of no concern to
the parser where it is done. -/
theorem IsSynced.actAll_iff (h : session.IsSynced) (parser : Parser)
    (actions : List HostAction) :
    (∀ n, (session.actAll parser (actions.take n)).IsSynced) ↔
      ∀ n action, actions[n]? = some action →
        (session.actAll parser (actions.take n)).IsHarmless parser action :=
  forall_foldl_take_iff (fun hBefore action => hBefore.act_iff parser action) h actions

/-- In every state of a run the present text was parsed or is going to be, and
flushing makes it the parsed one, exactly if the host undoes and redoes without a
key only while a request is pending or where the text stays as it is. -/
theorem parser_hears_iff_harmless (parser : Parser) (settings : Settings) (files : Files)
    (content : Option Text) (actions : List HostAction) :
    (∀ n, let session := (created parser settings files content).actAll parser (actions.take n)
        (session.parsedSource = session.text ∨ session.debounce.pending.isSome = true) ∧
          (session.flush parser).1.parsedSource = (session.flush parser).1.text) ↔
      ∀ n action, actions[n]? = some action →
        ((created parser settings files content).actAll parser (actions.take n)).IsHarmless
          parser action := by
  rw [← (isSynced_created parser settings files content).actAll_iff parser actions]
  constructor
  · exact fun hHears n => (hHears n).1
  · exact fun hSynced n => ⟨hSynced n, (flush_parsedSource_iff parser _).mpr (hSynced n)⟩

/-- Undoing without a key, while no request is pending, leaves the parser with the
text it has, and flushing does not help. -/
theorem flush_undo_of_pending_eq_none (parser : Parser) (session : Session)
    {restoration : Restoration} {next : Text} (hPending : session.debounce.pending = none)
    (hStep : session.history.undo.2 = some restoration)
    (hApply : Splice.applyAll session.text restoration.splices = some next) :
    session.undo.1.text = next ∧
      (session.undo.1.flush parser).1.parsedSource = session.parsedSource := by
  have hAfter : session.undo.1.debounce.pending = none := by
    rw [undo, travel_debounce, hPending]
  rw [flush_of_pending_eq_none parser hAfter, undo, travel_of_applyAll hStep hApply]
  exact ⟨Buffer.replaceText_text _ _, rfl⟩

/-- After a deletion was parsed, undoing it without a key restores a text that is
never parsed. -/
theorem undo_without_key_is_not_parsed :
    let session := (created Parser.rootOnly Settings.default Files.empty (some ['a'])).actAll
      Parser.rootOnly [.press (.char 'x') 0, .flush, .undo]
    session.text = ['a'] ∧ (session.flush Parser.rootOnly).1.parsedSource = [] := by
  simp only [actAll, List.foldl_cons, List.foldl_nil, act]
  generalize hDeleted : ((created Parser.rootOnly Settings.default Files.empty
    (some ['a'])).press (.char 'x') 0).1 = deleted
  have hPending : deleted.debounce.pending.isSome = true := by
    rw [← hDeleted]
    rfl
  have hText : deleted.text = [] := by
    rw [← hDeleted]
    rfl
  have hStep : deleted.history.undo.2 = some ⟨[⟨0, [], ['a']⟩], Position.origin⟩ := by
    rw [← hDeleted]
    rfl
  obtain ⟨highlighting, hFlush⟩ := deleted.flush_of_isPending Parser.rootOnly hPending
  have hApply : Splice.applyAll deleted.text [⟨0, [], ['a']⟩] = some ['a'] := by
    rw [hText]
    rfl
  have hUndone := flush_undo_of_pending_eq_none Parser.rootOnly
    (deleted.flush Parser.rootOnly).1 (by rw [hFlush]; rfl) (by rw [hFlush]; exact hStep)
    (by rw [hFlush]; exact hApply)
  have hParsed : (deleted.flush Parser.rootOnly).1.parsedSource = [] := by
    rw [hFlush]
    exact hText
  rw [hParsed] at hUndone
  exact hUndone

end Session

end ModalEditor
