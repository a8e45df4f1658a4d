import ModalEditor.Proofs.Session.Action
import ModalEditor.Proofs.Session.Basic

namespace ModalEditor

/-!
# Whether the matches are those of the present text

A search keeps the matches it found.  They are current when running the query again,
with the flags as they are, finds the same in the present text.  Keys keep them
current, and so does every call of the host but two: undoing and redoing without a
key change the text and search through nothing.  They do no harm where the query
finds the same before and after.
-/

namespace Search

variable {search : Search} {text : Text}

/-- Whether the matches are those of the query in a text. -/
def IsCurrent (search : Search) (text : Text) : Prop :=
  search.found = search.run text

theorem run_of_query_eq_nil (h : search.query = []) (text : Text) : search.run text = [] := by
  rw [run, h]
  rfl

theorem isCurrent_ofOptions (caseSensitive usesPattern : Bool) (text : Text) :
    (ofOptions caseSensitive usesPattern).IsCurrent text :=
  rfl

theorem isCurrent_setQuery (search : Search) (query text : Text) :
    (search.setQuery query text).IsCurrent text :=
  rfl

theorem isCurrent_clear (search : Search) (text : Text) : search.clear.IsCurrent text :=
  rfl

/-- Searching again makes the matches those of the text searched through, whatever the
text was that they came from.  Without a query there are none in any text. -/
theorem IsCurrent.refresh {old : Text} (h : search.IsCurrent old) (new : Text) :
    (search.refresh new).IsCurrent new := by
  unfold Search.refresh
  cases hActive : search.isActive with
  | true => exact rfl
  | false =>
      have hQuery : search.query = [] := by simpa [isActive] using hActive
      have hFound : search.found = [] := Eq.trans h (run_of_query_eq_nil hQuery old)
      show search.found = search.run new
      rw [hFound, run_of_query_eq_nil hQuery]

end Search

namespace Session

variable {session : Session}

/-- Whether the matches are those of the present text. -/
def IsCurrent (session : Session) : Prop :=
  session.search.IsCurrent session.text

theorem isCurrent_load (parser : Parser) (session : Session) {text : Text}
    (h : session.search.IsCurrent text) (new : Text) : (session.load parser new).IsCurrent :=
  h.refresh new

theorem isCurrent_created (parser : Parser) (settings : Settings) (files : Files)
    (content : Option Text) : (created parser settings files content).IsCurrent := by
  have hEmpty (text : Text) : (ofSettings settings files).search.IsCurrent text :=
    Search.isCurrent_ofOptions _ _ text
  cases content with
  | none => exact hEmpty []
  | some text => exact isCurrent_load parser _ (hEmpty []) text

/-! ## Keys -/

theorem isCurrent_noteChange {text : Text} (h : session.search.IsCurrent text) (now : Nat) :
    (session.noteChange now).IsCurrent :=
  h.refresh session.text

theorem search_saveAs {path : Path} {saved : Session} (h : session.saveAs path = .ok saved) :
    saved.search = session.search := by
  obtain ⟨files, rfl⟩ := saveAs_eq h
  rfl

theorem search_save {saved : Session} (h : session.save = .ok saved) :
    saved.search = session.search := by
  obtain ⟨files, path, rfl⟩ := save_eq h
  rfl

/-- Searching for a pattern that was typed leaves matches of the present text, unless
the pattern is empty and so is the query that it stands for. -/
theorem runSearch_search (session : Session) (pattern : Text) :
    (session.runSearch pattern).search = session.search ∨
      (session.runSearch pattern).IsCurrent := by
  have hSearch : (session.runSearch pattern).search =
      if pattern.isEmpty then session.search.refresh session.text
      else session.search.setQuery pattern session.text := by
    simp only [runSearch]
    split <;> rfl
  unfold IsCurrent
  rw [(keepsText_runSearch session pattern).text, hSearch]
  cases pattern with
  | cons c pattern => exact Or.inr (Search.isCurrent_setQuery _ _ _)
  | nil =>
      show session.search.refresh session.text = session.search ∨
        (session.search.refresh session.text).IsCurrent session.text
      unfold Search.refresh
      split
      · exact Or.inr rfl
      · exact Or.inl rfl

/-- Carrying out what the engine left to the session either searches through the present
text or leaves the search as it was. -/
theorem carryOut_search (session : Session) (outcome : KeyOutcome) :
    (session.carryOut outcome).search = session.search ∨
      (session.carryOut outcome).IsCurrent := by
  cases outcome with
  | search pattern => exact runSearch_search session pattern
  | exCommand command =>
      simp only [carryOut, runCommand]
      cases TypedCommand.ofName? command with
      | none => exact Or.inl rfl
      | some typed =>
          cases typed with
          | hideMatches => exact Or.inr (Search.isCurrent_clear _ _)
          | write =>
              cases hSave : session.save with
              | ok saved => exact Or.inl (search_save hSave)
              | error error => exact Or.inl rfl
  | _ => exact Or.inl rfl

@[simp]
theorem travel_search (session : Session) (step : History × Option Restoration) :
    (session.travel step).1.search = session.search := by
  obtain ⟨history, buffer, hTravel⟩ := session.travel_eq step
  rw [hTravel]

/-- A step in the history by a key searches through the text that was restored. -/
theorem IsCurrent.travelByKey (h : session.IsCurrent)
    (step : History → History × Option Restoration) (now : Nat) :
    (session.travelByKey (travelBy step) now).IsCurrent := by
  have hCommitted : ({ session with history := session.history.commit } : Session).IsCurrent :=
    h
  simp only [Session.travelByKey]
  generalize ({ session with history := session.history.commit } : Session) = committed
    at hCommitted ⊢
  unfold travelBy
  split
  · have hKept : (committed.travel (step committed.history)).1.search.IsCurrent committed.text := by
      rw [travel_search]
      exact hCommitted
    exact isCurrent_noteChange hKept now
  next hRestored =>
    have hWork := travel_work_of_eq_false (Bool.eq_false_iff.mpr hRestored)
    rw [IsCurrent, travel_search, text, hWork]
    exact hCommitted

/-- Recording a change searches through the new text.  Where there is no change, the
matches stay current whether they come from the text before the key or after it. -/
theorem isCurrent_recordChange {before : Buffer}
    (h : session.search.IsCurrent before.text ∨ session.IsCurrent) (now : Nat) :
    (session.recordChange before now).IsCurrent := by
  rcases session.recordChange_cases before now with ⟨hSame, hRecorded⟩ | ⟨history, hNoted⟩
  · rw [hRecorded]
    rcases h with hBefore | hNow
    · rw [IsCurrent, hSame]
      exact hBefore
    · exact hNow
  · rw [hNoted]
    rcases h with hBefore | hNow
    · exact isCurrent_noteChange hBefore now
    · exact isCurrent_noteChange hNow now

/-- A key keeps the matches current. -/
theorem IsCurrent.press (h : session.IsCurrent) (key : Key) (now : Nat) :
    (session.press key now).1.IsCurrent := by
  rcases session.press_cases key now with ⟨-, -, hText, step, hPress⟩ | hPress
  · rw [hPress]
    have hEngaged : (session.engage key now).IsCurrent := by
      rw [IsCurrent, hText]
      exact h
    exact hEngaged.travelByKey step now
  · rw [hPress]
    refine isCurrent_recordChange ?_ now
    rcases (session.engage key now).carryOut_search (session.outcomeOf key) with
      hSame | hCurrent
    · left
      rw [hSame]
      exact h
    · exact Or.inr hCurrent

/-! ## Calls of the host -/

/-- Whether the query finds the same in the texts of two sessions. -/
def SameMatches (before after : Session) : Prop :=
  before.search.run after.text = before.search.run before.text

/-- A step in the history without a key leaves the matches as they were, so they stay
current exactly if the query finds the same as before. -/
theorem IsCurrent.travel_iff (h : session.IsCurrent) (step : History × Option Restoration) :
    (session.travel step).1.IsCurrent ↔ session.SameMatches (session.travel step).1 := by
  rw [IsCurrent, Search.IsCurrent, travel_search]
  constructor
  · intro hAfter
    exact hAfter.symm.trans h
  · intro hSame
    exact Eq.trans h hSame.symm

theorem IsCurrent.act_iff (h : session.IsCurrent) (parser : Parser) (action : HostAction) :
    (session.act parser action).IsCurrent ↔ session.TravelsWithin SameMatches parser action := by
  have hAlways {after : Session} (hAfter : after.IsCurrent) : after.IsCurrent ↔ True :=
    iff_true_intro hAfter
  cases action with
  | press key now => exact hAlways (h.press key now)
  | feed script now =>
      exact hAlways (pressAll_induction (fun _ key hBefore => hBefore.press key now) h _)
  | undo => exact h.travel_iff _
  | redo => exact h.travel_iff _
  | openFile path =>
      refine hAlways (orElse_induction h fun opened hOpened => ?_)
      obtain ⟨text, -, rfl⟩ := openFile_eq_ok hOpened
      exact isCurrent_load parser { session with path := some path } h text
  | save =>
      refine hAlways (orElse_induction h fun saved hSaved => ?_)
      rw [IsCurrent, search_save hSaved, (keepsText_save hSaved).text]
      exact h
  | saveAs path =>
      refine hAlways (orElse_induction h fun saved hSaved => ?_)
      rw [IsCurrent, search_saveAs hSaved, (keepsText_saveAs hSaved).text]
      exact h
  | setLanguage language => exact hAlways h
  | scroll => exact hAlways h
  | tick now => exact hAlways (tick_induction (fun _ _ _ => h) parser now)
  | flush => exact hAlways (flush_induction (fun _ _ _ => h) parser)
  | changeFiles => exact hAlways h

theorem IsCurrent.actAll_iff (h : session.IsCurrent) (parser : Parser)
    (actions : List HostAction) :
    (∀ n, (session.actAll parser (actions.take n)).IsCurrent) ↔
      ∀ n action, actions[n]? = some action →
        (session.actAll parser (actions.take n)).TravelsWithin SameMatches parser action :=
  forall_foldl_take_iff (motive := IsCurrent)
    (fun hBefore action => hBefore.act_iff parser action) h actions

/-- In every state of a run the matches are those that running the query with the flags
finds in the present text, none without a query, exactly if the host undoes and redoes
without a key only where the query finds the same in the restored text. -/
theorem matches_are_current_iff_same_matches (parser : Parser) (settings : Settings)
    (files : Files) (content : Option Text) (actions : List HostAction) :
    (∀ n, let session := (created parser settings files content).actAll parser (actions.take n)
        session.search.found = session.search.run session.text ∧
          (session.search.query = [] → session.search.found = [])) ↔
      ∀ n action, actions[n]? = some action →
        ((created parser settings files content).actAll parser (actions.take n)).TravelsWithin
          SameMatches parser action := by
  rw [← (isCurrent_created parser settings files content).actAll_iff parser actions]
  constructor
  · intro hMatches n
    exact (hMatches n).1
  · intro hCurrent n
    refine ⟨hCurrent n, fun hQuery => ?_⟩
    exact Eq.trans (hCurrent n) (Search.run_of_query_eq_nil hQuery _)

/-- After a deletion the letter left was searched for.  Undoing the deletion without a key
moves that letter on, and the match stays where the letter was. -/
theorem undo_without_key_leaves_stale_match :
    let session := (created Parser.rootOnly Settings.default Files.empty
      (some ['x', 'o'])).actAll Parser.rootOnly
        [.feed ['x', '/', 'o', '<', 'C', 'R', '>'] 0, .undo]
    session.text = ['x', 'o'] ∧ session.search.query = ['o'] ∧
      session.search.found = [⟨0, 1⟩] ∧ session.search.run session.text = [⟨1, 2⟩] := by
  exact ⟨rfl, rfl, rfl, rfl⟩

end Session

end ModalEditor
