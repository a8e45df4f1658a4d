import ModalEditor.Proofs.History.Basic
import ModalEditor.Proofs.Session.Action
import ModalEditor.Proofs.Session.Matches

namespace ModalEditor

/-!
# What comes of the settings stays

A session is created by its settings: how much can be undone and how queries are read is
decided then.  No key and no call of the host changes any of it afterwards.  A search
without a query is therefore the one that the settings start with.
-/

namespace Search

variable {search : Search} {caseSensitive usesPattern : Bool}

/-- Whether a search has the given flags and finds nothing without a query. -/
structure HasFlags (search : Search) (caseSensitive usesPattern : Bool) : Prop where
  isCaseSensitive : search.caseSensitive = caseSensitive
  readsPatterns : search.usesPattern = usesPattern
  found : search.query = [] → search.found = []

theorem hasFlags_ofOptions (caseSensitive usesPattern : Bool) :
    (ofOptions caseSensitive usesPattern).HasFlags caseSensitive usesPattern :=
  ⟨rfl, rfl, fun _ => rfl⟩

theorem HasFlags.setQuery (h : search.HasFlags caseSensitive usesPattern) (query text : Text) :
    (search.setQuery query text).HasFlags caseSensitive usesPattern :=
  ⟨h.isCaseSensitive, h.readsPatterns, fun hNone => run_of_query_eq_nil hNone text⟩

theorem HasFlags.refresh (h : search.HasFlags caseSensitive usesPattern) (text : Text) :
    (search.refresh text).HasFlags caseSensitive usesPattern := by
  unfold Search.refresh
  split
  · exact ⟨h.isCaseSensitive, h.readsPatterns, fun hNone => run_of_query_eq_nil hNone text⟩
  · exact h

theorem HasFlags.clear (h : search.HasFlags caseSensitive usesPattern) :
    search.clear.HasFlags caseSensitive usesPattern :=
  ⟨h.isCaseSensitive, h.readsPatterns, fun _ => rfl⟩

/-- Without a query a search is the one that its flags start with. -/
theorem HasFlags.eq_ofOptions (h : search.HasFlags caseSensitive usesPattern)
    (hActive : search.isActive = false) : search = ofOptions caseSensitive usesPattern := by
  have hQuery : search.query = [] := by simpa [isActive] using hActive
  have hFound := h.found hQuery
  obtain ⟨query, found, flag, reads⟩ := search
  simp only at hQuery hFound
  rw [ofOptions, ← h.isCaseSensitive, ← h.readsPatterns, hQuery, hFound]

end Search

namespace Session

variable {parser : Parser} {session : Session} {settings : Settings}

/-- Whether a session goes by some settings. -/
structure GoesBy (session : Session) (settings : Settings) : Prop where
  isConfigured : session.settings = settings
  capacity : session.history.capacity = max settings.historyCapacity 1
  search : session.search.HasFlags settings.searchCaseSensitive settings.searchUsesPattern

theorem goesBy_ofSettings (settings : Settings) (files : Files) :
    (ofSettings settings files).GoesBy settings :=
  ⟨rfl, rfl, Search.hasFlags_ofOptions _ _⟩

theorem GoesBy.load (h : session.GoesBy settings) (parser : Parser) (text : Text) :
    (session.load parser text).GoesBy settings :=
  ⟨h.isConfigured, h.capacity, h.search.refresh text⟩

theorem goesBy_created (parser : Parser) (settings : Settings) (files : Files)
    (content : Option Text) : (created parser settings files content).GoesBy settings := by
  cases content with
  | none => exact goesBy_ofSettings settings files
  | some text => exact (goesBy_ofSettings settings files).load parser text

/-! ## Keys -/

theorem GoesBy.noteChange (h : session.GoesBy settings) (now : Nat) :
    (session.noteChange now).GoesBy settings :=
  ⟨h.isConfigured, h.capacity, h.search.refresh session.text⟩

/-- A step in the history that keeps the capacity keeps everything else. -/
theorem GoesBy.travel (h : session.GoesBy settings) {step : History × Option Restoration}
    (hStep : step.1.capacity = session.history.capacity) :
    (session.travel step).1.GoesBy settings := by
  have hCapacity := hStep.trans h.capacity
  simp only [Session.travel, restore]
  split
  · exact ⟨h.isConfigured, hCapacity, h.search⟩
  · split
    · exact ⟨h.isConfigured, hCapacity, h.search⟩
    · exact ⟨h.isConfigured, hCapacity, h.search⟩

theorem GoesBy.travelByKey (h : session.GoesBy settings)
    {step : History → History × Option Restoration}
    (hStep : ∀ history, (step history).1.capacity = history.capacity) (now : Nat) :
    (session.travelByKey (travelBy step) now).GoesBy settings := by
  have hCommitted : ({ session with history := session.history.commit } : Session).GoesBy
      settings :=
    ⟨h.isConfigured, (History.commit_capacity _).trans h.capacity, h.search⟩
  have hTravelled := hCommitted.travel (hStep session.history.commit)
  simp only [Session.travelByKey]
  split
  · exact hTravelled.noteChange now
  · exact hTravelled

theorem GoesBy.runSearch (h : session.GoesBy settings) (pattern : Text) :
    (session.runSearch pattern).GoesBy settings := by
  have hSearch : (if pattern.isEmpty then session.search.refresh session.text
      else session.search.setQuery pattern session.text).HasFlags
        settings.searchCaseSensitive settings.searchUsesPattern := by
    split
    · exact h.search.refresh _
    · exact h.search.setQuery _ _
  simp only [Session.runSearch]
  split
  · exact ⟨h.isConfigured, h.capacity, hSearch⟩
  · exact ⟨h.isConfigured, h.capacity, hSearch⟩

theorem GoesBy.saveAs (h : session.GoesBy settings) {path : Path} {saved : Session}
    (hSaved : session.saveAs path = .ok saved) : saved.GoesBy settings := by
  obtain ⟨files, rfl⟩ := saveAs_eq hSaved
  exact ⟨h.isConfigured, h.capacity, h.search⟩

theorem GoesBy.save (h : session.GoesBy settings) {saved : Session}
    (hSaved : session.save = .ok saved) : saved.GoesBy settings := by
  obtain ⟨files, path, rfl⟩ := save_eq hSaved
  exact ⟨h.isConfigured, h.capacity, h.search⟩

theorem GoesBy.carryOut (h : session.GoesBy settings) (outcome : KeyOutcome) :
    (session.carryOut outcome).GoesBy settings := by
  cases outcome with
  | search pattern => exact h.runSearch pattern
  | exCommand command =>
      simp only [Session.carryOut, runCommand]
      split
      · split
        next saved hSaved => exact h.save hSaved
        next => exact h
      · exact ⟨h.isConfigured, h.capacity, h.search.clear⟩
      · exact h
  | _ => exact h

theorem GoesBy.recordChange (h : session.GoesBy settings) (before : Buffer) (now : Nat) :
    (session.recordChange before now).GoesBy settings := by
  unfold Session.recordChange
  split
  · exact h
  · exact ⟨h.isConfigured, h.capacity, h.search.refresh session.text⟩

theorem GoesBy.endCommand (h : session.GoesBy settings) : session.endCommand.GoesBy settings := by
  refine ⟨h.isConfigured, ?_, h.search⟩
  simp only [Session.endCommand]
  split
  · exact h.capacity
  · exact (History.commit_capacity _).trans h.capacity

theorem GoesBy.press (h : session.GoesBy settings) (key : Key) (now : Nat) :
    (session.press key now).1.GoesBy settings := by
  have hEngaged : (session.engage key now).GoesBy settings := ⟨h.isConfigured, h.capacity, h.search⟩
  cases hOutcome : session.outcomeOf key with
  | undo =>
      rw [press_of_undo hOutcome]
      exact hEngaged.travelByKey History.undo_capacity now
  | redo =>
      rw [press_of_redo hOutcome]
      exact hEngaged.travelByKey History.redo_capacity now
  | _ =>
      rw [press_of_isTravel_eq_false (by rw [hOutcome]; rfl)]
      exact ((hEngaged.carryOut _).recordChange _ now).endCommand

/-! ## Calls of the host -/

theorem GoesBy.act (h : session.GoesBy settings) (parser : Parser) (action : HostAction) :
    (session.act parser action).GoesBy settings := by
  cases action with
  | press key now => exact h.press key now
  | feed script now =>
      exact pressAll_induction (motive := fun next => next.GoesBy settings)
        (fun _ key hBefore => hBefore.press key now) h _
  | undo => exact h.travel (History.undo_capacity _)
  | redo => exact h.travel (History.redo_capacity _)
  | openFile path =>
      refine orElse_induction (motive := fun next => next.GoesBy settings) h
        fun opened hOpened => ?_
      obtain ⟨text, -, rfl⟩ := openFile_eq_ok hOpened
      exact ⟨h.isConfigured, h.capacity, h.search.refresh text⟩
  | save =>
      exact orElse_induction (motive := fun next => next.GoesBy settings) h
        fun _ hSaved => h.save hSaved
  | saveAs path =>
      exact orElse_induction (motive := fun next => next.GoesBy settings) h
        fun _ hSaved => h.saveAs hSaved
  | setLanguage | scroll | changeFiles => exact ⟨h.isConfigured, h.capacity, h.search⟩
  | tick now =>
      exact tick_induction (motive := fun next => next.GoesBy settings)
        (fun _ _ _ => ⟨h.isConfigured, h.capacity, h.search⟩) parser now
  | flush =>
      exact flush_induction (motive := fun next => next.GoesBy settings)
        (fun _ _ _ => ⟨h.isConfigured, h.capacity, h.search⟩) parser

theorem GoesBy.actAll (h : session.GoesBy settings) (parser : Parser)
    (actions : List HostAction) : (session.actAll parser actions).GoesBy settings :=
  actAll_induction (motive := fun next => next.GoesBy settings)
    (fun _ action hBefore => hBefore.act parser action) h actions

end Session

end ModalEditor
