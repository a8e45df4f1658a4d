import ModalEditor.Proofs.History.Restoration

namespace ModalEditor

/-!
# Texts and the histories that are told of their changes

A tracked text is changed by its owner, who records each change, and by what its
history hands out.  The calls come in any order, whether or not a group is open.

What is handed out always fits unless redoing was called while a change was
recorded and not committed.  At that moment the history still offers what was
undone before the change.
-/

/-- What the owner of a text asks of its history. -/
inductive HistoryCall where
  | start (cursor : Position)
  /-- The text becomes another one, and the splice between them is recorded. -/
  | record (new : Text) (cursor : Position)
  | setCursorAfter (cursor : Position)
  | commit
  | clear
  | undo
  | redo
  deriving DecidableEq, Repr

/-- A text and its history. -/
structure TrackedText where
  history : History
  text : Text
  /-- Whether a change was recorded since something was last undone. -/
  changedSinceUndo : Bool

namespace TrackedText

/-- A text of which nothing is recorded. -/
def ofCapacity (capacity : Nat) (text : Text) : TrackedText :=
  ⟨History.ofCapacity capacity, text, false⟩

/-- Whether what the history offers applies to the text. -/
def accepts (tracked : TrackedText) (offer : Option Restoration) : Bool :=
  offer.all fun restoration => (Splice.applyAll tracked.text restoration.splices).isSome

/-- The text after what the history handed out.  What does not fit changes
nothing. -/
def restored (tracked : TrackedText) (restoration : Restoration) : Text :=
  (Splice.applyAll tracked.text restoration.splices).getD tracked.text

/-- Changes the text and records how. -/
def change (tracked : TrackedText) (new : Text) (cursor : Position) : TrackedText :=
  match Splice.between tracked.text new with
  | none => tracked
  | some splice => ⟨tracked.history.record splice cursor, new, true⟩

/-- Undoes and applies what is handed out. -/
def undo (tracked : TrackedText) : TrackedText :=
  match tracked.history.undo with
  | (history, none) => { tracked with history }
  | (history, some restoration) => ⟨history, tracked.restored restoration, false⟩

/-- Redoes and applies what is handed out. -/
def redo (tracked : TrackedText) : TrackedText :=
  match tracked.history.redo with
  | (history, none) => { tracked with history }
  | (history, some restoration) =>
      { tracked with history, text := tracked.restored restoration }

/-- One call. -/
def call (tracked : TrackedText) : HistoryCall → TrackedText
  | .start cursor => { tracked with history := tracked.history.start cursor }
  | .record new cursor => tracked.change new cursor
  | .setCursorAfter cursor => { tracked with history := tracked.history.setCursorAfter cursor }
  | .commit => { tracked with history := tracked.history.commit }
  | .clear => { tracked with history := tracked.history.clear }
  | .undo => tracked.undo
  | .redo => tracked.redo

/-- Calls in order. -/
def run (tracked : TrackedText) (calls : List HistoryCall) : TrackedText :=
  calls.foldl call tracked

/-- Whether nothing waits to be committed, or nothing can be done again. -/
def RedoIsSafe (tracked : TrackedText) : Prop :=
  tracked.history.openSplices = [] ∨ tracked.history.canRedo = false

/-- A step of a run is a call. -/
theorem run_take_succ (tracked : TrackedText) {calls : List HistoryCall} {n : Nat}
    {next : HistoryCall} (h : calls[n]? = some next) :
    tracked.run (calls.take (n + 1)) = (tracked.run (calls.take n)).call next := by
  rw [run, run, List.take_add_one, h, Option.toList_some, List.foldl_append]
  rfl

theorem run_take_succ_of_none (tracked : TrackedText) {calls : List HistoryCall} {n : Nat}
    (h : calls[n]? = none) :
    tracked.run (calls.take (n + 1)) = tracked.run (calls.take n) := by
  rw [List.take_add_one, h, Option.toList_none, List.append_nil]

/-! ## What is handed out fits -/

theorem accepts_undo {tracked : TrackedText} (h : tracked.history.Fits tracked.text) :
    tracked.accepts tracked.history.undo.2 = true := by
  rcases hUndo : tracked.history.undo with ⟨after, offer⟩
  cases offer with
  | none => rfl
  | some restoration =>
      obtain ⟨earlier, hApply, -⟩ := h.undo hUndo
      simp [accepts, hApply]

theorem accepts_redo {tracked : TrackedText} (h : tracked.history.Fits tracked.text)
    (hSafe : tracked.RedoIsSafe) : tracked.accepts tracked.history.redo.2 = true := by
  rcases hRedo : tracked.history.redo with ⟨after, offer⟩
  cases offer with
  | none => rfl
  | some restoration =>
      rcases hSafe with hOpen | hNone
      · obtain ⟨next, hApply, -⟩ := h.redo hOpen hRedo
        simp [accepts, hApply]
      · have hStack : tracked.history.redoStack = [] := by
          simpa [History.canRedo] using hNone
        rw [History.redo_eq_of_redoStack_eq_nil hStack] at hRedo
        cases hRedo

theorem fits_change {tracked : TrackedText} (h : tracked.history.Fits tracked.text)
    (new : Text) (cursor : Position) :
    (tracked.change new cursor).history.Fits (tracked.change new cursor).text := by
  rw [change]
  cases hBetween : Splice.between tracked.text new with
  | none => exact h
  | some splice => exact h.record (Splice.apply_between hBetween) cursor

theorem fits_undo {tracked : TrackedText} (h : tracked.history.Fits tracked.text) :
    tracked.undo.history.Fits tracked.undo.text := by
  rw [undo]
  rcases hUndo : tracked.history.undo with ⟨after, offer⟩
  cases offer with
  | none =>
      -- Even with nothing to undo, what was recorded is committed.
      have hAfter : after = tracked.history.commit := by
        cases hStack : tracked.history.commit.undoStack with
        | nil =>
            rw [History.undo_eq_of_commit_undoStack_eq_nil hStack] at hUndo
            exact (congrArg Prod.fst hUndo).symm
        | cons group older =>
            rw [History.undo_eq_of_commit_undoStack_eq_cons hStack] at hUndo
            cases congrArg Prod.snd hUndo
      exact ⟨tracked.text, hAfter ▸ h.commit⟩
  | some restoration =>
      obtain ⟨earlier, hApply, hFits⟩ := h.undo hUndo
      simpa [restored, hApply] using hFits

theorem fits_redo {tracked : TrackedText} (h : tracked.history.Fits tracked.text)
    (hSafe : tracked.RedoIsSafe) : tracked.redo.history.Fits tracked.redo.text := by
  rw [redo]
  by_cases hStack : tracked.history.redoStack = []
  · rw [History.redo_eq_of_redoStack_eq_nil hStack]
    exact h
  · have hOpen : tracked.history.openSplices = [] := by
      rcases hSafe with hOpen | hNone
      · exact hOpen
      · exact absurd (by simpa [History.canRedo] using hNone) hStack
    rcases hRedo : tracked.history.redo with ⟨after, offer⟩
    cases offer with
    | none =>
        obtain ⟨group, later, hCons⟩ := List.exists_cons_of_ne_nil hStack
        rw [History.redo_eq_of_redoStack_eq_cons hCons] at hRedo
        cases congrArg Prod.snd hRedo
    | some restoration =>
        obtain ⟨next, hApply, hFits⟩ := h.redo hOpen hRedo
        simpa [restored, hApply] using hFits

/-- Every call keeps the history in step with the text, a redo if it is safe. -/
theorem fits_call {tracked : TrackedText} (h : tracked.history.Fits tracked.text)
    {next : HistoryCall} (hSafe : next = .redo → tracked.RedoIsSafe) :
    (tracked.call next).history.Fits (tracked.call next).text := by
  cases next with
  | start cursor => exact h.start cursor
  | record new cursor => exact fits_change h new cursor
  | setCursorAfter cursor => exact h.setCursorAfter cursor
  | commit => exact ⟨tracked.text, h.commit⟩
  | clear => exact History.fits_clear tracked.history tracked.text
  | undo => exact fits_undo h
  | redo => exact fits_redo h (hSafe rfl)

/-- In a run whose redos are safe the history stays in step with the text. -/
theorem fits_run {tracked : TrackedText} (h : tracked.history.Fits tracked.text)
    {calls : List HistoryCall}
    (hSafe : ∀ n, calls[n]? = some .redo → (tracked.run (calls.take n)).RedoIsSafe)
    (n : Nat) :
    (tracked.run (calls.take n)).history.Fits (tracked.run (calls.take n)).text := by
  induction n with
  | zero => exact h
  | succ n ih =>
      cases hNext : calls[n]? with
      | none =>
          rw [run_take_succ_of_none tracked hNext]
          exact ih
      | some next =>
          rw [run_take_succ tracked hNext]
          refine fits_call ih ?_
          rintro rfl
          exact hSafe n hNext

/-! ## When a redo is offered after a new change -/

/-- Between the last undoing and now a change was recorded if one waits to be
committed, and one that does not wait has left nothing to be done again. -/
structure RedoBookkeeping (tracked : TrackedText) : Prop where
  changed_of_open : tracked.history.openSplices ≠ [] → tracked.changedSinceUndo = true
  open_of_changed : tracked.changedSinceUndo = true → tracked.history.canRedo = true →
    tracked.history.openSplices ≠ []

theorem redoBookkeeping_commit {tracked : TrackedText} (h : tracked.RedoBookkeeping) :
    tracked.changedSinceUndo = true → tracked.history.commit.canRedo = false := by
  intro hChanged
  by_cases hOpen : tracked.history.openSplices = []
  · have hRedo := (History.commit_stacks_of_openSplices_eq_nil hOpen).2
    have hNone : tracked.history.canRedo = false :=
      Bool.eq_false_iff.mpr fun hCan => h.open_of_changed hChanged hCan hOpen
    rw [History.canRedo, hRedo]
    exact hNone
  · obtain ⟨group, hCurrent, hSplices⟩ := History.exists_current_of_openSplices_ne_nil hOpen
    have hRedo := (History.commit_stacks_of_current hCurrent (hSplices ▸ hOpen)).2
    simp [History.canRedo, hRedo]

/-- A history that committed keeps the books, with any group without splices
open. -/
theorem redoBookkeeping_of_commit {tracked after : TrackedText} (h : tracked.RedoBookkeeping)
    (hOpen : after.history.openSplices = [])
    (hRedo : after.history.redoStack = tracked.history.commit.redoStack)
    (hChanged : after.changedSinceUndo = tracked.changedSinceUndo) :
    after.RedoBookkeeping := by
  refine ⟨fun hSome => absurd hOpen hSome, ?_⟩
  intro hSince hCan
  have hNone := redoBookkeeping_commit h (hChanged ▸ hSince)
  rw [History.canRedo, hRedo] at hCan
  rw [History.canRedo, hCan] at hNone
  cases hNone

theorem redoBookkeeping_undo {tracked : TrackedText} (h : tracked.RedoBookkeeping) :
    tracked.undo.RedoBookkeeping := by
  rw [undo]
  cases hStack : tracked.history.commit.undoStack with
  | nil =>
      rw [History.undo_eq_of_commit_undoStack_eq_nil hStack]
      exact redoBookkeeping_of_commit h (History.commit_openSplices _) rfl rfl
  | cons group older =>
      rw [History.undo_eq_of_commit_undoStack_eq_cons hStack]
      refine ⟨fun hSome => absurd ?_ hSome, fun hSince => by cases hSince⟩
      exact History.commit_openSplices tracked.history

theorem redoBookkeeping_redo {tracked : TrackedText} (h : tracked.RedoBookkeeping) :
    tracked.redo.RedoBookkeeping := by
  rw [redo]
  cases hStack : tracked.history.redoStack with
  | nil =>
      rw [History.redo_eq_of_redoStack_eq_nil hStack]
      exact h
  | cons group later =>
      rw [History.redo_eq_of_redoStack_eq_cons hStack]
      refine ⟨h.changed_of_open, fun hSince _ => h.open_of_changed hSince ?_⟩
      exact History.canRedo_iff.mpr (by simp [hStack])

theorem redoBookkeeping_call {tracked : TrackedText} (h : tracked.RedoBookkeeping)
    (next : HistoryCall) : (tracked.call next).RedoBookkeeping := by
  cases next with
  | start cursor => exact redoBookkeeping_of_commit h rfl rfl rfl
  | record new cursor =>
      show (tracked.change new cursor).RedoBookkeeping
      rw [change]
      cases Splice.between tracked.text new with
      | none => exact h
      | some splice =>
          refine ⟨fun _ => rfl, fun _ _ => ?_⟩
          simp [History.record_openSplices]
  | setCursorAfter cursor =>
      have hSame := History.setCursorAfter_openSplices tracked.history cursor
      exact ⟨fun hOpen => h.changed_of_open (hSame ▸ hOpen),
        fun hSince hCan => hSame.symm ▸ h.open_of_changed hSince hCan⟩
  | commit => exact redoBookkeeping_of_commit h (History.commit_openSplices _) rfl rfl
  | clear => exact ⟨fun hOpen => absurd rfl hOpen, fun _ hCan => by cases hCan⟩
  | undo => exact redoBookkeeping_undo h
  | redo => exact redoBookkeeping_redo h

theorem redoBookkeeping_run (capacity : Nat) (text : Text) (calls : List HistoryCall) :
    ((ofCapacity capacity text).run calls).RedoBookkeeping := by
  have hStep : ∀ (calls : List HistoryCall) (tracked : TrackedText),
      tracked.RedoBookkeeping → (tracked.run calls).RedoBookkeeping := by
    intro calls
    induction calls with
    | nil => exact fun _ h => h
    | cons next calls ih =>
        intro tracked h
        exact ih (tracked.call next) (redoBookkeeping_call h next)
  exact hStep calls _ ⟨fun hOpen => absurd rfl hOpen, fun _ hCan => by cases hCan⟩

/-- After a new change a redo is offered exactly while the change waits to be
committed. -/
theorem redoIsSafe_iff {tracked : TrackedText} (h : tracked.RedoBookkeeping) :
    tracked.RedoIsSafe ↔
      (tracked.changedSinceUndo = true → tracked.history.canRedo = false) := by
  constructor
  · rintro (hOpen | hNone) hSince
    · exact Bool.eq_false_iff.mpr fun hCan => h.open_of_changed hSince hCan hOpen
    · exact hNone
  · intro hOffer
    by_cases hOpen : tracked.history.openSplices = []
    · exact Or.inl hOpen
    · exact Or.inr (hOffer (h.changed_of_open hOpen))

/-- In every state of a run all that can be handed out fits, and nothing is
offered to be done again after a new change, exactly if no change ever waits to
be committed while something can be done again.  All that is handed out in the
run fits already if redoing is called in no such state. -/
theorem restorations_fit_iff_redoIsSafe (capacity : Nat) (text : Text)
    (calls : List HistoryCall) :
    ((∀ n, let tracked := (ofCapacity capacity text).run (calls.take n)
          tracked.accepts tracked.history.undo.2 = true ∧
            tracked.accepts tracked.history.redo.2 = true ∧
            (tracked.changedSinceUndo = true → tracked.history.canRedo = false)) ↔
        ∀ n, ((ofCapacity capacity text).run (calls.take n)).RedoIsSafe) ∧
      ((∀ n, calls[n]? = some .redo →
            ((ofCapacity capacity text).run (calls.take n)).RedoIsSafe) →
        ∀ n, let tracked := (ofCapacity capacity text).run (calls.take n)
          tracked.accepts tracked.history.undo.2 = true ∧
            (calls[n]? = some .redo → tracked.accepts tracked.history.redo.2 = true)) := by
  have hStart : (ofCapacity capacity text).history.Fits (ofCapacity capacity text).text :=
    History.fits_ofCapacity capacity text
  have hBooks (n : Nat) := redoBookkeeping_run capacity text (calls.take n)
  refine ⟨⟨fun hSound n => ?_, fun hSafe n => ?_⟩, fun hSafe n => ?_⟩
  · exact (redoIsSafe_iff (hBooks n)).mpr (hSound n).2.2
  · have hFits := fits_run hStart (fun n _ => hSafe n) n
    exact ⟨accepts_undo hFits, accepts_redo hFits (hSafe n),
      (redoIsSafe_iff (hBooks n)).mp (hSafe n)⟩
  · have hFits := fits_run hStart hSafe n
    exact ⟨accepts_undo hFits, fun hCall => accepts_redo hFits (hSafe n hCall)⟩

/-- A change recorded after undoing and not committed: what was undone is still
offered, and does not fit. -/
theorem redo_after_open_change_does_not_fit :
    let tracked := (ofCapacity 1000 ['x']).run
      [.record [] Position.origin, .commit, .undo, .record ['y'] Position.origin]
    tracked.changedSinceUndo = true ∧ tracked.history.canRedo = true ∧
      tracked.accepts tracked.history.redo.2 = false := by
  decide

end TrackedText

end ModalEditor
