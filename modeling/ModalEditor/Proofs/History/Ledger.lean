import ModalEditor.Proofs.History.Basic

namespace ModalEditor

/-!
# What a history keeps and what it forgets

A history has a capacity, an onlooker has not.  The ledger of the onlooker lists all
groups that were committed or done again since everything was last cleared and that were
not undone, and it remembers how many of them there were at most.  A history keeps the last
groups of that list.  It has forgotten as many of the first ones as there were too many at
the worst moment, and no more: undoing makes room, but what is forgotten stays so.

Undoing and doing again move a group from one stack to the other, and only a commit makes
the two stacks larger together.  As a commit also leaves nothing to be done again, it is
enough that it looks at one of them.
-/

/-- What is asked of a history.  Any splice can be recorded. -/
inductive HistoryRequest where
  | start (cursor : Position)
  | record (splice : Splice) (cursor : Position)
  | setCursorAfter (cursor : Position)
  | commit
  | clear
  | undo
  | redo
  deriving DecidableEq, Repr

/-- The history after a request, and what it hands out. -/
def History.serve (history : History) : HistoryRequest → History × Option Restoration
  | .start cursor => (history.start cursor, none)
  | .record splice cursor => (history.record splice cursor, none)
  | .setCursorAfter cursor => (history.setCursorAfter cursor, none)
  | .commit => (history.commit, none)
  | .clear => (history.clear, none)
  | .undo => history.undo
  | .redo => history.redo

/-- What an onlooker notes down of the requests to a history. -/
structure Ledger where
  /-- The groups with splices that were committed or done again and not undone, in the order
  in which that happened. -/
  kept : List EditGroup
  /-- The groups that can be done again, first the one that was undone last. -/
  undone : List EditGroup
  /-- The group that is being recorded. -/
  opened : Option EditGroup
  /-- How many groups were kept at most. -/
  peak : Nat
  deriving DecidableEq, Repr

namespace Ledger

/-- Nothing was noted since everything was cleared. -/
def empty : Ledger := ⟨[], [], none, 0⟩

/-- Notes that a group was committed or done again. -/
def add (ledger : Ledger) (group : EditGroup) : Ledger :=
  { ledger with
    kept := ledger.kept ++ [group]
    peak := max ledger.peak (ledger.kept.length + 1) }

/-- Notes that the group being recorded was committed, if there was one with splices. -/
def close (ledger : Ledger) : Ledger :=
  match ledger.opened with
  | none => ledger
  | some group =>
      if group.splices.isEmpty then { ledger with opened := none }
      else { ledger.add group with undone := [], opened := none }

/-- Notes that the last group was undone. -/
def stepBack (ledger : Ledger) : Ledger :=
  { ledger with
    kept := ledger.kept.dropLast
    undone := ledger.kept.getLast?.toList ++ ledger.undone }

/-- Notes that the group undone last was done again. -/
def stepOn (ledger : Ledger) : Ledger :=
  match ledger.undone with
  | [] => ledger
  | group :: later => { ledger.add group with undone := later }

/-- Notes a request.  All that has to be seen of the answer is whether something was handed
out. -/
def note (ledger : Ledger) (request : HistoryRequest) (answered : Bool) : Ledger :=
  match request with
  | .start cursor => { ledger.close with opened := some (EditGroup.startingAt cursor) }
  | .record splice cursor =>
      let group := ledger.opened.getD (EditGroup.startingAt cursor)
      { ledger with opened := some (group.push splice) }
  | .setCursorAfter cursor =>
      { ledger with opened := ledger.opened.map fun group =>
          { group with cursorAfter := cursor } }
  | .commit => ledger.close
  | .clear => empty
  | .undo => if answered then ledger.close.stepBack else ledger.close
  | .redo => if answered then ledger.stepOn else ledger

/-- By how many groups a capacity was exceeded at the worst moment. -/
def excess (ledger : Ledger) (capacity : Nat) : Nat :=
  ledger.peak - capacity

/-- The invariant: a history keeps what the ledger lists, without the groups by which its
capacity was exceeded.  These are still listed, since they cannot be undone. -/
structure Accounts (ledger : Ledger) (history : History) : Prop where
  opened : history.current = ledger.opened
  undone : history.redoStack = ledger.undone
  kept : history.undoStack.reverse = ledger.kept.drop (ledger.excess history.capacity)
  excess_le : ledger.excess history.capacity ≤ ledger.kept.length
  le_peak : ledger.kept.length + ledger.undone.length ≤ ledger.peak

variable {ledger : Ledger} {history : History}

/-- Of a history without groups there is nothing to note. -/
theorem accounts_empty (hCurrent : history.current = none) (hUndo : history.undoStack = [])
    (hRedo : history.redoStack = []) : empty.Accounts history :=
  ⟨hCurrent, hRedo, by simp [hUndo, empty], by simp [excess, empty], by simp [empty]⟩

/-- The group being recorded does not matter to what was committed. -/
theorem Accounts.setOpened (h : ledger.Accounts history) (group : Option EditGroup) :
    { ledger with opened := group }.Accounts { history with current := group } :=
  ⟨rfl, h.undone, h.kept, h.excess_le, h.le_peak⟩

theorem Accounts.length_undoStack (h : ledger.Accounts history) :
    history.undoStack.length = ledger.kept.length - ledger.excess history.capacity := by
  simpa using congrArg List.length h.kept

/-- Without recorded splices a commit only closes the group. -/
theorem close_of_isEmpty (h : ∀ group ∈ ledger.opened, group.splices = []) :
    ledger.close = { ledger with opened := none } := by
  obtain ⟨kept, undone, opened, peak⟩ := ledger
  cases opened with
  | none => rfl
  | some group => simp [close, h group rfl]

theorem close_of_opened {group : EditGroup} (hOpened : ledger.opened = some group)
    (h : group.splices ≠ []) :
    ledger.close = { ledger.add group with undone := [], opened := none } := by
  simp [close, hOpened, h]

/-- The last groups of a longer list are what is kept of it. -/
theorem Accounts.reverse_take_cons (h : ledger.Accounts history) (group : EditGroup) :
    ((group :: history.undoStack).take history.capacity).reverse =
      (ledger.add group).kept.drop ((ledger.add group).excess history.capacity) := by
  have hLength := h.length_undoStack
  have hExcess := h.excess_le
  have hPeak := h.le_peak
  have hCapacity := history.capacity_pos
  have hKept : (group :: history.undoStack).reverse =
      (ledger.add group).kept.drop (ledger.excess history.capacity) := by
    rw [List.reverse_cons, h.kept, add, List.drop_append_of_le_length hExcess]
  rw [List.reverse_take, hKept, List.drop_drop]
  congr 1
  simp only [excess, add, List.length_cons] at *
  omega

theorem Accounts.commit (h : ledger.Accounts history) :
    ledger.close.Accounts history.commit := by
  by_cases hOpen : history.openSplices = []
  · -- Both only close the group.
    obtain ⟨hUndo, hRedo⟩ := History.commit_stacks_of_openSplices_eq_nil hOpen
    have hEmpty : ∀ group ∈ ledger.opened, group.splices = [] := by
      intro group hGroup
      rw [← h.opened, Option.mem_def] at hGroup
      simpa [History.openSplices, hGroup] using hOpen
    rw [close_of_isEmpty hEmpty]
    refine ⟨History.commit_current history, hRedo.trans h.undone, ?_, ?_, h.le_peak⟩
    · rw [hUndo, History.commit_capacity]
      exact h.kept
    · rw [History.commit_capacity]
      exact h.excess_le
  · obtain ⟨group, hCurrent, hSplices⟩ := History.exists_current_of_openSplices_ne_nil hOpen
    have hGroup : group.splices ≠ [] := hSplices ▸ hOpen
    obtain ⟨hUndo, hRedo⟩ := History.commit_stacks_of_current hCurrent hGroup
    rw [close_of_opened (h.opened ▸ hCurrent) hGroup]
    refine ⟨History.commit_current history, hRedo, ?_, ?_, ?_⟩
    · rw [hUndo, History.commit_capacity]
      exact h.reverse_take_cons group
    · have hExcess := h.excess_le
      have hCapacity := history.capacity_pos
      simp only [excess, add, List.length_append, List.length_singleton,
        History.commit_capacity] at *
      omega
    · simp only [add, List.length_append, List.length_singleton, List.length_nil]
      omega

/-- The group that can be undone is the last one listed. -/
theorem Accounts.stepBack {group : EditGroup} {older : List EditGroup}
    (h : ledger.Accounts history) (hStack : history.undoStack = group :: older) :
    ledger.stepBack.Accounts
      { history with undoStack := older, redoStack := group :: history.redoStack } := by
  have hKept := h.kept
  have hLength := h.length_undoStack
  have hPeak := h.le_peak
  rw [hStack, List.reverse_cons] at hKept
  rw [hStack, List.length_cons] at hLength
  have hLast : ledger.kept.getLast? = some group := by
    have hDrop := congrArg List.getLast? hKept
    rw [List.getLast?_concat, List.getLast?_drop, if_neg (by omega)] at hDrop
    exact hDrop.symm
  obtain ⟨before, hBefore⟩ := List.getLast?_eq_some_iff.mp hLast
  have hStep : ledger.stepBack =
      { ledger with kept := before, undone := group :: ledger.undone } := by
    simp [Ledger.stepBack, hBefore]
  rw [hBefore, List.length_append, List.length_singleton] at hLength hPeak
  rw [hBefore, List.drop_append_of_le_length (by omega)] at hKept
  rw [hStep]
  refine ⟨h.opened, congrArg (group :: ·) h.undone, List.append_cancel_right hKept, ?_, ?_⟩
  · show ledger.excess history.capacity ≤ before.length
    omega
  · simp only [List.length_cons]
    omega

theorem Accounts.stepOn {group : EditGroup} {later : List EditGroup}
    (h : ledger.Accounts history) (hStack : history.redoStack = group :: later) :
    ledger.stepOn.Accounts
      { history with undoStack := group :: history.undoStack, redoStack := later } := by
  have hUndone := h.undone.symm.trans hStack
  have hExcess := h.excess_le
  have hPeak := h.le_peak
  rw [hUndone, List.length_cons] at hPeak
  -- There were as many groups before the group was undone.
  have hSame : max ledger.peak (ledger.kept.length + 1) = ledger.peak := by
    omega
  have hStep : ledger.stepOn =
      { ledger with kept := ledger.kept ++ [group], undone := later } := by
    simp only [Ledger.stepOn, hUndone, add, hSame]
  rw [hStep]
  refine ⟨h.opened, rfl, ?_, ?_, ?_⟩
  · show (group :: history.undoStack).reverse =
      (ledger.kept ++ [group]).drop (ledger.excess history.capacity)
    rw [List.reverse_cons, h.kept, List.drop_append_of_le_length hExcess]
  · show ledger.excess history.capacity ≤ (ledger.kept ++ [group]).length
    rw [List.length_append]
    omega
  · simp only [List.length_append, List.length_singleton]
    omega

/-- Every request keeps the ledger in accordance with the history. -/
theorem Accounts.serve (h : ledger.Accounts history) (request : HistoryRequest) :
    (ledger.note request (history.serve request).2.isSome).Accounts
      (history.serve request).1 := by
  cases request with
  | start cursor => exact h.commit.setOpened _
  | record splice cursor =>
      have hGroup : ledger.opened.getD (EditGroup.startingAt cursor) =
          history.current.getD (EditGroup.startingAt cursor) := by
        rw [h.opened]
      simp only [note, hGroup]
      exact h.setOpened _
  | setCursorAfter cursor =>
      simp only [note, ← h.opened]
      exact h.setOpened _
  | commit => exact h.commit
  | clear => exact accounts_empty rfl rfl rfl
  | undo =>
      show (ledger.note .undo history.undo.2.isSome).Accounts history.undo.1
      cases hStack : history.commit.undoStack with
      | nil =>
          rw [History.undo_eq_of_commit_undoStack_eq_nil hStack]
          exact h.commit
      | cons group older =>
          rw [History.undo_eq_of_commit_undoStack_eq_cons hStack]
          exact h.commit.stepBack hStack
  | redo =>
      show (ledger.note .redo history.redo.2.isSome).Accounts history.redo.1
      cases hStack : history.redoStack with
      | nil =>
          rw [History.redo_eq_of_redoStack_eq_nil hStack]
          exact h
      | cons group later =>
          rw [History.redo_eq_of_redoStack_eq_cons hStack]
          exact h.stepOn hStack

/-- What the ledger accounts for has room in the history. -/
theorem Accounts.length_le (h : ledger.Accounts history) :
    history.undoStack.length + history.redoStack.length ≤ history.capacity := by
  have hExcess := h.excess_le
  have hPeak := h.le_peak
  rw [h.length_undoStack, h.undone]
  unfold excess at hExcess ⊢
  omega

end Ledger

/-- A history and the ledger of its requests. -/
structure BookedHistory where
  history : History
  ledger : Ledger

namespace BookedHistory

def ofCapacity (capacity : Nat) : BookedHistory := ⟨History.ofCapacity capacity, Ledger.empty⟩

/-- Serves a request and notes it down. -/
def serve (booked : BookedHistory) (request : HistoryRequest) : BookedHistory where
  history := (booked.history.serve request).1
  ledger := booked.ledger.note request (booked.history.serve request).2.isSome

/-- Requests in order. -/
def run (booked : BookedHistory) (requests : List HistoryRequest) : BookedHistory :=
  requests.foldl serve booked

@[simp]
theorem serve_capacity (booked : BookedHistory) (request : HistoryRequest) :
    (booked.serve request).history.capacity = booked.history.capacity := by
  cases request with
  | start cursor => exact History.commit_capacity booked.history
  | commit => exact History.commit_capacity booked.history
  | undo => exact History.undo_capacity booked.history
  | redo => exact History.redo_capacity booked.history
  | _ => rfl

theorem accounts_run {booked : BookedHistory} (h : booked.ledger.Accounts booked.history)
    (requests : List HistoryRequest) :
    (booked.run requests).ledger.Accounts (booked.run requests).history ∧
      (booked.run requests).history.capacity = booked.history.capacity := by
  induction requests generalizing booked with
  | nil => exact ⟨h, rfl⟩
  | cons request requests ih =>
      have hNext : (booked.serve request).ledger.Accounts (booked.serve request).history :=
        h.serve request
      obtain ⟨hRun, hCapacity⟩ := ih hNext
      exact ⟨hRun, hCapacity.trans (serve_capacity booked request)⟩

/-- After any requests both stacks together have at most as many groups as the capacity
allows.  The groups that can be undone are the last ones of those that were committed or done
again and not undone.  The first ones are missing, as many as there were too many at the worst
moment, and what was undone since the last commit is all there. -/
theorem history_keeps_latest_groups (capacity : Nat) (requests : List HistoryRequest) :
    let booked := (ofCapacity capacity).run requests
    booked.history.undoStack.length + booked.history.redoStack.length ≤ max capacity 1 ∧
      booked.history.undoStack.reverse <:+ booked.ledger.kept ∧
      booked.history.undoStack.reverse =
        booked.ledger.kept.drop (booked.ledger.peak - max capacity 1) ∧
      booked.history.redoStack = booked.ledger.undone := by
  intro booked
  have hStart : (ofCapacity capacity).ledger.Accounts (ofCapacity capacity).history :=
    Ledger.accounts_empty rfl rfl rfl
  obtain ⟨hAccounts, hCapacity⟩ := accounts_run hStart requests
  have hLimit : booked.history.capacity = max capacity 1 := hCapacity
  have hKept := hAccounts.kept
  have hLength := hAccounts.length_le
  rw [Ledger.excess, hLimit] at hKept
  rw [hLimit] at hLength
  exact ⟨hLength, hKept ▸ List.drop_suffix _ _, hKept, hAccounts.undone⟩

end BookedHistory

end ModalEditor
