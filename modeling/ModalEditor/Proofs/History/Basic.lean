import ModalEditor.History
import ModalEditor.Proofs.Text.Splice

namespace ModalEditor

/-!
# Groups and the operations of a history

A group leads from one text to another when its splices do.  The lemmas on
operations say what each of them leaves of the stacks and of the open group, so
that nothing further has to look into their definitions.
-/

namespace EditGroup

/-- Whether the splices of a group turn one text into another. -/
def Leads (group : EditGroup) (old new : Text) : Prop :=
  Splice.applyAll old group.splices = some new

/-- One more splice leads on from where the group led. -/
theorem Leads.push {group : EditGroup} {old middle new : Text} {splice : Splice}
    (h : group.Leads old middle) (hSplice : splice.apply middle = some new) :
    (group.push splice).Leads old new := by
  rw [Leads, EditGroup.push, Splice.applyAll_append, h, Option.bind_some]
  exact (Splice.applyAll_singleton middle splice).trans hSplice

theorem leads_startingAt (cursor : Position) (text : Text) :
    (startingAt cursor).Leads text text := rfl

theorem push_splices_ne_nil (group : EditGroup) (splice : Splice) :
    (group.push splice).splices ≠ [] := by
  simp [push]

/-- The inverses in reverse order lead back. -/
theorem Leads.back {group : EditGroup} {old new : Text} (h : group.Leads old new) :
    Splice.applyAll new (group.splices.reverse.map Splice.inverse) = some old :=
  Splice.applyAll_reverse_inverse h

end EditGroup

namespace History

/-- The splices recorded and not yet committed. -/
def openSplices (history : History) : List Splice :=
  history.current.elim [] (·.splices)

/-- The group that is being recorded, or the one that a splice would start. -/
def openGroup (history : History) (cursor : Position) : EditGroup :=
  history.current.getD (EditGroup.startingAt cursor)

@[simp]
theorem openGroup_splices (history : History) (cursor : Position) :
    (history.openGroup cursor).splices = history.openSplices := by
  cases h : history.current <;> simp [openGroup, openSplices, h, EditGroup.startingAt]

@[simp]
theorem record_current (history : History) (splice : Splice) (cursor : Position) :
    (history.record splice cursor).current =
      some ((history.openGroup cursor).push splice) := rfl

@[simp]
theorem record_openSplices (history : History) (splice : Splice) (cursor : Position) :
    (history.record splice cursor).openSplices = history.openSplices ++ [splice] := by
  simp [openSplices, EditGroup.push]

@[simp]
theorem setCursorAfter_openSplices (history : History) (cursor : Position) :
    (history.setCursorAfter cursor).openSplices = history.openSplices := by
  cases h : history.current <;> simp [setCursorAfter, openSplices, h]

@[simp]
theorem commit_current (history : History) : history.commit.current = none := by
  rw [commit]
  split
  next h => exact h
  next => split <;> rfl

@[simp]
theorem commit_capacity (history : History) : history.commit.capacity = history.capacity := by
  rw [commit]
  split
  · rfl
  · split <;> rfl

@[simp]
theorem undo_capacity (history : History) : history.undo.1.capacity = history.capacity := by
  simp only [undo]
  split <;> exact commit_capacity history

@[simp]
theorem redo_capacity (history : History) : history.redo.1.capacity = history.capacity := by
  simp only [redo]
  split <;> rfl

/-- A history that forgets everything starts again. -/
theorem clear_eq_ofCapacity {history : History} {capacity : Nat}
    (h : history.capacity = max capacity 1) : history.clear = ofCapacity capacity := by
  obtain ⟨undoStack, redoStack, current, limit, hPos⟩ := history
  obtain rfl : limit = max capacity 1 := h
  rfl

@[simp]
theorem commit_openSplices (history : History) : history.commit.openSplices = [] := by
  simp [openSplices]

theorem commit_of_current_eq_none {history : History} (h : history.current = none) :
    history.commit = history := by
  rw [commit, h]

/-- Without recorded splices a commit leaves the stacks alone. -/
theorem commit_stacks_of_openSplices_eq_nil {history : History}
    (h : history.openSplices = []) :
    history.commit.undoStack = history.undoStack ∧
      history.commit.redoStack = history.redoStack := by
  rw [commit]
  split
  next => exact ⟨rfl, rfl⟩
  next group hCurrent =>
    have hEmpty : group.splices.isEmpty = true := by
      simpa [openSplices, hCurrent] using h
    rw [if_pos hEmpty]
    exact ⟨rfl, rfl⟩

/-- A group with splices goes on the stack, and nothing can be done again. -/
theorem commit_stacks_of_current {history : History} {group : EditGroup}
    (hCurrent : history.current = some group) (h : group.splices ≠ []) :
    history.commit.undoStack = (group :: history.undoStack).take history.capacity ∧
      history.commit.redoStack = [] := by
  have hEmpty : group.splices.isEmpty ≠ true := by
    simpa using h
  simp [commit, hCurrent, hEmpty]

/-- Recorded splices belong to an open group. -/
theorem exists_current_of_openSplices_ne_nil {history : History}
    (h : history.openSplices ≠ []) :
    ∃ group, history.current = some group ∧ group.splices = history.openSplices := by
  cases hCurrent : history.current with
  | none => simp [openSplices, hCurrent] at h
  | some group => exact ⟨group, rfl, by simp [openSplices, hCurrent]⟩

/-- What undoing gives back is decided by the last group of the committed
history. -/
theorem undo_eq_of_commit_undoStack_eq_nil {history : History}
    (h : history.commit.undoStack = []) : history.undo = (history.commit, none) := by
  simp [undo, h]

theorem undo_eq_of_commit_undoStack_eq_cons {history : History} {group : EditGroup}
    {older : List EditGroup} (h : history.commit.undoStack = group :: older) :
    history.undo =
      ({ history.commit with
          undoStack := older, redoStack := group :: history.commit.redoStack },
        some ⟨group.splices.reverse.map Splice.inverse, group.cursorBefore⟩) := by
  simp [undo, h]

theorem redo_eq_of_redoStack_eq_nil {history : History} (h : history.redoStack = []) :
    history.redo = (history, none) := by
  simp [redo, h]

theorem redo_eq_of_redoStack_eq_cons {history : History} {group : EditGroup}
    {later : List EditGroup} (h : history.redoStack = group :: later) :
    history.redo =
      ({ history with undoStack := group :: history.undoStack, redoStack := later },
        some ⟨group.splices, group.cursorAfter⟩) := by
  simp [redo, h]

theorem canRedo_iff {history : History} : history.canRedo = true ↔ history.redoStack ≠ [] := by
  simp [canRedo]

end History

end ModalEditor
