import ModalEditor.Proofs.History.Basic

namespace ModalEditor

/-!
# What a history hands out

An owner of a text records its changes and applies what undoing and redoing
hand out.  The invariant says that the group being recorded leads from some text
to the present one, and that from that text the stacks lead back and on.  Every
operation keeps it, except for redoing while recorded splices are not yet
committed: these do not take away what can be done again, so that it is handed
out for another text than the one it was recorded for.
-/

namespace History

/-- Whether the groups of a stack lead back from a text, one after another. -/
def LeadBack : List EditGroup → Text → Prop
  | [], _ => True
  | group :: older, text => ∃ earlier, group.Leads earlier text ∧ LeadBack older earlier

/-- Whether the groups of a stack lead on from a text, one after another. -/
def LeadOn : List EditGroup → Text → Prop
  | [], _ => True
  | group :: later, text => ∃ next, group.Leads text next ∧ LeadOn later next

theorem LeadBack.take {stack : List EditGroup} {text : Text} (h : LeadBack stack text)
    (count : Nat) : LeadBack (stack.take count) text := by
  induction stack generalizing text count with
  | nil => simpa using h
  | cons group older ih =>
      cases count with
      | zero => trivial
      | succ count =>
          obtain ⟨earlier, hGroup, hOlder⟩ := h
          exact ⟨earlier, hGroup, ih hOlder count⟩

/-- The invariant: the stacks belong to the text `base`, from which the splices
that are not committed lead to the present one. -/
structure FitsFrom (history : History) (base text : Text) : Prop where
  opened : Splice.applyAll base history.openSplices = some text
  back : LeadBack history.undoStack base
  on : LeadOn history.redoStack base

/-- Whether a history belongs to a text. -/
def Fits (history : History) (text : Text) : Prop :=
  ∃ base, history.FitsFrom base text

theorem fits_ofCapacity (capacity : Nat) (text : Text) : (ofCapacity capacity).Fits text :=
  ⟨text, rfl, trivial, trivial⟩

/-- Without splices to commit, the stacks belong to the present text. -/
theorem FitsFrom.base_eq {history : History} {base text : Text}
    (h : history.FitsFrom base text) (hOpen : history.openSplices = []) : base = text := by
  have hApply := h.opened
  rw [hOpen] at hApply
  exact Option.some.inj hApply

/-- A commit moves the open group to the stack, so that the stacks belong to the
present text. -/
theorem Fits.commit {history : History} {text : Text} (h : history.Fits text) :
    history.commit.FitsFrom text text := by
  obtain ⟨base, hFrom⟩ := h
  -- Without splices the base is the present text already, otherwise the open
  -- group leads there and comes to lie on top of the stack.
  by_cases hOpen : history.openSplices = []
  · obtain ⟨hUndo, hRedo⟩ := commit_stacks_of_openSplices_eq_nil hOpen
    have hBase := hFrom.base_eq hOpen
    subst hBase
    exact ⟨by rw [commit_openSplices]; rfl, hUndo ▸ hFrom.back, hRedo ▸ hFrom.on⟩
  · obtain ⟨group, hCurrent, hSplices⟩ := exists_current_of_openSplices_ne_nil hOpen
    obtain ⟨hUndo, hRedo⟩ := commit_stacks_of_current hCurrent (hSplices ▸ hOpen)
    have hGroup : group.Leads base text := by
      rw [EditGroup.Leads, hSplices]
      exact hFrom.opened
    have hBack : LeadBack (group :: history.undoStack) text := ⟨base, hGroup, hFrom.back⟩
    refine ⟨by rw [commit_openSplices]; rfl, ?_, ?_⟩
    · rw [hUndo]
      exact hBack.take history.capacity
    · rw [hRedo]
      trivial

theorem Fits.start {history : History} {text : Text} (h : history.Fits text)
    (cursor : Position) : (history.start cursor).Fits text :=
  ⟨text, rfl, h.commit.back, h.commit.on⟩

theorem Fits.record {history : History} {old new : Text} (h : history.Fits old)
    {splice : Splice} (hSplice : splice.apply old = some new) (cursor : Position) :
    (history.record splice cursor).Fits new := by
  obtain ⟨base, hFrom⟩ := h
  refine ⟨base, ?_, hFrom.back, hFrom.on⟩
  rw [record_openSplices, Splice.applyAll_append, hFrom.opened, Option.bind_some]
  exact (Splice.applyAll_singleton old splice).trans hSplice

theorem Fits.setCursorAfter {history : History} {text : Text} (h : history.Fits text)
    (cursor : Position) : (history.setCursorAfter cursor).Fits text := by
  obtain ⟨base, hFrom⟩ := h
  exact ⟨base, (setCursorAfter_openSplices history cursor).symm ▸ hFrom.opened,
    hFrom.back, hFrom.on⟩

theorem fits_clear (history : History) (text : Text) : history.clear.Fits text :=
  ⟨text, rfl, trivial, trivial⟩

/-- What undoing hands out fits the text, and the history belongs to the text
it leads to. -/
theorem Fits.undo {history after : History} {text : Text} (h : history.Fits text)
    {restoration : Restoration} (hUndo : history.undo = (after, some restoration)) :
    ∃ earlier, Splice.applyAll text restoration.splices = some earlier ∧
      after.Fits earlier := by
  have hCommit := h.commit
  cases hStack : history.commit.undoStack with
  | nil =>
      rw [undo_eq_of_commit_undoStack_eq_nil hStack] at hUndo
      cases hUndo
  | cons group older =>
      rw [undo_eq_of_commit_undoStack_eq_cons hStack] at hUndo
      cases hUndo
      obtain ⟨earlier, hGroup, hOlder⟩ := hStack ▸ hCommit.back
      refine ⟨earlier, hGroup.back, earlier, ?_, hOlder, text, hGroup, hCommit.on⟩
      simp [openSplices, Splice.applyAll]

/-- What redoing hands out fits the text, provided that nothing waits to be
committed. -/
theorem Fits.redo {history after : History} {text : Text} (h : history.Fits text)
    (hOpen : history.openSplices = []) {restoration : Restoration}
    (hRedo : history.redo = (after, some restoration)) :
    ∃ next, Splice.applyAll text restoration.splices = some next ∧ after.Fits next := by
  obtain ⟨base, hFrom⟩ := h
  -- The stack of what was undone belongs to the base, which is the text here.
  have hBase := hFrom.base_eq hOpen
  subst hBase
  cases hStack : history.redoStack with
  | nil =>
      rw [redo_eq_of_redoStack_eq_nil hStack] at hRedo
      cases hRedo
  | cons group later =>
      rw [redo_eq_of_redoStack_eq_cons hStack] at hRedo
      cases hRedo
      obtain ⟨next, hGroup, hLater⟩ := hStack ▸ hFrom.on
      refine ⟨next, hGroup, next, ?_, ⟨base, hGroup, hFrom.back⟩, hLater⟩
      have hSame : Splice.applyAll next history.openSplices = some next := by
        rw [hOpen]
        rfl
      exact hSame

end History

end ModalEditor
