import ModalEditor.Proofs.History.Restoration
import ModalEditor.Proofs.Text.Position

namespace ModalEditor

/-!
# Timelines

A timeline is what an onlooker notes down who sees texts and cursors and knows
nothing of splices: which changes were made, each with the scene before its first
key that changed the text and the scene in which it ended, and which of them are
undone.  A timeline matches a history when the groups of the history are the
changes of the timeline, each leading between the texts of its change.  What is
noted at a change, at its end, at undoing and at redoing keeps the match.
-/

/-- A text with the cursor in it. -/
structure Scene where
  text : Text
  cursor : Position
  deriving DecidableEq, Repr

/-- Whether the cursor is a position of the text. -/
def Scene.Coherent (scene : Scene) : Prop := scene.cursor.IsIn scene.text

/-- What a command or an insert session found and what it left. -/
structure Change where
  /-- The scene before the first key that changed the text. -/
  before : Scene
  /-- The scene after the last key. -/
  after : Scene
  deriving DecidableEq, Repr

/-- The changes of a text.  Both lists have the change first that is next to be
undone or to be done again. -/
structure Timeline where
  done : List Change
  undone : List Change
  /-- What the command or the insert session under way found, if it changed the
  text already. -/
  opened : Option Scene
  /-- How many changes are kept. -/
  capacity : Nat
  deriving DecidableEq, Repr

namespace Timeline

/-- A timeline without changes. -/
def ofCapacity (capacity : Nat) : Timeline := ⟨[], [], none, capacity⟩

/-- Notes that a key led from a scene to a text.  Only the first key that changes
the text says what was found. -/
def notice (timeline : Timeline) (before : Scene) (text : Text) : Timeline :=
  if text = before.text then timeline
  else { timeline with opened := some (timeline.opened.getD before) }

/-- Notes that a command or an insert session ended in a scene.  If it changed
the text, nothing can be done again, and the oldest change may be forgotten. -/
def close (timeline : Timeline) (after : Scene) : Timeline :=
  match timeline.opened with
  | none => timeline
  | some before =>
      { timeline with
        done := (⟨before, after⟩ :: timeline.done).take timeline.capacity
        undone := []
        opened := none }

/-- Notes that the last change was undone, if there is one. -/
def stepBack (timeline : Timeline) : Timeline :=
  match timeline.done with
  | [] => timeline
  | change :: older =>
      { timeline with done := older, undone := change :: timeline.undone }

/-- Notes that the change undone last was done again, if there is one. -/
def stepOn (timeline : Timeline) : Timeline :=
  match timeline.undone with
  | [] => timeline
  | change :: later =>
      { timeline with done := change :: timeline.done, undone := later }

/-- The text that the changes lead to: that of before the command or the insert
session under way. -/
def base (timeline : Timeline) (text : Text) : Text :=
  timeline.opened.elim text (·.text)

end Timeline

/-- Whether what a history hands out leads from a text to a scene. -/
structure Restoration.LeadsTo (restoration : Restoration) (text : Text) (scene : Scene) :
    Prop where
  text : Splice.applyAll text restoration.splices = some scene.text
  cursor : restoration.cursor = scene.cursor
  coherent : scene.Coherent

/-- Whether a group is the record of a change. -/
structure EditGroup.Records (group : EditGroup) (change : Change) : Prop where
  leads : group.Leads change.before.text change.after.text
  cursorBefore : group.cursorBefore = change.before.cursor
  cursorAfter : group.cursorAfter = change.after.cursor
  before : change.before.Coherent
  after : change.after.Coherent

/-- Whether the groups of a stack record the changes of a list, of which the first
has one end in the text, and each further one where the one before has its other
end. -/
def RecordFrom (near far : Change → Scene) : List EditGroup → List Change → Text → Prop
  | [], [], _ => True
  | group :: groups, change :: changes, text =>
      group.Records change ∧ (near change).text = text ∧
        RecordFrom near far groups changes (far change).text
  | _, _, _ => False

namespace RecordFrom

variable {near far : Change → Scene} {groups : List EditGroup} {changes : List Change}
  {text : Text}

theorem length_eq (h : RecordFrom near far groups changes text) :
    groups.length = changes.length := by
  induction groups generalizing changes text with
  | nil =>
      cases changes with
      | nil => rfl
      | cons change changes => exact h.elim
  | cons group groups ih =>
      cases changes with
      | nil => exact h.elim
      | cons change changes =>
          rw [List.length_cons, List.length_cons, ih h.2.2]

theorem take (h : RecordFrom near far groups changes text) (count : Nat) :
    RecordFrom near far (groups.take count) (changes.take count) text := by
  induction groups generalizing changes text count with
  | nil =>
      cases changes with
      | nil => simpa using h
      | cons change changes => exact h.elim
  | cons group groups ih =>
      cases changes with
      | nil => exact h.elim
      | cons change changes =>
          cases count with
          | zero => trivial
          | succ count => exact ⟨h.1, h.2.1, ih h.2.2 count⟩

/-- The group that records the first change. -/
theorem exists_cons {change : Change} (h : RecordFrom near far groups (change :: changes) text) :
    ∃ group rest, groups = group :: rest ∧ group.Records change ∧
      (near change).text = text ∧ RecordFrom near far rest changes (far change).text := by
  cases groups with
  | nil => exact h.elim
  | cons group rest => exact ⟨group, rest, rfl, h⟩

theorem leadBack (h : RecordFrom Change.after Change.before groups changes text) :
    History.LeadBack groups text := by
  induction groups generalizing changes text with
  | nil => trivial
  | cons group groups ih =>
      cases changes with
      | nil => exact h.elim
      | cons change changes =>
          obtain ⟨hRecords, rfl, hRest⟩ := h
          exact ⟨change.before.text, hRecords.leads, ih hRest⟩

theorem leadOn (h : RecordFrom Change.before Change.after groups changes text) :
    History.LeadOn groups text := by
  induction groups generalizing changes text with
  | nil => trivial
  | cons group groups ih =>
      cases changes with
      | nil => exact h.elim
      | cons change changes =>
          obtain ⟨hRecords, rfl, hRest⟩ := h
          exact ⟨change.after.text, hRecords.leads, ih hRest⟩

end RecordFrom

namespace Timeline

/-- Whether a history has the group under way open, with splices that lead from
the scene noted to the text. -/
def IsOpenIn (history : History) (text : Text) : Option Scene → Prop
  | none => history.current = none
  | some scene =>
      scene.Coherent ∧ ∃ group, history.current = some group ∧ group.splices ≠ [] ∧
        group.Leads scene.text text ∧ group.cursorBefore = scene.cursor

/-- The invariant: the stacks of the history record the changes, back and on from
the text before the change under way, and the open group records that change. -/
structure Matches (timeline : Timeline) (history : History) (text : Text) : Prop where
  capacity : history.capacity = timeline.capacity
  opened : IsOpenIn history text timeline.opened
  back : RecordFrom Change.after Change.before history.undoStack timeline.done
    (timeline.base text)
  on : RecordFrom Change.before Change.after history.redoStack timeline.undone
    (timeline.base text)

variable {timeline : Timeline} {history : History} {text : Text}

@[simp]
theorem close_opened (timeline : Timeline) (after : Scene) :
    (timeline.close after).opened = none := by
  rw [close]
  split
  next h => exact h
  next => rfl

@[simp]
theorem stepBack_opened (timeline : Timeline) :
    timeline.stepBack.opened = timeline.opened := by
  rw [stepBack]
  split <;> rfl

@[simp]
theorem stepOn_opened (timeline : Timeline) : timeline.stepOn.opened = timeline.opened := by
  rw [stepOn]
  split <;> rfl

theorem stepBack_of_done_eq_cons {change : Change} {older : List Change}
    (h : timeline.done = change :: older) :
    timeline.stepBack =
      { timeline with done := older, undone := change :: timeline.undone } := by
  rw [stepBack, h]

/-- Doing again what was just undone takes the step back. -/
theorem stepOn_stepBack {change : Change} {older : List Change}
    (h : timeline.done = change :: older) : timeline.stepBack.stepOn = timeline := by
  obtain ⟨done, undone, opened, capacity⟩ := timeline
  cases h
  rfl

theorem matches_clear (history : History) (text : Text) :
    (ofCapacity history.capacity).Matches history.clear text :=
  ⟨rfl, rfl, trivial, trivial⟩

/-- A history that matches a timeline belongs to the text. -/
theorem Matches.fits (h : timeline.Matches history text) : history.Fits text := by
  refine ⟨timeline.base text, ?_, h.back.leadBack, h.on.leadOn⟩
  have hOpened := h.opened
  rw [base]
  cases hScene : timeline.opened with
  | none =>
      rw [hScene] at hOpened
      have hSplices : history.openSplices = [] := by
        rw [History.openSplices, hOpened]
        rfl
      rw [hSplices]
      rfl
  | some scene =>
      rw [hScene] at hOpened
      obtain ⟨-, group, hCurrent, -, hLeads, -⟩ := hOpened
      have hSplices : history.openSplices = group.splices := by
        rw [History.openSplices, hCurrent]
        rfl
      rw [hSplices]
      exact hLeads

/-! ## Changes under way -/

theorem notice_of_eq (timeline : Timeline) {before : Scene} (h : text = before.text) :
    timeline.notice before text = timeline :=
  if_pos h

/-- The group that a splice would join leads from the scene that was found, or from
the present one if nothing was changed yet. -/
theorem IsOpenIn.openGroup {before : Scene} {opened : Option Scene}
    (h : IsOpenIn history before.text opened) (hBefore : before.Coherent) :
    (opened.getD before).Coherent ∧
      (history.openGroup before.cursor).Leads (opened.getD before).text before.text ∧
      (history.openGroup before.cursor).cursorBefore = (opened.getD before).cursor := by
  cases opened with
  | none =>
      have hGroup : history.openGroup before.cursor = EditGroup.startingAt before.cursor := by
        rw [History.openGroup, show history.current = none from h, Option.getD_none]
      rw [hGroup]
      exact ⟨hBefore, EditGroup.leads_startingAt before.cursor before.text, rfl⟩
  | some scene =>
      obtain ⟨hScene, group, hCurrent, -, hLeads, hCursor⟩ := h
      have hGroup : history.openGroup before.cursor = group := by
        rw [History.openGroup, hCurrent, Option.getD_some]
      rw [hGroup]
      exact ⟨hScene, hLeads, hCursor⟩

/-- Recording the splice of a key is what the onlooker notes down. -/
theorem Matches.notice {before : Scene} {splice : Splice}
    (h : timeline.Matches history before.text) (hBefore : before.Coherent)
    (hSplice : Splice.between before.text text = some splice) :
    (timeline.notice before text).Matches (history.record splice before.cursor) text := by
  have hChanged : text ≠ before.text := by
    rintro rfl
    rw [Splice.between_eq_none_iff.mpr rfl] at hSplice
    cases hSplice
  obtain ⟨hScene, hLeads, hCursor⟩ := h.opened.openGroup hBefore
  -- The text that the stacks belong to stays the one found at first.
  have hBase : timeline.base before.text = (timeline.opened.getD before).text := by
    rw [base]
    cases timeline.opened <;> rfl
  have hBack := h.back
  have hOn := h.on
  rw [hBase] at hBack hOn
  rw [Timeline.notice, if_neg hChanged]
  refine ⟨h.capacity, ⟨hScene, _, History.record_current _ _ _, ?_, ?_, hCursor⟩, hBack, hOn⟩
  · exact EditGroup.push_splices_ne_nil _ _
  · exact hLeads.push (Splice.apply_between hSplice)

theorem Matches.setCursorAfter (h : timeline.Matches history text) (cursor : Position) :
    timeline.Matches (history.setCursorAfter cursor) text := by
  refine ⟨h.capacity, ?_, h.back, h.on⟩
  have hOpened := h.opened
  cases hScene : timeline.opened with
  | none =>
      rw [hScene] at hOpened
      show (history.setCursorAfter cursor).current = none
      rw [History.setCursorAfter, hOpened]
      rfl
  | some scene =>
      rw [hScene] at hOpened
      obtain ⟨hScene, group, hCurrent, hSplices, hLeads, hCursor⟩ := hOpened
      refine ⟨hScene, { group with cursorAfter := cursor }, ?_, hSplices, hLeads, hCursor⟩
      rw [History.setCursorAfter, hCurrent]
      rfl

/-- Committing with the cursor where a change ended is what the onlooker notes
down at its end. -/
theorem Matches.close {after : Scene} (h : timeline.Matches history after.text)
    (hAfter : after.Coherent) :
    (timeline.close after).Matches (history.setCursorAfter after.cursor).commit after.text := by
  have hOpened := h.opened
  rw [Timeline.close]
  cases hScene : timeline.opened with
  | none =>
      have hSet := h.setCursorAfter after.cursor
      have hNone : (history.setCursorAfter after.cursor).current = none := by
        have hOpened := hSet.opened
        rwa [hScene] at hOpened
      rw [History.commit_of_current_eq_none hNone]
      exact hSet
  | some before =>
      -- The group is committed with the cursor where the change ends.
      rw [hScene] at hOpened
      obtain ⟨hBefore, group, hCurrent, hSplices, hLeads, hCursor⟩ := hOpened
      have hSet : (history.setCursorAfter after.cursor).current =
          some { group with cursorAfter := after.cursor } := by
        rw [History.setCursorAfter, hCurrent]
        rfl
      obtain ⟨hUndo, hRedo⟩ := History.commit_stacks_of_current hSet hSplices
      have hBack := h.back
      rw [base, hScene] at hBack
      have hAll : RecordFrom Change.after Change.before
          ({ group with cursorAfter := after.cursor } :: history.undoStack)
          (⟨before, after⟩ :: timeline.done) after.text :=
        ⟨⟨hLeads, hCursor, rfl, hBefore, hAfter⟩, rfl, hBack⟩
      refine ⟨(History.commit_capacity _).trans h.capacity, History.commit_current _, ?_, ?_⟩
      · rw [hUndo]
        have hTake := hAll.take timeline.capacity
        rwa [← h.capacity] at hTake ⊢
      · rw [hRedo]
        trivial

/-! ## Steps in the history -/

/-- With no change under way a history has no open group, and the changes lead to
the present text. -/
theorem Matches.of_opened_eq_none (h : timeline.Matches history text)
    (hOpened : timeline.opened = none) :
    history.current = none ∧
      RecordFrom Change.after Change.before history.undoStack timeline.done text ∧
      RecordFrom Change.before Change.after history.redoStack timeline.undone text := by
  have hCurrent := h.opened
  have hBack := h.back
  have hOn := h.on
  rw [base, hOpened] at hBack hOn
  rw [hOpened] at hCurrent
  exact ⟨hCurrent, hBack, hOn⟩

theorem Matches.undoDepth_eq (h : timeline.Matches history text) :
    history.undoDepth = timeline.done.length :=
  h.back.length_eq

theorem Matches.canUndo_eq (h : timeline.Matches history text)
    (hOpened : timeline.opened = none) : history.canUndo = !timeline.done.isEmpty := by
  have hCurrent := (h.of_opened_eq_none hOpened).1
  have hLength := h.back.length_eq
  rw [History.canUndo, hCurrent, Option.any_none, Bool.or_false]
  cases hUndo : history.undoStack <;> cases hDone : timeline.done <;> simp_all

theorem Matches.canRedo_eq (h : timeline.Matches history text) :
    history.canRedo = !timeline.undone.isEmpty := by
  have hLength := h.on.length_eq
  rw [History.canRedo]
  cases hRedo : history.redoStack <;> cases hUndone : timeline.undone <;> simp_all

/-- Whether a history answered a call by a step to a scene, or by nothing if there
is none to go to, and matches the timeline after it. -/
def Answers (timeline : Timeline) (history : History) (text : Text)
    (answer : History × Option Restoration) : Option Scene → Prop
  | none => answer = (history, none) ∧ timeline.Matches history text
  | some scene => ∃ after restoration, answer = (after, some restoration) ∧
      restoration.LeadsTo text scene ∧ timeline.Matches after scene.text

/-- Undoing leads to the scene before the last change. -/
theorem Matches.undo (h : timeline.Matches history text) (hOpened : timeline.opened = none) :
    timeline.stepBack.Answers history text history.undo
      (timeline.done.head?.map Change.before) := by
  obtain ⟨hCurrent, hBack, hOn⟩ := h.of_opened_eq_none hOpened
  have hCommit := History.commit_of_current_eq_none hCurrent
  rw [stepBack]
  cases hDone : timeline.done with
  | nil =>
      rw [hDone] at hBack
      have hStack := List.eq_nil_of_length_eq_zero hBack.length_eq
      refine ⟨?_, h⟩
      rw [History.undo_eq_of_commit_undoStack_eq_nil (by rw [hCommit, hStack]), hCommit]
  | cons change older =>
      rw [hDone] at hBack
      obtain ⟨group, groups, hStack, hRecords, rfl, hOlder⟩ := hBack.exists_cons
      refine ⟨_, _, History.undo_eq_of_commit_undoStack_eq_cons (by rw [hCommit, hStack]), ?_, ?_⟩
      · exact ⟨hRecords.leads.back, hRecords.cursorBefore, hRecords.before⟩
      · rw [hCommit]
        refine ⟨h.capacity, ?_, ?_, ?_⟩
        · rw [hOpened]
          exact hCurrent
        · rw [base, hOpened]
          exact hOlder
        · rw [base, hOpened]
          exact ⟨hRecords, rfl, hOn⟩

/-- Redoing leads to the scene after the change undone last. -/
theorem Matches.redo (h : timeline.Matches history text) (hOpened : timeline.opened = none) :
    timeline.stepOn.Answers history text history.redo
      (timeline.undone.head?.map Change.after) := by
  obtain ⟨hCurrent, hBack, hOn⟩ := h.of_opened_eq_none hOpened
  rw [stepOn]
  cases hUndone : timeline.undone with
  | nil =>
      rw [hUndone] at hOn
      have hStack := List.eq_nil_of_length_eq_zero hOn.length_eq
      exact ⟨History.redo_eq_of_redoStack_eq_nil hStack, h⟩
  | cons change later =>
      rw [hUndone] at hOn
      obtain ⟨group, groups, hStack, hRecords, rfl, hLater⟩ := hOn.exists_cons
      refine ⟨_, _, History.redo_eq_of_redoStack_eq_cons hStack, ?_, ?_⟩
      · exact ⟨hRecords.leads, hRecords.cursorAfter, hRecords.after⟩
      · refine ⟨h.capacity, ?_, ?_, ?_⟩
        · rw [hOpened]
          exact hCurrent
        · rw [base, hOpened]
          exact ⟨hRecords, rfl, hBack⟩
        · rw [base, hOpened]
          exact hLater

end Timeline

end ModalEditor
