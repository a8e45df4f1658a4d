import ModalEditor.Text.Position
import ModalEditor.Text.Splice

namespace ModalEditor

/-!
# Undo history

Changes are recorded as splices.  A group holds the splices of one command or
of one insert session, so that they are undone together.  The history keeps a
stack of groups that can be undone, a stack of groups that can be done again,
and the group that is being recorded.  Both stacks have the most recent group
first.
-/

/-- Splices that belong together, in the order in which they were made. -/
structure EditGroup where
  splices : List Splice
  /-- Where the cursor goes when the group is undone. -/
  cursorBefore : Position
  /-- Where the cursor goes when the group is done again. -/
  cursorAfter : Position
  deriving DecidableEq, Repr, Inhabited

namespace EditGroup

/-- A group without splices. -/
def startingAt (cursor : Position) : EditGroup := ⟨[], cursor, cursor⟩

/-- The group with one more splice. -/
def push (group : EditGroup) (splice : Splice) : EditGroup :=
  { group with splices := group.splices ++ [splice] }

end EditGroup

/-- Splices to apply in order, and where the cursor goes after them. -/
structure Restoration where
  splices : List Splice
  cursor : Position
  deriving DecidableEq, Repr, Inhabited

/-- What was changed and what was undone. -/
structure History where
  undoStack : List EditGroup
  redoStack : List EditGroup
  /-- The group that is being recorded. -/
  current : Option EditGroup
  /-- How many groups can be undone at most. -/
  capacity : Nat
  capacity_pos : 0 < capacity
  deriving DecidableEq, Repr

namespace History

/-- An empty history.  Its capacity is at least one. -/
def ofCapacity (capacity : Nat) : History :=
  ⟨[], [], none, max capacity 1, by omega⟩

/-- Ends the group that is being recorded.  A group with splices can then be
undone, and nothing that was undone before can be done again.  The oldest group
is forgotten when there are too many. -/
def commit (history : History) : History :=
  match history.current with
  | none => history
  | some group =>
      if group.splices.isEmpty then { history with current := none }
      else
        { history with
          undoStack := (group :: history.undoStack).take history.capacity
          redoStack := []
          current := none }

/-- Starts a group, after ending the one before. -/
def start (history : History) (cursor : Position) : History :=
  { history.commit with current := some (EditGroup.startingAt cursor) }

/-- Whether a group is being recorded. -/
def isRecording (history : History) : Bool :=
  history.current.isSome

/-- Records a splice, starting a group if there is none. -/
def record (history : History) (splice : Splice) (cursor : Position) : History :=
  let group := history.current.getD (EditGroup.startingAt cursor)
  { history with current := some (group.push splice) }

/-- Sets where the cursor goes when the group being recorded is done again. -/
def setCursorAfter (history : History) (cursor : Position) : History :=
  { history with current := history.current.map fun group =>
      { group with cursorAfter := cursor } }

/-- Whether something can be undone. -/
def canUndo (history : History) : Bool :=
  !history.undoStack.isEmpty || history.current.any fun group => !group.splices.isEmpty

/-- Whether something can be done again. -/
def canRedo (history : History) : Bool :=
  !history.redoStack.isEmpty

/-- Number of groups that can be undone, without the one being recorded. -/
def undoDepth (history : History) : Nat :=
  history.undoStack.length

/-- Takes back the last group, after ending the one being recorded. -/
def undo (history : History) : History × Option Restoration :=
  let history := history.commit
  match history.undoStack with
  | [] => (history, none)
  | group :: older =>
      ({ history with undoStack := older, redoStack := group :: history.redoStack },
        some ⟨group.splices.reverse.map Splice.inverse, group.cursorBefore⟩)

/-- Does the group again that was undone last. -/
def redo (history : History) : History × Option Restoration :=
  match history.redoStack with
  | [] => (history, none)
  | group :: later =>
      ({ history with undoStack := group :: history.undoStack, redoStack := later },
        some ⟨group.splices, group.cursorAfter⟩)

/-- Forgets everything. -/
def clear (history : History) : History :=
  { history with undoStack := [], redoStack := [], current := none }

end History

end ModalEditor
