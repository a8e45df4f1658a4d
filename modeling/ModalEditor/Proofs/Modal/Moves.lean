import ModalEditor.Proofs.Modal.Counts
import ModalEditor.Proofs.Motion.Words

namespace ModalEditor

/-!
# Moving the cursor

In Normal mode, and in Visual mode too, the key of a motion moves the cursor to where the
motion leads, and from the end of a line back onto its last character.  `Workspace.press_motion`
says so for both modes and any count.  A vertical motion goes to the column that is kept, as
far as the line has it: `GoalColumn.columnOn` is that column for a line of a given length.
-/

/-! ## Putting a cursor on a character -/

namespace Position

variable {text : Text} {lines : List Text} {p : Position}

/-- The position itself, or the last character of its line if it is at the end of the line. -/
def onCharacter (lines : List Text) (p : Position) : Position :=
  if p.column > 0 ∧ lineLength lines p.line > 0 ∧ p.column ≥ lineLength lines p.line then
    ofLineColumn lines p.line (lineLength lines p.line - 1)
  else p

/-- A position that stands on a character, or at the start of its line, stays. -/
theorem onCharacter_of_stands (h : p.column = 0 ∨ p.column < lineLength lines p.line) :
    p.onCharacter lines = p := by
  rw [onCharacter, if_neg]
  omega

/-- On a line the last character is as far as a cursor goes. -/
theorem onCharacter_ofLineColumn (hLines : lines ≠ []) (number column : Nat) :
    (ofLineColumn lines number column).onCharacter lines =
      ofLineColumn lines number
        (min column (lineLength lines (min number (lastLine lines)) - 1)) := by
  have hNumber := min_lastLine_of_lt (min_lastLine_lt hLines number)
  generalize hLength : lineLength lines (min number (lastLine lines)) = length
  have hLine : (ofLineColumn lines number column).line = min number (lastLine lines) := rfl
  have hColumn : (ofLineColumn lines number column).column = min column length := by
    rw [← hLength]
    rfl
  have hSame (first second : Nat) (h : min first length = min second length) :
      ofLineColumn lines number first = ofLineColumn lines number second := by
    simp only [ofLineColumn, hLength, h]
  rw [onCharacter, hLine, hColumn, hLength]
  split
  · have hBack : ofLineColumn lines (min number (lastLine lines)) (length - 1) =
        ofLineColumn lines number (length - 1) := by
      simp only [ofLineColumn, hNumber]
    rw [hBack]
    exact hSame _ _ (by omega)
  · exact hSame _ _ (by omega)

theorem isIn_onCharacter (h : p.IsIn text) : (p.onCharacter (splitLines text)).IsIn text := by
  rw [onCharacter]
  split
  · exact isIn_ofLineColumn _ _ _
  · exact h

end Position

/-! ## The column that is kept -/

/-- The column to which a kept one leads on a line of some length, where the cursor stands on
a character. -/
def GoalColumn.columnOn (length : Nat) : GoalColumn → Nat
  | .column n => min n (length - 1)
  | .lineEnd => length - 1

/-- The kept column is one of the line. -/
theorem GoalColumn.columnOn_le (goal : GoalColumn) (length : Nat) :
    goal.columnOn length ≤ length := by
  cases goal with
  | column n => exact (Nat.min_le_right n _).trans (Nat.sub_le length 1)
  | lineEnd => exact Nat.sub_le length 1

namespace Motion

variable {text : Text} {cursor : Position} {circumstances : Circumstances} {motion : Motion}

theorem onCharacter_verticalTarget {lines : List Text} (hLines : lines ≠ [])
    (cursor : Position) (goal : GoalColumn) (line : Nat) :
    (verticalTarget lines cursor (some goal) line).onCharacter lines =
      Position.ofLineColumn lines line
        (goal.columnOn (lineLength lines (min line (lastLine lines)))) := by
  cases goal with
  | column n => exact Position.onCharacter_ofLineColumn hLines line n
  | lineEnd =>
      simp only [verticalTarget, Position.onCharacter_ofLineColumn hLines, GoalColumn.columnOn]
      rw [Nat.min_eq_right (Nat.sub_le _ 1)]

/-- Where a motion puts the cursor, on a character. -/
def landing (motion : Motion) (text : Text) (circumstances : Circumstances) (count : Count)
    (cursor : Position) : Position :=
  (motion.destination text circumstances count cursor).onCharacter (splitLines text)

theorem isIn_landing (hCursor : cursor.IsIn text) (count : Count) :
    (motion.landing text circumstances count cursor).IsIn text :=
  Position.isIn_onCharacter (isIn_span hCursor motion count circumstances).stop

/-- A motion to another line lands in the kept column of that line. -/
theorem landing_vertical (hText : text ≠ []) {goal : GoalColumn} {line : Nat} {count : Count}
    (h : motion.target? (splitLines text) cursor count circumstances =
      some (verticalTarget (splitLines text) cursor (some goal) line)) :
    motion.landing text circumstances count cursor =
      Position.ofLineColumn (splitLines text) line
        (goal.columnOn
          (lineLength (splitLines text) (min line (lastLine (splitLines text))))) := by
  rw [landing, destination_of_target? hText h, onCharacter_verticalTarget (splitLines_ne_nil text)]

theorem landing_down (hText : text ≠ []) (goal : GoalColumn) (surroundings : Surroundings)
    (count : Count) (cursor : Position) :
    down.landing text ⟨false, some goal, surroundings⟩ count cursor =
      Position.ofLineColumn (splitLines text)
        (min (cursor.line + max count.value 1) (lastLine (splitLines text)))
        (goal.columnOn (lineLength (splitLines text)
          (min (min (cursor.line + max count.value 1) (lastLine (splitLines text)))
            (lastLine (splitLines text))))) :=
  landing_vertical hText (if_neg (by simp))

theorem landing_up (hText : text ≠ []) (goal : GoalColumn) (surroundings : Surroundings)
    (count : Count) (cursor : Position) :
    up.landing text ⟨false, some goal, surroundings⟩ count cursor =
      Position.ofLineColumn (splitLines text) (cursor.line - max count.value 1)
        (goal.columnOn (lineLength (splitLines text)
          (min (cursor.line - max count.value 1) (lastLine (splitLines text))))) :=
  landing_vertical hText (if_neg (by simp))

end Motion

/-! ## Typing motions -/

/-- Where the typing of motions starts and where it is after one: Normal mode, or Visual mode
with its anchor. -/
inductive Ground where
  | normal
  | visual (anchor : Position)

/-- The state in which at most a count was typed. -/
def Ground.state (count : Option Nat) : Ground → ModeState
  | .normal => .normal (.command { PendingCommand.none with count })
  | .visual anchor => .visual anchor count false

/-- In Normal or Visual mode with nothing pending, motions can be typed. -/
theorem ModeState.exists_ground {state : ModeState}
    (hMode : state.mode = .normal ∨ state.mode = .visual) (hPending : state.isPending = false) :
    ∃ ground : Ground, state = ground.state none := by
  rcases hMode with hNormal | hVisual
  · exact ⟨.normal, eq_idle hNormal hPending⟩
  · cases state with
    | visual anchor count afterG =>
        cases count <;> cases afterG <;>
          first | exact ⟨.visual anchor, rfl⟩ | cases hPending
    | normal | insert | prompt => cases hVisual

namespace Workspace

variable {work : Workspace} {surroundings : Surroundings} {ground : Ground}
  {pending : PendingCommand} {motion : Motion} {c : Char}

theorem clampCursor_eq (work : Workspace) :
    work.clampCursor = work.moveTo (work.buffer.cursor.onCharacter work.buffer.lines) := by
  simp only [clampCursor, Position.onCharacter]
  split <;> rfl

/-- The column that a motion goes by and leaves behind. -/
def keptGoal (work : Workspace) (motion : Motion) : Option GoalColumn :=
  if motion.isVertical then
    some (work.engine.goal.getD (.column work.buffer.cursor.column))
  else none

/-- A motion moves the cursor to where it leads, and sets the column that is kept. -/
theorem move_eq (work : Workspace) (surroundings : Surroundings) (motion : Motion)
    (count : Count) :
    work.move surroundings motion count =
      (work.setGoal (if motion = .lineEnd then some .lineEnd else work.keptGoal motion)).moveTo
        (motion.destination work.buffer.text ⟨false, work.keptGoal motion, surroundings⟩ count
          work.buffer.cursor) :=
  rfl

/-- A motion lands on a character and leaves the column that is kept. -/
theorem clampCursor_move (work : Workspace) (surroundings : Surroundings) (motion : Motion)
    (count : Count) :
    (work.move surroundings motion count).clampCursor =
      (work.setGoal (if motion = .lineEnd then some .lineEnd else work.keptGoal motion)).moveTo
        (motion.landing work.buffer.text ⟨false, work.keptGoal motion, surroundings⟩ count
          work.buffer.cursor) := by
  rw [move_eq, clampCursor_eq]
  rfl

/-! ### Keys -/

/-- With a count or none typed, a motion runs. -/
theorem press_of_free_motion (h : work.engine.state = .normal (.command pending))
    (hG : pending.afterG = false) (hOperator : pending.operator = none)
    (hMotion : Motion.ofKey? c = some motion) (hDigit : pending.withDigit? c = none) :
    work.press surroundings (.char c) =
      settle ((work.enter ModeState.idle).move surroundings motion pending.total, .moved) := by
  rw [press_char_of_command h]
  simp only [pressNormalChar, hG, hDigit, ne_g_of_ofKey? hMotion, hOperator, hMotion, complete]
  rfl

/-- A digit goes on with the count, in Normal mode and in Visual mode. -/
theorem press_digit {count : Option Nat} {digit next : Nat}
    (h : work.engine.state = ground.state count) (hSmall : digit < 10)
    (hNext : extendCount? count digit = some next) :
    work.press surroundings (.char digit.digitChar) =
      ((work.enter (ground.state (some next))).clampCursor, .pending) := by
  cases ground with
  | normal =>
      refine press_of_withDigit? h rfl ?_
      simp [PendingCommand.withDigit?_eq, digitValue?_digitChar hSmall,
        PendingCommand.openCount, PendingCommand.withOpenCount, PendingCommand.none, hNext]
  | visual anchor =>
      have hDigit : (digitValue? digit.digitChar).bind (extendCount? count) = some next := by
        rw [digitValue?_digitChar hSmall, Option.bind_some, hNext]
      rw [press, h]
      simp only [Ground.state, pressVisual, pressVisualChar, hDigit]
      rfl

/-- The key of a motion runs it as often as the count says. -/
theorem press_motion {count : Option Nat} (h : work.engine.state = ground.state count)
    (hMotion : Motion.ofKey? c = some motion) (hZero : c ≠ '0') :
    work.press surroundings (.char c) =
      (((work.enter (ground.state none)).move surroundings motion
        { PendingCommand.none with count }.total).clampCursor, .moved) := by
  have hDigit := digitValue?_of_ofKey? hMotion hZero
  cases ground with
  | normal =>
      rw [press_of_free_motion h rfl rfl hMotion
        (PendingCommand.withDigit?_of_digitValue?_eq_none hDigit)]
      rfl
  | visual anchor =>
      rw [press, h]
      simp only [Ground.state, pressVisual, pressVisualChar, hDigit, Option.bind_none,
        ne_g_of_ofKey? hMotion, hMotion]
      rfl

/-- A count and a motion, typed where the cursor stands on a character. -/
theorem typeKeys_count (h : work.engine.state = ground.state none)
    (hOn : work.buffer.OnCharacter) (n : CountNumeral) (hMotion : Motion.ofKey? c = some motion)
    (hZero : c ≠ '0') :
    work.typeKeys surroundings (n.keys ++ [.char c]) =
      ((work.move surroundings motion ⟨n.count, true⟩).clampCursor, .moved) := by
  have hDigits : work.typeKeys surroundings n.keys =
      (work.enter (ground.state (some n.count)), .pending) := by
    have hDigit (count : Option Nat) (digit next : Nat) (hSmall : digit < 10)
        (hNext : extendCount? count digit = some next) :
        (work.enter (ground.state count)).press surroundings (.char digit.digitChar) =
          (work.enter (ground.state (some next)), .pending) := by
      have hStands : (work.enter (ground.state (some next))).clampCursor =
          work.enter (ground.state (some next)) := clampCursor_of_onCharacter hOn
      rw [press_digit rfl hSmall hNext]
      exact congrArg (·, KeyOutcome.pending) hStands
    have hTyped := typeKeys_digits hDigit n
    rwa [enter_of_state h] at hTyped
  have hBack : (work.enter (ground.state (some n.count))).enter (ground.state none) = work :=
    enter_of_state h
  have hTotal : { PendingCommand.none with count := some n.count }.total = ⟨n.count, true⟩ := by
    have hCount : max 1 (min (n.count * 1) maxCount) = n.count := by
      have hPos := n.pos
      simp only [CountNumeral.count, maxCount]
      omega
    exact congrArg (Count.mk · true) hCount
  rw [typeKeys_concat, hDigits, press_motion rfl hMotion hZero, hBack, hTotal]

/-- Presses of the key of a motion, one after the other. -/
theorem typeKeys_replicate (h : work.engine.state = ground.state none)
    (hMotion : Motion.ofKey? c = some motion) (hZero : c ≠ '0') (n : Nat) :
    (work.typeKeys surroundings (List.replicate n (.char c))).1 =
      (fun work => (work.move surroundings motion .once).clampCursor)^[n] work := by
  induction n with
  | zero => rfl
  | succ n ih =>
      have hState (n : Nat) :
          ((fun work => (work.move surroundings motion .once).clampCursor)^[n] work).engine.state =
            ground.state none := by
        induction n with
        | zero => exact h
        | succ n ih =>
            rw [Function.iterate_succ_apply', clampCursor_engine]
            exact ih
      rw [List.replicate_succ', typeKeys_concat, ih, press_motion (hState n) hMotion hZero,
        enter_of_state (hState n), Function.iterate_succ_apply']
      rfl

end Workspace

end ModalEditor
