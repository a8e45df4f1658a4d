import ModalEditor.Proofs.Modal.Cursor
import ModalEditor.Proofs.Modal.Outcome

namespace ModalEditor

/-!
# Typing counts, operators and motions

Keys of Normal mode that wait for more only add to what is pending, so what was typed
is known from what is pending, and the key that completes a command finds it there.
However many digits a count has, it comes to the number they spell, cut at the largest
count.  What an operator typed with counts and a motion does is said once, in
`typeKeys_operator` and `typeKeys_motion`.
-/

/-! ## Commands as they are typed -/

/-- A count as it is typed: a number that is not zero, in decimal digits. -/
structure CountNumeral where
  value : Nat
  pos : 0 < value

namespace CountNumeral

/-- The keys of the digits, the first of which is not a zero. -/
def keys (n : CountNumeral) : List Key :=
  (Nat.toDigits 10 n.value).map Key.char

theorem keys_ne_nil (n : CountNumeral) : n.keys ≠ [] := by
  rw [keys, ne_eq, List.map_eq_nil_iff]
  exact Nat.toDigits_ne_nil

/-- The count that the digits come to. -/
def count (n : CountNumeral) : Nat :=
  min n.value maxCount

/-- The product of two counts, as it is typed. -/
def times (a b : CountNumeral) : CountNumeral :=
  ⟨a.value * b.value, Nat.mul_pos a.pos b.pos⟩

end CountNumeral

/-- The keys of a count that may be left out. -/
def countKeys : Option CountNumeral → List Key
  | none => []
  | some n => n.keys

/-- A motion as it is typed after an operator, other than the zero. -/
inductive MotionKeys where
  /-- A motion that has a key of its own. -/
  | single (c : Char) (motion : Motion) (stands : Motion.ofKey? c = some motion)
      (notZero : c ≠ '0')
  | fileStart
  /-- The key of the operator once more, for whole lines. -/
  | doubled

namespace MotionKeys

/-- The keys of the motion after those of an operator. -/
def keys (operator : Operator) : MotionKeys → List Key
  | .single c .. => [.char c]
  | .fileStart => [.char 'g', .char 'g']
  | .doubled => [.char operator.key]

/-- The motion that the keys stand for. -/
def motion : MotionKeys → Motion
  | .single _ motion .. => motion
  | .fileStart => .fileStart
  | .doubled => .currentLine

theorem keys_ne_nil (operator : Operator) (motion : MotionKeys) :
    motion.keys operator ≠ [] := by
  cases motion <;> exact List.cons_ne_nil _ _

end MotionKeys

/-- An operator and a motion that have one key together. -/
inductive Shorthand where
  | deleteChar
  | deleteToEnd
  | changeToEnd

namespace Shorthand

/-- The key of both. -/
def key : Shorthand → Char
  | .deleteChar => 'x'
  | .deleteToEnd => 'D'
  | .changeToEnd => 'C'

/-- The operator. -/
def operator : Shorthand → Operator
  | .deleteChar | .deleteToEnd => .delete
  | .changeToEnd => .change

/-- The motion. -/
def motion : Shorthand → Motion
  | .deleteChar => .right
  | .deleteToEnd | .changeToEnd => .lineEnd

end Shorthand

/-! ## Keys that stand for digits, operators and motions -/

/-- Whether a key goes on with nothing, being no digit, no motion, no operator and not
`g`. -/
def StartsCommand (c : Char) : Prop :=
  digitValue? c = none ∧ Motion.ofKey? c = none ∧ Operator.ofKey? c = none ∧ c ≠ 'g'

instance (c : Char) : Decidable (StartsCommand c) :=
  inferInstanceAs (Decidable (_ ∧ _))

theorem Shorthand.startsCommand (shorthand : Shorthand) : StartsCommand shorthand.key := by
  cases shorthand <;> decide

theorem digitValue?_digitChar {d : Nat} (h : d < 10) : digitValue? d.digitChar = some d := by
  revert d
  decide

theorem Operator.digitValue?_key (operator : Operator) : digitValue? operator.key = none := by
  cases operator <;> rfl

theorem Operator.key_ne_g (operator : Operator) : operator.key ≠ 'g' := by
  cases operator <;> simp [Operator.key]

theorem Motion.ofKey?_key (operator : Operator) : Motion.ofKey? operator.key = none := by
  cases operator <;> rfl

/-- A key that stands for a motion is no digit, unless it is the zero. -/
theorem digitValue?_of_ofKey? {c : Char} {motion : Motion} (h : Motion.ofKey? c = some motion)
    (hZero : c ≠ '0') : digitValue? c = none := by
  rw [Motion.ofKey?.eq_def] at h
  split at h <;> first | rfl | exact absurd rfl hZero | cases h

theorem ne_g_of_ofKey? {c : Char} {motion : Motion} (h : Motion.ofKey? c = some motion) :
    c ≠ 'g' := by
  rintro rfl
  cases h

/-! ## Pending counts -/

theorem extendCount?_first {value : Nat} (hPos : 0 < value) :
    extendCount? none value = some (min value maxCount) := by
  simp [extendCount?, Nat.ne_of_gt hPos]

/-- Where the digits before the last were cut, the number is cut with the last one, too. -/
theorem extendCount?_last (value : Nat) :
    extendCount? (some (min (value / 10) maxCount)) (value % 10) =
      some (min value maxCount) := by
  have hCut : min (min (value / 10) maxCount * 10 + value % 10) maxCount = min value maxCount := by
    have hSplit := Nat.div_add_mod value 10
    simp only [maxCount]
    omega
  simp [extendCount?, hCut]

namespace PendingCommand

/-- The count that a digit goes on with: that of the operator, once there is one. -/
def openCount (pending : PendingCommand) : Option Nat :=
  if pending.operator.isSome then pending.operatorCount else pending.count

/-- The same command with another count where digits go on. -/
def withOpenCount (pending : PendingCommand) (count : Nat) : PendingCommand :=
  if pending.operator.isSome then { pending with operatorCount := some count }
  else { pending with count := some count }

variable {pending : PendingCommand}

theorem withDigit?_eq (pending : PendingCommand) (c : Char) :
    pending.withDigit? c = (digitValue? c).bind fun digit =>
      (extendCount? pending.openCount digit).map pending.withOpenCount := by
  unfold withDigit? openCount withOpenCount
  cases pending.operator.isSome <;> rfl

theorem withDigit?_of_digitValue?_eq_none {c : Char} (h : digitValue? c = Option.none) :
    pending.withDigit? c = Option.none := by
  rw [withDigit?_eq, h]
  rfl

@[simp]
theorem openCount_withOpenCount (pending : PendingCommand) (count : Nat) :
    (pending.withOpenCount count).openCount = some count := by
  unfold openCount withOpenCount
  cases h : pending.operator.isSome <;> simp [h]

@[simp]
theorem withOpenCount_withOpenCount (pending : PendingCommand) (first second : Nat) :
    (pending.withOpenCount first).withOpenCount second = pending.withOpenCount second := by
  unfold withOpenCount
  cases h : pending.operator.isSome <;> simp [h]

@[simp]
theorem withOpenCount_afterG (pending : PendingCommand) (count : Nat) :
    (pending.withOpenCount count).afterG = pending.afterG := by
  unfold withOpenCount
  split <;> rfl

end PendingCommand

/-- Counts and operator, as they are pending once typed. -/
def typedSoFar (first : Option CountNumeral) (operator : Option Operator)
    (second : Option CountNumeral) : PendingCommand :=
  ⟨first.map CountNumeral.count, operator, second.map CountNumeral.count, false⟩

namespace Workspace

variable {work : Workspace} {surroundings : Surroundings} {pending : PendingCommand}

/-! ## Keys one after the other -/

/-- Keys typed in the same surroundings, with what the last of them did. -/
def typeKeys (work : Workspace) (surroundings : Surroundings) (keys : List Key) :
    Workspace × KeyOutcome :=
  keys.foldl (fun result key => result.1.press surroundings key) (work, .ignored)

theorem typeKeys_singleton (work : Workspace) (surroundings : Surroundings) (key : Key) :
    work.typeKeys surroundings [key] = work.press surroundings key :=
  rfl

theorem typeKeys_concat (work : Workspace) (surroundings : Surroundings) (keys : List Key)
    (key : Key) :
    work.typeKeys surroundings (keys ++ [key]) =
      (work.typeKeys surroundings keys).1.press surroundings key := by
  simp [typeKeys]

theorem typeKeys_append (work : Workspace) (surroundings : Surroundings) (first : List Key)
    {second : List Key} (h : second ≠ []) :
    work.typeKeys surroundings (first ++ second) =
      (work.typeKeys surroundings first).1.typeKeys surroundings second := by
  cases second with
  | nil => exact absurd rfl h
  | cons key keys => simp [typeKeys]

theorem typeKeys_cons (work : Workspace) (surroundings : Surroundings) (key : Key)
    {keys : List Key} (h : keys ≠ []) :
    work.typeKeys surroundings (key :: keys) =
      (work.press surroundings key).1.typeKeys surroundings keys :=
  work.typeKeys_append surroundings [key] h

/-- Typing is pressing every key. -/
theorem typeKeys_fst (work : Workspace) (surroundings : Surroundings) (keys : List Key) :
    (work.typeKeys surroundings keys).1 = work.pressAll (keys.map (surroundings, ·)) := by
  unfold typeKeys pressAll
  generalize KeyOutcome.ignored = outcome
  induction keys generalizing work outcome with
  | nil => rfl
  | cons key keys ih => exact ih (work.press surroundings key).1 (work.press surroundings key).2

/-- Where each digit goes on with a count, the digits of a count come to it, cut at the
largest one. -/
theorem typeKeys_digits {counting : Option Nat → Workspace}
    (hDigit : ∀ count digit next, digit < 10 → extendCount? count digit = some next →
      (counting count).press surroundings (.char digit.digitChar) =
        (counting (some next), .pending)) (n : CountNumeral) :
    (counting none).typeKeys surroundings n.keys = (counting (some n.count), .pending) := by
  obtain ⟨value, hPos⟩ := n
  simp only [CountNumeral.keys, CountNumeral.count]
  induction value using Nat.strongRecOn with
  | _ value ih =>
      by_cases hSmall : value < 10
      · rw [Nat.toDigits_of_lt_base hSmall]
        exact hDigit none value _ hSmall (extendCount?_first hPos)
      · rw [Nat.toDigits_of_base_le (by decide) (by omega), List.map_append, List.map_singleton,
          typeKeys_concat, ih (value / 10) (by omega) (by omega)]
        exact hDigit _ _ _ (Nat.mod_lt _ (by decide)) (extendCount?_last value)

/-! ## Waiting for more -/

theorem clampCursor_enter (work : Workspace) (state : ModeState) :
    work.clampCursor.enter state = (work.enter state).clampCursor := by
  unfold clampCursor
  exact apply_ite (fun next : Workspace => next.enter state) _ _ _

/-- The workspace with part of a command typed. -/
def awaiting (work : Workspace) (pending : PendingCommand) : Workspace :=
  (work.enter (.normal (.command pending))).clampCursor

@[simp]
theorem awaiting_state (work : Workspace) (pending : PendingCommand) :
    (work.awaiting pending).engine.state = .normal (.command pending) := by
  rw [awaiting, clampCursor_engine]
  rfl

@[simp]
theorem awaiting_awaiting (work : Workspace) (first second : PendingCommand) :
    (work.awaiting first).awaiting second = work.awaiting second := by
  rw [awaiting, awaiting, clampCursor_enter, clampCursor_clampCursor]
  rfl

/-- The workspace with what was pending taken back, as the key that completes a command
finds it. -/
def ready (work : Workspace) : Workspace :=
  (work.enter ModeState.idle).clampCursor

@[simp]
theorem awaiting_enter_idle (work : Workspace) (pending : PendingCommand) :
    (work.awaiting pending).enter ModeState.idle = work.ready :=
  clampCursor_enter _ _

theorem press_char_of_command (h : work.engine.state = .normal (.command pending))
    (surroundings : Surroundings) (c : Char) :
    work.press surroundings (.char c) =
      settle (work.pressNormalChar surroundings pending c) := by
  rw [press, h]
  rfl

theorem settle_await (work : Workspace) (pending : PendingCommand) :
    settle (work.await (.command pending)) = (work.awaiting pending, .pending) :=
  rfl

/-- The second `g` makes the motion to the start of the file. -/
theorem press_of_gg (h : work.engine.state = .normal (.command pending))
    (hG : pending.afterG = true) {operator : Operator}
    (hOperator : pending.operator = some operator) :
    work.press surroundings (.char 'g') =
      settle ((work.enter ModeState.idle).operate surroundings operator .fileStart
        pending.total) := by
  rw [press_char_of_command h]
  simp only [pressNormalChar, hG, hOperator, complete]
  rfl

section Pending

variable (h : work.engine.state = .normal (.command pending)) (hG : pending.afterG = false)

include h hG

/-- A digit goes on with a count. -/
theorem press_of_withDigit? {c : Char} {next : PendingCommand}
    (hDigit : pending.withDigit? c = some next) :
    work.press surroundings (.char c) = (work.awaiting next, .pending) := by
  rw [press_char_of_command h, ← settle_await]
  simp only [pressNormalChar, hG, hDigit]
  rfl

/-- An operator waits for a motion. -/
theorem press_of_operator {operator : Operator}
    (hOperator : Operator.ofKey? operator.key = some operator)
    (hNone : pending.operator = none) :
    work.press surroundings (.char operator.key) =
      (work.awaiting { pending with operator := some operator }, .pending) := by
  have hDigit : pending.withDigit? operator.key = none :=
    PendingCommand.withDigit?_of_digitValue?_eq_none operator.digitValue?_key
  rw [press_char_of_command h, ← settle_await]
  simp only [pressNormalChar, hG, hDigit, operator.key_ne_g, hNone, Motion.ofKey?_key, hOperator]
  rfl

theorem press_of_g : work.press surroundings (.char 'g') =
    (work.awaiting { pending with afterG := true }, .pending) := by
  have hDigit : pending.withDigit? 'g' = none :=
    PendingCommand.withDigit?_of_digitValue?_eq_none rfl
  rw [press_char_of_command h, ← settle_await]
  simp only [pressNormalChar, hG, hDigit]
  rfl

/-- A motion completes the command, unless its key goes on with a count. -/
theorem press_of_motion {operator : Operator} (hOperator : pending.operator = some operator)
    {c : Char} {motion : Motion} (hMotion : Motion.ofKey? c = some motion)
    (hDigit : pending.withDigit? c = none) :
    work.press surroundings (.char c) =
      settle ((work.enter ModeState.idle).operate surroundings operator motion
        pending.total) := by
  have hKey : c ≠ operator.key := by
    rintro rfl
    rw [Motion.ofKey?_key] at hMotion
    cases hMotion
  rw [press_char_of_command h]
  simp only [pressNormalChar, hG, hDigit, ne_g_of_ofKey? hMotion, hOperator, hKey, hMotion,
    complete]
  rfl

/-- The key of the operator once more makes the command one for whole lines. -/
theorem press_of_doubled {operator : Operator} (hOperator : pending.operator = some operator) :
    work.press surroundings (.char operator.key) =
      settle ((work.enter ModeState.idle).operate surroundings operator .currentLine
        pending.total) := by
  have hDigit : pending.withDigit? operator.key = none :=
    PendingCommand.withDigit?_of_digitValue?_eq_none operator.digitValue?_key
  rw [press_char_of_command h]
  simp only [pressNormalChar, hG, hDigit, operator.key_ne_g, hOperator, complete]
  rfl

/-- A workspace while digits are typed: as it was before the first one, then waiting with the
count so far. -/
def counting (work : Workspace) (pending : PendingCommand) (count : Option Nat) : Workspace :=
  count.elim work fun value => work.awaiting (pending.withOpenCount value)

/-- The digits of a count come to the count, cut at the largest one. -/
theorem typeKeys_numeral (hCount : pending.openCount = none) (n : CountNumeral) :
    work.typeKeys surroundings n.keys =
      (work.awaiting (pending.withOpenCount n.count), .pending) := by
  have hDigit (count : Option Nat) (digit next : Nat) (hSmall : digit < 10)
      (hNext : extendCount? count digit = some next) :
      (work.counting pending count).press surroundings (.char digit.digitChar) =
        (work.counting pending (some next), .pending) := by
    cases count with
    | none =>
        refine press_of_withDigit? h hG ?_
        simp [PendingCommand.withDigit?_eq, digitValue?_digitChar hSmall, hCount, hNext]
    | some value =>
        have hLast : (pending.withOpenCount value).withDigit? digit.digitChar =
            some (pending.withOpenCount next) := by
          simp [PendingCommand.withDigit?_eq, digitValue?_digitChar hSmall, hNext]
        show (work.awaiting (pending.withOpenCount value)).press _ _ = _
        rw [press_of_withDigit? (awaiting_state _ _) (by simp [hG]) hLast, awaiting_awaiting]
        rfl
  exact typeKeys_digits hDigit n

/-- A key that goes on with nothing is a command by itself. -/
theorem press_of_startsCommand (hNone : pending.operator = none) {c : Char}
    (hStarts : StartsCommand c) :
    work.press surroundings (.char c) =
      settle (work.pressCommand surroundings pending c) := by
  obtain ⟨hValue, hMotion, hOperator, hKey⟩ := hStarts
  have hDigit : pending.withDigit? c = none :=
    PendingCommand.withDigit?_of_digitValue?_eq_none hValue
  rw [press_char_of_command h]
  simp only [pressNormalChar, hG, hDigit, hKey, hNone, hMotion, hOperator]
  rfl

/-- A shorthand runs its operator over its motion. -/
theorem press_of_shorthand (hNone : pending.operator = none) (shorthand : Shorthand) :
    work.press surroundings (.char shorthand.key) =
      settle ((work.enter ModeState.idle).operate surroundings shorthand.operator
        shorthand.motion pending.total) := by
  rw [press_of_startsCommand h hG hNone shorthand.startsCommand]
  cases shorthand <;> rfl

end Pending

/-! ## Operators with their counts and motions -/

theorem enter_of_state {state : ModeState} (h : work.engine.state = state) :
    work.enter state = work := by
  subst h
  rfl

/-- A workspace in which only a count was typed.  Without a count the cursor is where
it was, and a digit puts it on a character. -/
structure Counted (work : Workspace) (count : Option CountNumeral) (next : Workspace) :
    Prop where
  state : next.engine.state = .normal (.command (typedSoFar count none none))
  ready : next.enter ModeState.idle = work ∨ next.enter ModeState.idle = work.clampCursor
  awaiting : ∀ pending, next.awaiting pending = work.awaiting pending

theorem counted_typeKeys (h : work.engine.state = ModeState.idle)
    (surroundings : Surroundings) (count : Option CountNumeral) :
    work.Counted count (work.typeKeys surroundings (countKeys count)).1 := by
  cases count with
  | none => exact ⟨h, Or.inl (enter_of_state h), fun _ => rfl⟩
  | some n =>
      rw [countKeys, typeKeys_numeral h rfl rfl]
      refine ⟨awaiting_state _ _, Or.inr ?_, awaiting_awaiting _ _⟩
      rw [awaiting_enter_idle, ready, enter_of_state h]

/-- With a count or without, an operator waits for a motion. -/
theorem typeKeys_operator (h : work.engine.state = ModeState.idle)
    (surroundings : Surroundings) (first : Option CountNumeral) {operator : Operator}
    (hOperator : Operator.ofKey? operator.key = some operator) :
    work.typeKeys surroundings (countKeys first ++ [.char operator.key]) =
      (work.awaiting (typedSoFar first operator none), .pending) := by
  have hCounted := counted_typeKeys h surroundings first
  rw [typeKeys_concat, press_of_operator hCounted.state rfl hOperator rfl, hCounted.awaiting]
  rfl

/-- After the operator and a count or none, a motion completes the command. -/
theorem typeKeys_motion (work : Workspace) (surroundings : Surroundings)
    (first second : Option CountNumeral) (operator : Operator) (motion : MotionKeys) :
    (work.awaiting (typedSoFar first operator none)).typeKeys surroundings
        (countKeys second ++ motion.keys operator) =
      settle (work.ready.operate surroundings operator motion.motion
        (typedSoFar first operator second).total) := by
  have hCounted :
      ((work.awaiting (typedSoFar first operator none)).typeKeys surroundings
        (countKeys second)).1 = work.awaiting (typedSoFar first operator second) := by
    cases second with
    | none => rfl
    | some n =>
        rw [countKeys, typeKeys_numeral (awaiting_state _ _) rfl rfl, awaiting_awaiting]
        rfl
  rw [typeKeys_append _ _ _ (motion.keys_ne_nil operator), hCounted]
  cases motion with
  | single c motion stands notZero =>
      have hDigit : (typedSoFar first operator second).withDigit? c = none :=
        PendingCommand.withDigit?_of_digitValue?_eq_none (digitValue?_of_ofKey? stands notZero)
      rw [MotionKeys.keys, typeKeys_singleton,
        press_of_motion (awaiting_state _ _) rfl rfl stands hDigit, awaiting_enter_idle]
      rfl
  | fileStart =>
      rw [MotionKeys.keys, typeKeys_cons _ _ _ (List.cons_ne_nil _ _), typeKeys_singleton,
        press_of_g (awaiting_state _ _) rfl, awaiting_awaiting,
        press_of_gg (awaiting_state _ _) rfl rfl, awaiting_enter_idle]
      rfl
  | doubled =>
      rw [MotionKeys.keys, typeKeys_singleton,
        press_of_doubled (awaiting_state _ _) rfl rfl, awaiting_enter_idle]
      rfl

/-- A whole command: an operator, its counts and a motion. -/
theorem typeKeys_command (h : work.engine.state = ModeState.idle)
    (surroundings : Surroundings) (first second : Option CountNumeral) {operator : Operator}
    (hOperator : Operator.ofKey? operator.key = some operator) (motion : MotionKeys) :
    work.typeKeys surroundings (countKeys first ++ .char operator.key ::
        (countKeys second ++ motion.keys operator)) =
      settle (work.ready.operate surroundings operator motion.motion
        (typedSoFar first operator second).total) := by
  have hRest : countKeys second ++ motion.keys operator ≠ [] :=
    List.append_ne_nil_of_right_ne_nil _ (motion.keys_ne_nil operator)
  rw [List.append_cons, typeKeys_append _ _ _ hRest, typeKeys_operator h _ _ hOperator,
    typeKeys_motion]

end Workspace

end ModalEditor
