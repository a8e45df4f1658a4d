import ModalEditor.Proofs.Modal.Typing

namespace ModalEditor

/-!
# Counts multiply

Each count is cut while its digits are typed, and their product is cut once more.
Since no count is zero, cutting the factors first changes nothing.  So only the
product of the counts matters, wherever they are typed.
-/

/-- What a count multiplies by. -/
def factor (count : Option CountNumeral) : Nat :=
  count.elim 1 CountNumeral.value

theorem factor_pos (count : Option CountNumeral) : 0 < factor count := by
  cases count with
  | none => exact Nat.one_pos
  | some n => exact n.pos

/-- Factors that are not zero can be cut before they are multiplied. -/
theorem min_mul_min {a b limit : Nat} (ha : 0 < a) (hb : 0 < b) :
    min (min a limit * min b limit) limit = min (a * b) limit := by
  by_cases hSmall : a ≤ limit ∧ b ≤ limit
  · rw [Nat.min_eq_left hSmall.1, Nat.min_eq_left hSmall.2]
  · -- One factor reaches the limit, so both products do.
    by_cases hLimit : limit = 0
    · rw [hLimit, Nat.min_zero, Nat.min_zero]
    have hFirst : 0 < min a limit := by omega
    have hSecond : 0 < min b limit := by omega
    have hCut : limit ≤ min a limit * min b limit := by
      by_cases hLarge : a ≤ limit
      · have hEq : min b limit = limit := by omega
        rw [hEq]
        exact Nat.le_mul_of_pos_left limit hFirst
      · have hEq : min a limit = limit := by omega
        rw [hEq]
        exact Nat.le_mul_of_pos_right limit hSecond
    have hWhole : min a limit * min b limit ≤ a * b :=
      Nat.mul_le_mul (Nat.min_le_left a limit) (Nat.min_le_left b limit)
    rw [Nat.min_eq_right hCut, Nat.min_eq_right (Nat.le_trans hCut hWhole)]

namespace Workspace

variable {work : Workspace}

/-- However the counts are typed, the command runs as often as their product says, up
to the largest count. -/
theorem total_typedSoFar (first second : Option CountNumeral) (operator : Option Operator) :
    (typedSoFar first operator second).total =
      ⟨min (factor first * factor second) maxCount, first.isSome || second.isSome⟩ := by
  have hCount (count : Option CountNumeral) :
      (count.map CountNumeral.count).getD 1 = min (factor count) maxCount := by
    cases count <;> rfl
  have hPos : 1 ≤ min (factor first * factor second) maxCount := by
    have hProduct := Nat.mul_pos (factor_pos first) (factor_pos second)
    simp only [maxCount]
    omega
  simp only [PendingCommand.total, typedSoFar, hCount, Option.isSome_map,
    min_mul_min (factor_pos first) (factor_pos second), Nat.max_eq_right hPos]

/-- A count and a shorthand do what the count, its operator and its motion do. -/
theorem typeKeys_shorthand (h : work.engine.state = ModeState.idle)
    (surroundings : Surroundings) (n : CountNumeral) (shorthand : Shorthand) :
    work.typeKeys surroundings (n.keys ++ [.char shorthand.key]) =
      settle (work.ready.operate surroundings shorthand.operator shorthand.motion
        (typedSoFar (some n) none none).total) := by
  rw [typeKeys_concat, typeKeys_numeral h rfl rfl,
    press_of_shorthand (awaiting_state _ _) rfl rfl, awaiting_enter_idle]
  rfl

/-- With nothing pending, two counts do what their product does, before the operator
as well as after it, and the shorthands do what their operators and motions do. -/
theorem counts_multiply_and_shorthands_expand (hMode : work.engine.mode = .normal)
    (hPending : work.engine.state.isPending = false) (surroundings : Surroundings)
    {operator : Operator} (hOperator : Operator.ofKey? operator.key = some operator)
    (motion : MotionKeys) (a b : CountNumeral) :
    let typed (keys : List Key) := work.typeKeys surroundings keys
    typed (a.keys ++ .char operator.key :: (b.keys ++ motion.keys operator)) =
        typed ((a.times b).keys ++ .char operator.key :: motion.keys operator) ∧
      typed (a.keys ++ .char operator.key :: (b.keys ++ motion.keys operator)) =
        typed (.char operator.key :: ((a.times b).keys ++ motion.keys operator)) ∧
      typed (a.keys ++ [.char 'x']) = typed (a.keys ++ [.char 'd', .char 'l']) ∧
      typed (a.keys ++ [.char 'D']) = typed (a.keys ++ [.char 'd', .char '$']) ∧
      typed (a.keys ++ [.char 'C']) = typed (a.keys ++ [.char 'c', .char '$']) := by
  intro typed
  have hIdle := ModeState.eq_idle hMode hPending
  have hBefore : typed ((a.times b).keys ++ .char operator.key :: motion.keys operator) =
      settle (work.ready.operate surroundings operator motion.motion
        (typedSoFar (some (a.times b)) operator none).total) :=
    typeKeys_command hIdle surroundings (some (a.times b)) none hOperator motion
  have hAfter : typed (.char operator.key :: ((a.times b).keys ++ motion.keys operator)) =
      settle (work.ready.operate surroundings operator motion.motion
        (typedSoFar none operator (some (a.times b))).total) :=
    typeKeys_command hIdle surroundings none (some (a.times b)) hOperator motion
  have hBoth : typed (a.keys ++ .char operator.key :: (b.keys ++ motion.keys operator)) =
      settle (work.ready.operate surroundings operator motion.motion
        (typedSoFar (some a) operator (some b)).total) :=
    typeKeys_command hIdle surroundings (some a) (some b) hOperator motion
  have hExpand (shorthand : Shorthand) (c : Char)
      (hOperator : Operator.ofKey? shorthand.operator.key = some shorthand.operator)
      (hMotion : Motion.ofKey? c = some shorthand.motion) (hZero : c ≠ '0') :
      typed (a.keys ++ [.char shorthand.key]) =
        typed (a.keys ++ [.char shorthand.operator.key, .char c]) := by
    rw [show typed (a.keys ++ [.char shorthand.operator.key, .char c]) = _ from
      typeKeys_command hIdle surroundings (some a) none hOperator (.single c _ hMotion hZero)]
    exact typeKeys_shorthand hIdle surroundings a shorthand
  refine ⟨?_, ?_, hExpand .deleteChar 'l' rfl rfl (by decide),
    hExpand .deleteToEnd '$' rfl rfl (by decide), hExpand .changeToEnd '$' rfl rfl (by decide)⟩
  · rw [hBoth, hBefore, total_typedSoFar, total_typedSoFar]
    simp [factor, CountNumeral.times]
  · rw [hBoth, hAfter, total_typedSoFar, total_typedSoFar]
    simp [factor, CountNumeral.times]

/-- Two times two words are four words, and two characters are deleted either way. -/
theorem two_times_two_words :
    let work := ofBuffer (Buffer.ofText ['a', ' ', 'b', ' ', 'c', ' ', 'd', ' ', 'e'])
    let typed (keys : List Char) :=
      work.typeKeys Surroundings.unknown (keys.map Key.char)
    (work.engine.mode = .normal ∧ work.engine.state.isPending = false) ∧
      (typed ['2', 'd', '2', 'w'] = typed ['4', 'd', 'w'] ∧
        typed ['2', 'd', '2', 'w'] = typed ['d', '4', 'w'] ∧
        typed ['2', 'x'] = typed ['2', 'd', 'l'] ∧
        typed ['2', 'D'] = typed ['2', 'd', '$'] ∧
        typed ['2', 'C'] = typed ['2', 'c', '$']) ∧
      (typed ['2', 'd', '2', 'w']).1.buffer.text = ['e'] :=
  ⟨⟨rfl, rfl⟩,
    counts_multiply_and_shorthands_expand rfl rfl Surroundings.unknown
      (show Operator.ofKey? Operator.delete.key = some .delete from rfl)
      (.single 'w' .wordForward rfl (by decide)) ⟨2, by decide⟩ ⟨2, by decide⟩,
    by decide +kernel⟩

end Workspace

end ModalEditor
