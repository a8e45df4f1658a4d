import ModalEditor.Proofs.Modal.KeptColumn
import ModalEditor.Proofs.Operator.Taking

namespace ModalEditor

/-!
# What an operator takes of a selection

A selection goes from the anchor, where `v` was typed, to the cursor, in either
direction and with both of its ends.  Keys that stay in Visual mode move the cursor and
leave the anchor, the text and the register alone.  So an operator finds the text of
before, and takes all that is between the two places, as far as the text goes.
-/

namespace Operator

/-- The characters from one offset to another, in either direction, with those at both
ends. -/
def covered (text : Text) (first last : Nat) : Text :=
  slice text (min first last) (max first last + 1)

/-- What is left of a text without them. -/
def uncovered (text : Text) (first last : Nat) : Text :=
  text.take (min first last) ++ text.drop (max first last + 1)

theorem covered_nil (first last : Nat) : covered [] first last = [] := by
  simp [covered, slice]

/-- The characters of a span with both of its ends. -/
theorem charSpan_inclusive (text : Text) (first last : Position) :
    charSpan text ⟨first, last, true, false⟩ =
      (min first.offset last.offset, min (max first.offset last.offset + 1) text.length) := by
  refine Prod.ext (charSpan_fst text _) ?_
  rw [charSpan_snd, if_pos rfl]

section Selection

variable {buffer : Buffer} {operator : Operator} {anchor cursor : Position}

/-- What goes to the register, if there is any of it. -/
theorem spanWrite?_inclusive (buffer : Buffer) (anchor cursor : Position) :
    spanWrite? buffer ⟨anchor, cursor, true, false⟩ =
      let taken := covered buffer.text anchor.offset cursor.offset
      if taken = [] then none else some ⟨taken, false⟩ := by
  have hTaken : slice buffer.text (min anchor.offset cursor.offset)
      (min (max anchor.offset cursor.offset + 1) buffer.text.length) =
        covered buffer.text anchor.offset cursor.offset := by
    rw [covered, slice, slice, ← List.take_eq_take_min]
  have hNone : min (max anchor.offset cursor.offset + 1) buffer.text.length ≤
      min anchor.offset cursor.offset ↔ covered buffer.text anchor.offset cursor.offset = [] := by
    rw [covered, slice, List.drop_eq_nil_iff, List.length_take]
  simp only [spanWrite?, charSpan_inclusive, Bool.false_eq_true, if_false, ge_iff_le, hNone,
    hTaken]

/-- Where there is nothing to take, an operator does nothing. -/
theorem apply_of_covered_eq_nil (hTakes : operator.takesSpan = true)
    (hNone : covered buffer.text anchor.offset cursor.offset = []) :
    operator.apply buffer ⟨anchor, cursor, true, false⟩ 1 = none := by
  by_cases hText : buffer.text = []
  · rw [apply.eq_def, hText]
    rfl
  · have hSame := apply_write hText hTakes ⟨anchor, cursor, true, false⟩ 1
    rwa [spanWrite?_inclusive, if_pos hNone, Option.map_none, Option.map_eq_none_iff] at hSame

/-- What there is to take goes to the register, and is cut out unless it is only copied. -/
theorem exists_apply_of_covered_ne_nil (hTakes : operator.takesSpan = true)
    (hSome : covered buffer.text anchor.offset cursor.offset ≠ []) :
    ∃ outcome, operator.apply buffer ⟨anchor, cursor, true, false⟩ 1 = some outcome ∧
      outcome.write = some ⟨covered buffer.text anchor.offset cursor.offset, false⟩ ∧
      outcome.text.getD buffer.text =
        if operator.removesSpan then uncovered buffer.text anchor.offset cursor.offset
        else buffer.text := by
  have hText : buffer.text ≠ [] := by
    intro hNil
    rw [hNil, covered_nil] at hSome
    exact hSome rfl
  have hWrite := (spanWrite?_inclusive buffer anchor cursor).trans (if_neg hSome)
  obtain ⟨outcome, hOutcome, hWritten⟩ := exists_apply_of_spanWrite? hText hWrite hTakes 1
  refine ⟨outcome, hOutcome, hWritten, ?_⟩
  cases hRemoves : operator.removesSpan with
  | true =>
      rw [apply_of_removesSpan hText hRemoves, if_neg Bool.false_ne_true] at hOutcome
      obtain ⟨-, hLeft, -⟩ := deleteChars_eq_some hOutcome
      rw [hLeft, charSpan_inclusive, ← List.drop_eq_drop_min]
      rfl
  | false =>
      obtain rfl : operator = .yank := by
        cases operator with
        | yank => rfl
        | delete | change => cases hRemoves
        | indent | outdent | replace => cases hTakes
      rw [apply_yank hText] at hOutcome
      rw [yankSpan_text hOutcome]
      rfl

/-- Without what is covered nothing is left out where that is nothing. -/
theorem uncovered_of_covered_eq_nil {text : Text} {first last : Nat}
    (h : covered text first last = []) : uncovered text first last = text := by
  rw [covered, slice, List.drop_eq_nil_iff, List.length_take] at h
  rw [uncovered, List.drop_eq_nil_of_le (by omega), List.append_nil,
    List.take_of_length_le (by omega)]

end Selection

end Operator

namespace Workspace

variable {work next : Workspace} {anchor : Position}

/-! ## Keys that go on selecting -/

/-- A workspace where the selection from an anchor goes on, with the text and the register
of before. -/
structure Selects (work : Workspace) (anchor : Position) (next : Workspace) : Prop where
  anchor : next.engine.state.anchor = some anchor
  text : next.buffer.text = work.buffer.text
  register : next.register = work.register

theorem Selects.settle {result : Workspace × KeyOutcome} (h : work.Selects anchor result.1) :
    work.Selects anchor (settle result).1 :=
  ⟨by rw [settle_engine, h.anchor], by rw [settle_text, h.text],
    by rw [settle_register, h.register]⟩

/-- In Visual mode there is an anchor. -/
theorem state_of_anchor {state : ModeState} (h : state.anchor = some anchor) :
    ∃ count afterG, state = .visual anchor count afterG := by
  cases state with
  | visual _ count afterG =>
      cases h
      exact ⟨count, afterG, rfl⟩
  | normal | insert | prompt => cases h

/-- A key that stays in Visual mode leaves all but the cursor alone. -/
theorem selects_press (h : work.engine.state.anchor = some anchor) (surroundings : Surroundings)
    (key : Key) (hVisual : (work.press surroundings key).1.engine.mode = .visual) :
    work.Selects anchor (work.press surroundings key).1 := by
  obtain ⟨count, afterG, hState⟩ := state_of_anchor h
  have hPress : work.press surroundings key =
      settle (work.pressVisual surroundings anchor count afterG key) := by
    rw [press, hState]
  rw [hPress, settle_engine] at hVisual
  rw [hPress]
  refine Selects.settle ?_
  have hSelect (count : Option Nat) (afterG : Bool) :
      work.Selects anchor (work.enter (.visual anchor count afterG)) := ⟨rfl, rfl, rfl⟩
  cases key with
  | escape => cases hVisual
  | enter | backspace | ctrl => exact hSelect none false
  | char c =>
      revert hVisual
      refine pressVisualChar_cases (P := fun result => result.1.engine.mode = .visual →
        work.Selects anchor result.1) ?_ ?_ ?_ ?_ ?_ ?_
      · exact fun _ _ _ => ⟨rfl, rfl, rfl⟩
      · exact fun count afterG _ => hSelect count afterG
      -- An operator ends the selection.
      · intro operator _ hVisual
        rw [operateOnSelection] at hVisual
        split at hVisual <;> cases hVisual
      · exact fun _ hVisual => by cases hVisual
      · exact fun hVisual => by cases hVisual
      · exact fun _ _ => hSelect none false

/-- Keys that stay in Visual mode throughout leave all but the cursor alone. -/
theorem selects_pressAll (h : work.engine.state.anchor = some anchor)
    {keys : List (Surroundings × Key)}
    (hVisual : ∀ n, (work.pressAll (keys.take n)).engine.mode = .visual) :
    work.Selects anchor (work.pressAll keys) := by
  induction keys generalizing work with
  | nil => exact ⟨h, rfl, rfl⟩
  | cons key keys ih =>
      have hFirst := selects_press h key.1 key.2 (hVisual 1)
      have hRest := ih hFirst.anchor fun n => hVisual (n + 1)
      exact ⟨hRest.anchor, hRest.text.trans hFirst.text, hRest.register.trans hFirst.register⟩

/-! ## Operators on a selection -/

theorem perform_register (work : Workspace) (outcome : OperatorOutcome) :
    (work.perform outcome).register = outcome.write.elim work.register work.register.write :=
  rfl

/-- Each of the operators that take a span takes what the selection covers. -/
theorem operateOnSelection_of_takesSpan (h : work.buffer.Coherent) (anchor : Position)
    {operator : Operator} (hTakes : operator.takesSpan = true) :
    let taken := Operator.covered work.buffer.text anchor.offset work.buffer.cursor.offset
    let next := (work.operateOnSelection anchor operator).1
    next.register = (if taken = [] then work.register else work.register.write ⟨taken, false⟩) ∧
      next.buffer.text =
        (if operator.removesSpan then
          Operator.uncovered work.buffer.text anchor.offset work.buffer.cursor.offset
        else work.buffer.text) ∧
      next.engine.state = if operator.entersInsert then .insert none [] else ModeState.idle := by
  intro taken next
  have hLines : ¬(operator = .indent ∨ operator = .outdent) := by
    rintro (rfl | rfl) <;> cases hTakes
  let done := (operator.apply work.buffer ⟨anchor, work.buffer.cursor, true, false⟩ 1).elim work
    work.perform
  have hNext : next = done.enter
      (if operator.entersInsert then .insert none [] else ModeState.idle) := by
    simp only [next, done, operateOnSelection, h.settled_eq, hLines]
    split <;> rfl
  rw [hNext]
  by_cases hNone : taken = []
  · have hDone : done = work := congrArg (Option.elim · work work.perform)
      (Operator.apply_of_covered_eq_nil hTakes hNone)
    rw [hDone, if_pos hNone, Operator.uncovered_of_covered_eq_nil hNone]
    exact ⟨rfl, (ite_self _).symm, rfl⟩
  · obtain ⟨outcome, hOutcome, hWrite, hText⟩ :=
      Operator.exists_apply_of_covered_ne_nil hTakes hNone
    have hDone : done = work.perform outcome :=
      congrArg (Option.elim · work work.perform) hOutcome
    rw [hDone, if_neg hNone]
    refine ⟨?_, (work.perform_text outcome).trans hText, rfl⟩
    show (work.perform outcome).register = _
    rw [perform_register, hWrite]
    rfl

/-- With nothing else pending, each of the keys runs an operator that takes the selection. -/
theorem exists_press_of_takingKey (h : work.engine.state = .visual anchor none false)
    {key : Char} (hKey : key ∈ ['y', 'd', 'x', 'c']) (surroundings : Surroundings) :
    ∃ operator : Operator, operator.takesSpan = true ∧
      operator.removesSpan = !decide (key = 'y') ∧ operator.entersInsert = decide (key = 'c') ∧
      work.press surroundings (.char key) = settle (work.operateOnSelection anchor operator) := by
  have hPress : work.press surroundings (.char key) =
      settle (work.pressVisualChar surroundings anchor none false key) := by
    rw [press, h]
    rfl
  rw [hPress]
  simp only [List.mem_cons, List.not_mem_nil, or_false] at hKey
  rcases hKey with rfl | rfl | rfl | rfl
  · exact ⟨.yank, rfl, rfl, rfl, rfl⟩
  · exact ⟨.delete, rfl, rfl, rfl, rfl⟩
  · exact ⟨.delete, rfl, rfl, rfl, rfl⟩
  · exact ⟨.change, rfl, rfl, rfl, rfl⟩

/-- With `v` a selection starts at the cursor. -/
theorem press_v_of_idle (h : work.engine.state = ModeState.idle) (hOn : work.buffer.OnCharacter)
    (surroundings : Surroundings) :
    work.press surroundings (.char 'v') =
      (work.enter (.visual work.buffer.cursor none false), .modeChanged .visual) := by
  have hPress : work.press surroundings (.char 'v') =
      settle (work.enter (.visual work.buffer.cursor none false), .modeChanged .visual) := by
    rw [press, h]
    rfl
  rw [hPress]
  exact settle_of_onCharacter hOn

/-- However a selection was made, from `v` on and without leaving Visual mode, the text and
the register are those of before and the anchor is where the cursor was.  With nothing
pending, `y`, `d`, `x` and `c` take exactly the characters from the anchor to the cursor,
with both ends, as far as the text goes. -/
theorem selection_operators_take_what_is_selected (h : work.IsReachable)
    (hMode : work.engine.mode = .normal) (hIdle : work.engine.state.isPending = false)
    {start : Surroundings} {keys : List (Surroundings × Key)}
    (hVisual : ∀ n,
      ((work.press start (.char 'v')).1.pressAll (keys.take n)).engine.mode = .visual)
    (hPending : ((work.press start (.char 'v')).1.pressAll keys).engine.state.isPending = false) :
    let selected := (work.press start (.char 'v')).1.pressAll keys
    let text := work.buffer.text
    let first := work.buffer.cursor.offset
    let last := selected.buffer.cursor.offset
    let taken := (text.take (max first last + 1)).drop (min first last)
    let left := text.take (min first last) ++ text.drop (max first last + 1)
    selected.buffer.text = text ∧ selected.register = work.register ∧
      selected.engine.state.anchor = some work.buffer.cursor ∧
      ∀ surroundings, ∀ key ∈ ['y', 'd', 'x', 'c'],
        let next := (selected.press surroundings (.char key)).1
        next.register =
            (if taken = [] then work.register else work.register.write ⟨taken, false⟩) ∧
          next.buffer.text = (if key = 'y' then text else left) ∧
          next.engine.state.anchor = none ∧
          next.engine.mode = if key = 'c' then .insert else .normal := by
  intro selected text first last taken left
  have hStart := press_v_of_idle (ModeState.eq_idle hMode hIdle)
    (h.wellPlaced.onCharacter (by simp [hMode])) start
  have hCoherent : selected.buffer.Coherent :=
    ((h.wellPlaced.press start (.char 'v')).pressAll keys).coherent.cursor
  -- The key `v` itself changes nothing but the state.
  obtain ⟨hAnchor, hText, hRegister⟩ : work.Selects work.buffer.cursor selected := by
    have hRun := selects_pressAll (by rw [hStart]; rfl) hVisual
    rw [hStart] at hRun
    have hSelected : selected =
        (work.enter (.visual work.buffer.cursor none false)).pressAll keys :=
      congrArg (fun result : Workspace × KeyOutcome => result.1.pressAll keys) hStart
    rw [hSelected]
    exact ⟨hRun.anchor, hRun.text, hRun.register⟩
  have hState : selected.engine.state = .visual work.buffer.cursor none false := by
    obtain ⟨count, afterG, hState⟩ := state_of_anchor hAnchor
    have hNothing : (ModeState.visual work.buffer.cursor count afterG).isPending = false :=
      hState ▸ hPending
    rw [hState]
    cases count <;> cases afterG <;> first | rfl | cases hNothing
  refine ⟨hText, hRegister, hAnchor, fun surroundings key hKey => ?_⟩
  obtain ⟨operator, hTakes, hRemoves, hInsert, hPress⟩ :=
    exists_press_of_takingKey hState hKey surroundings
  obtain ⟨hWritten, hLeft, hAfter⟩ :=
    operateOnSelection_of_takesSpan hCoherent work.buffer.cursor hTakes
  rw [hText, hRegister] at hWritten
  rw [hText, hRemoves] at hLeft
  rw [hInsert] at hAfter
  intro next
  have hNext : next = (settle (selected.operateOnSelection work.buffer.cursor operator)).1 :=
    congrArg Prod.fst hPress
  rw [hNext, settle_register, settle_text, settle_engine, Engine.mode, hAfter]
  refine ⟨hWritten, ?_, ?_, ?_⟩
  · rw [hLeft]
    by_cases hYank : key = 'y' <;> simp [hYank] <;> rfl
  · by_cases hChange : key = 'c' <;> simp [hChange] <;> rfl
  · by_cases hChange : key = 'c' <;> simp [hChange] <;> rfl

/-- From the third character back to the second, `d` takes both of them. -/
theorem selection_backwards_takes_both_ends :
    let work := (ofBuffer ⟨['a', 'β', 'c', 'd'], Position.origin, 4⟩).pressAll
      [(Surroundings.unknown, .char '2'), (Surroundings.unknown, .char 'l')]
    let keys := [(Surroundings.unknown, Key.char 'h')]
    let selected := (work.press Surroundings.unknown (.char 'v')).1.pressAll keys
    (work.IsReachable ∧ work.engine.mode = .normal ∧ work.engine.state.isPending = false ∧
        (∀ n, ((work.press Surroundings.unknown (.char 'v')).1.pressAll
          (keys.take n)).engine.mode = .visual) ∧
        selected.engine.state.isPending = false) ∧
      (selected.press Surroundings.unknown (.char 'd')).1.buffer.text = ['a', 'd'] ∧
      (selected.press Surroundings.unknown (.char 'd')).1.register =
        ⟨some ⟨['β', 'c'], false⟩, 1⟩ := by
  intro work keys
  have hReachable : work.IsReachable := ⟨['a', 'β', 'c', 'd'], 4, Register.empty, _, rfl⟩
  have hMode : work.engine.mode = .normal := by decide +kernel
  have hIdle : work.engine.state.isPending = false := by decide +kernel
  have hVisual (n : Nat) : ((work.press Surroundings.unknown (.char 'v')).1.pressAll
      (keys.take n)).engine.mode = .visual := by
    cases n with
    | zero => decide +kernel
    | succ n =>
        rw [List.take_of_length_le (Nat.le_add_left 1 n)]
        decide +kernel
  have hPending : ((work.press Surroundings.unknown (.char 'v')).1.pressAll
      keys).engine.state.isPending = false := by decide +kernel
  obtain ⟨-, -, -, hTakes⟩ :=
    selection_operators_take_what_is_selected hReachable hMode hIdle hVisual hPending
  obtain ⟨hRegister, hText, -⟩ := hTakes Surroundings.unknown 'd' (by decide)
  refine ⟨⟨hReachable, hMode, hIdle, hVisual, hPending⟩, ?_, ?_⟩
  · rw [hText]
    decide +kernel
  · rw [hRegister]
    decide +kernel

end Workspace

end ModalEditor
