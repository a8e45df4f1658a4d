import ModalEditor.Proofs.Modal.Insertion

namespace ModalEditor

/-!
# Repeating is typing again

`.` runs the last command from what was kept of it: one count, the motion and the whole
text.  Typing it again goes through counts, operator and motion key by key, and puts
the text in character by character.  Both lead to the same workspace.
-/

/-! ## Commands that can be repeated -/

/-- What an operator is typed with: the zero, or a count or none and another motion. -/
inductive Aim where
  | lineStart
  | counted (count : Option CountNumeral) (motion : MotionKeys)

namespace Aim

/-- The keys after those of an operator. -/
def keys (operator : Operator) : Aim → List Key
  | .lineStart => [.char '0']
  | .counted count motion => countKeys count ++ motion.keys operator

/-- The count typed after the operator. -/
def count : Aim → Option CountNumeral
  | .lineStart => none
  | .counted count _ => count

/-- The motion of the operator. -/
def motion : Aim → Motion
  | .lineStart => .lineStart
  | .counted _ motion => motion.motion

theorem keys_ne_nil (operator : Operator) (aim : Aim) : aim.keys operator ≠ [] := by
  cases aim with
  | lineStart => exact List.cons_ne_nil _ _
  | counted count motion =>
      exact List.append_ne_nil_of_right_ne_nil _ (motion.keys_ne_nil operator)

end Aim

/-- The key of a way into Insert mode. -/
def InsertEntry.key : InsertEntry → Char
  | .beforeCursor => 'i'
  | .afterCursor => 'a'
  | .lineStart => 'I'
  | .lineEnd => 'A'
  | .openBelow => 'o'
  | .openAbove => 'O'

/-- What is typed after the count of a command that can be repeated. -/
inductive Stroke where
  | operate (operator : Operator) (starts : Operator.ofKey? operator.key = some operator)
      (repeatable : operator.isRepeatable = true) (aim : Aim)
  | shorten (shorthand : Shorthand)
  | replace (key : Key) (fill : Char) (fills : key.fill? = some fill)
  | enter (entry : InsertEntry)

theorem Shorthand.isRepeatable_operator (shorthand : Shorthand) :
    shorthand.operator.isRepeatable = true := by
  cases shorthand <;> rfl

/-- What a command does once it is typed. -/
inductive Verb where
  | operate (operator : Operator) (repeatable : operator.isRepeatable = true)
      (motion : Motion) (count : Count)
  | replace (fill : Char) (count : Nat)
  | insert (entry : InsertEntry)

namespace Verb

/-- Runs a command up to the text typed after it. -/
def run (work : Workspace) (surroundings : Surroundings) : Verb → Workspace × KeyOutcome
  | .operate operator _ motion count => work.operate surroundings operator motion count
  | .replace fill count => work.replaceChars fill count
  | .insert entry => (work.enterInsert entry, .modeChanged .insert)

/-- Whether text is typed after it. -/
def entersInsert : Verb → Bool
  | .operate operator .. => operator.entersInsert
  | .replace .. => false
  | .insert _ => true

/-- The command as it is kept, with the text typed after it. -/
def kept (typed : Text) : Verb → Repeatable
  | .operate operator _ motion count =>
      if operator.entersInsert then .change motion count typed
      else .operate operator motion count
  | .replace fill count => .replace fill count
  | .insert entry => .insert entry typed

end Verb

namespace Stroke

/-- The keys after the count. -/
def keys : Stroke → List Key
  | .operate operator _ _ aim => .char operator.key :: aim.keys operator
  | .shorten shorthand => [.char shorthand.key]
  | .replace key .. => [.char 'r', key]
  | .enter entry => [.char entry.key]

/-- What the keys say to do, after a count. -/
def verb (count : Option CountNumeral) : Stroke → Verb
  | .operate operator _ repeatable aim =>
      .operate operator repeatable aim.motion (typedSoFar count operator aim.count).total
  | .shorten shorthand =>
      .operate shorthand.operator shorthand.isRepeatable_operator shorthand.motion
        (typedSoFar count none none).total
  | .replace _ fill _ => .replace fill (typedSoFar count none none).total.value
  | .enter entry => .insert entry

end Stroke

/-- A command that can be repeated, as it is typed. -/
structure KeyedCommand where
  count : Option CountNumeral
  stroke : Stroke
  /-- What is typed then, if the command leads to Insert mode. -/
  typing : Typing

namespace KeyedCommand

/-- What the command does. -/
def verb (command : KeyedCommand) : Verb :=
  command.stroke.verb command.count

/-- The keys up to the text. -/
def opening (command : KeyedCommand) : List Key :=
  countKeys command.count ++ command.stroke.keys

/-- All keys, up to Escape where text is typed. -/
def keys (command : KeyedCommand) : List Key :=
  command.opening ++
    if command.verb.entersInsert then command.typing.keys ++ [.escape] else []

/-- The command as it is kept. -/
def kept (command : KeyedCommand) : Repeatable :=
  command.verb.kept command.typing.text

end KeyedCommand

theorem InsertEntry.startsCommand (entry : InsertEntry) : StartsCommand entry.key := by
  cases entry <;> decide

namespace Workspace

variable {work : Workspace} {surroundings : Surroundings}

/-! ## Typing up to the text -/

/-- After an operator comes what it is aimed at. -/
theorem typeKeys_aim (work : Workspace) (surroundings : Surroundings)
    (first : Option CountNumeral) (operator : Operator) (aim : Aim) :
    (work.awaiting (typedSoFar first operator none)).typeKeys surroundings
        (aim.keys operator) =
      settle (work.ready.operate surroundings operator aim.motion
        (typedSoFar first operator aim.count).total) := by
  cases aim with
  | counted count motion => exact typeKeys_motion work surroundings first count operator motion
  | lineStart =>
      -- Right after the operator a zero is no digit.
      have hDigit : (typedSoFar first operator none).withDigit? '0' = none := rfl
      have hMotion : Motion.ofKey? '0' = some .lineStart := rfl
      rw [Aim.keys, typeKeys_singleton,
        press_of_motion (awaiting_state _ _) rfl rfl hMotion hDigit, awaiting_enter_idle]
      rfl

/-- After a count or none, `r` waits for a character. -/
theorem Counted.press_replacement {count : Option CountNumeral} {next : Workspace}
    (h : work.Counted count next) (surroundings : Surroundings) :
    next.press surroundings (.char 'r') =
      (work.clampCursor.enter (.normal (.replacement (count.map CountNumeral.count))),
        .pending) := by
  have hClamp : (next.enter ModeState.idle).clampCursor = work.clampCursor := by
    rcases h.ready with hReady | hReady <;> rw [hReady]
    exact clampCursor_clampCursor work
  rw [press_of_startsCommand h.state rfl rfl (show StartsCommand 'r' by decide), ← hClamp,
    clampCursor_enter]
  rfl

/-- The character after `r` is filled in. -/
theorem press_of_replacement {count : Option Nat}
    (h : work.engine.state = .normal (.replacement count)) {key : Key} {fill : Char}
    (hFill : key.fill? = some fill) (surroundings : Surroundings) :
    work.press surroundings key =
      settle ((work.enter ModeState.idle).replaceChars fill
        (PendingCommand.total ⟨count, none, none, false⟩).value) := by
  rw [press, h]
  cases key with
  | char | enter =>
      cases hFill
      rfl
  | escape | backspace | ctrl => cases hFill

/-- The key of an entry starts its insert session, whatever count was typed. -/
theorem press_of_entry {pending : PendingCommand}
    (h : work.engine.state = .normal (.command pending)) (hG : pending.afterG = false)
    (hNone : pending.operator = none) (surroundings : Surroundings) (entry : InsertEntry) :
    work.press surroundings (.char entry.key) =
      settle ((work.enter ModeState.idle).enterInsert entry, .modeChanged .insert) := by
  rw [press_of_startsCommand h hG hNone entry.startsCommand]
  cases entry <;> rfl

/-- Up to the text, the keys of a command run what they say to do.  The cursor stands on
a character then, if keys were pending. -/
theorem typeKeys_opening (h : work.engine.state = ModeState.idle)
    (surroundings : Surroundings) (command : KeyedCommand) :
    ∃ base, (base = work ∨ base = work.clampCursor) ∧
      work.typeKeys surroundings command.opening =
        settle (command.verb.run base surroundings) := by
  obtain ⟨count, stroke, typing⟩ := command
  have hCounted := counted_typeKeys h surroundings count
  show ∃ base, _ ∧ work.typeKeys surroundings (countKeys count ++ stroke.keys) = _
  cases stroke with
  | operate operator starts repeatable aim =>
      refine ⟨work.ready, Or.inr ?_, ?_⟩
      · rw [ready, enter_of_state h]
      · rw [Stroke.keys, List.append_cons, typeKeys_append _ _ _ (aim.keys_ne_nil operator),
          typeKeys_operator h _ _ starts, typeKeys_aim]
        rfl
  | shorten shorthand =>
      refine ⟨_, hCounted.ready, ?_⟩
      rw [Stroke.keys, typeKeys_concat, press_of_shorthand hCounted.state rfl rfl]
      rfl
  | replace key fill fills =>
      refine ⟨work.clampCursor, Or.inr rfl, ?_⟩
      have hIdle : work.clampCursor.enter ModeState.idle = work.clampCursor :=
        enter_of_state (by rw [clampCursor_engine, h])
      rw [Stroke.keys, List.append_cons, typeKeys_concat, typeKeys_concat,
        hCounted.press_replacement, press_of_replacement rfl fills]
      show settle ((work.clampCursor.enter ModeState.idle).replaceChars fill _) = _
      rw [hIdle]
      rfl
  | enter entry =>
      refine ⟨_, hCounted.ready, ?_⟩
      rw [Stroke.keys, typeKeys_concat, press_of_entry hCounted.state rfl rfl]
      rfl

/-! ## What a command leads to -/

@[simp]
theorem runOperator_lastCommand (work : Workspace) (surroundings : Surroundings)
    (operator : Operator) (motion : Motion) (count : Count) :
    (work.runOperator surroundings operator motion count).1.engine.lastCommand =
      work.engine.lastCommand := by
  rw [runOperator_engine]

@[simp]
theorem goToEntry_lastCommand (work : Workspace) (entry : InsertEntry) :
    (work.goToEntry entry).engine.lastCommand = work.engine.lastCommand := by
  rw [goToEntry_engine]

@[simp]
theorem leaveInsert_lastCommand (work : Workspace) :
    work.leaveInsert.engine.lastCommand = work.engine.lastCommand := by
  rw [leaveInsert, stepBack_engine]
  rfl

@[simp]
theorem insertText_lastCommand (work : Workspace) (text : Text) :
    (work.insertText text).engine.lastCommand = work.engine.lastCommand := by
  rw [insertText_engine]

theorem remember_of_lastCommand {command : Repeatable}
    (h : work.engine.lastCommand = some command) : work.remember command = work := by
  rw [remember, ← h]

theorem Steady.run (h : work.Steady) (surroundings : Surroundings) (verb : Verb) :
    (verb.run work surroundings).1.Steady := by
  cases verb with
  | operate operator repeatable motion count => exact h.operate surroundings operator motion count
  | replace fill count => exact h.replaceChars fill count
  | insert entry => exact h.enterInsert entry

/-- With nothing pending `.` runs the last command as it was. -/
theorem press_repeat_of_idle (h : work.engine.state = ModeState.idle)
    (surroundings : Surroundings) :
    work.press surroundings (.char '.') = settle (work.repeatLast surroundings Count.once) := by
  rw [press_of_startsCommand h rfl rfl (show StartsCommand '.' by decide)]
  show settle ((work.enter ModeState.idle).repeatLast surroundings Count.once) = _
  rw [enter_of_state h]

/-- A command without text is kept if it did something. -/
theorem lastCommand_run {verb : Verb} (h : verb.entersInsert = false) (typed : Text)
    (hCancelled : (verb.run work surroundings).2 ≠ .cancelled)
    (hIgnored : (verb.run work surroundings).2 ≠ .ignored) :
    (verb.run work surroundings).1.engine.lastCommand = some (verb.kept typed) := by
  cases verb with
  | operate operator repeatable motion count =>
      have hInsert : operator.entersInsert = false := h
      simp only [Verb.run, operate, Verb.kept, hInsert, repeatable] at hCancelled hIgnored ⊢
      generalize work.runOperator surroundings operator motion count = result
        at hCancelled hIgnored ⊢
      obtain ⟨next, run⟩ := result
      cases run with
      | blocked => exact absurd rfl hCancelled
      | idle => exact absurd rfl hIgnored
      | copied | edited => rfl
  | replace fill count =>
      simp only [Verb.run, replaceChars, Verb.kept] at hIgnored ⊢
      split at hIgnored
      · rfl
      · exact absurd rfl hIgnored
  | insert entry => cases h

/-- Repeating a command without text is running it. -/
theorem repeatLast_eq_run {verb : Verb} (h : verb.entersInsert = false) {typed : Text}
    (hLast : work.engine.lastCommand = some (verb.kept typed)) :
    work.repeatLast surroundings Count.once = verb.run work surroundings := by
  cases verb with
  | operate operator repeatable motion count =>
      have hInsert : operator.entersInsert = false := h
      have hOperate : work.engine.lastCommand = some (.operate operator motion count) := by
        simpa [Verb.kept, hInsert] using hLast
      have hRun := runOperator_lastCommand work surroundings operator motion count
      rw [hOperate] at hRun
      have hRepeat : work.repeatLast surroundings Count.once =
          ((work.runOperator surroundings operator motion count).1,
            (work.runOperator surroundings operator motion count).2.outcome) := by
        rw [repeatLast, hOperate]
        rfl
      rw [hRepeat]
      simp only [Verb.run, operate, hInsert, repeatable]
      generalize work.runOperator surroundings operator motion count = result at hRun ⊢
      obtain ⟨next, run⟩ := result
      cases run with
      | blocked | idle => rfl
      | copied => exact congrArg (·, KeyOutcome.moved) (remember_of_lastCommand hRun).symm
      | edited => exact congrArg (·, KeyOutcome.edited) (remember_of_lastCommand hRun).symm
  | replace fill count =>
      rw [repeatLast, hLast, Verb.run, replaceChars]
      simp only [Verb.kept, Count.once, Bool.false_eq_true, if_false]
      cases hNext : work.overwrite? fill count with
      | none => rfl
      | some next =>
          have hKept : next.engine.lastCommand = some (.replace fill count) := by
            rw [overwrite?, Option.map_eq_some_iff] at hNext
            obtain ⟨outcome, -, rfl⟩ := hNext
            exact hLast
          exact congrArg (·, KeyOutcome.edited) (remember_of_lastCommand hKept).symm
  | insert entry => cases h

/-- An insert session that a command with text starts: the workspace that it starts in,
and what is recorded of the command. -/
structure Starts (work : Workspace) (surroundings : Surroundings) (verb : Verb)
    (next : Workspace) (recording : Recording) : Prop where
  steady : next.Steady
  lastCommand : next.engine.lastCommand = work.engine.lastCommand
  finish : ∀ typed, recording.finish typed = verb.kept typed
  run : verb.run work surroundings =
    (next.beginInsert (some recording), .modeChanged .insert)
  again : ∀ typed, work.engine.lastCommand = some (verb.kept typed) →
    work.repeatLast surroundings Count.once = ((next.insertText typed).leaveInsert, .edited)

/-- A command with text starts an insert session, or is cancelled, typed or repeated. -/
theorem starts_or_cancelled (h : work.Steady) (surroundings : Surroundings) {verb : Verb}
    (hInsert : verb.entersInsert = true) :
    (∃ next recording, work.Starts surroundings verb next recording) ∨
      (verb.run work surroundings).2 = .cancelled ∧
        ∀ typed, work.engine.lastCommand = some (verb.kept typed) →
          (work.repeatLast surroundings Count.once).2 = .cancelled := by
  cases verb with
  | operate operator repeatable motion count =>
      obtain rfl : operator = .change := by
        cases operator <;> first | rfl | cases hInsert
      have hSteady := h.runOperator surroundings .change motion count
      have hRun := runOperator_lastCommand work surroundings .change motion count
      by_cases hBlocked : (work.runOperator surroundings .change motion count).2 = .blocked
      · refine Or.inr ⟨?_, fun typed hLast => ?_⟩
        · simp [Verb.run, operate, hBlocked, OperatorRun.outcome]
        · rw [repeatLast, hLast]
          simp [Verb.kept, Operator.entersInsert, Count.once, hBlocked, OperatorRun.outcome]
      · refine Or.inl ⟨(work.runOperator surroundings .change motion count).1,
          .change motion count, hSteady, hRun, fun typed => rfl, ?_, fun typed hLast => ?_⟩
        · simp [Verb.run, operate, hBlocked, Operator.entersInsert]
        · rw [repeatLast, hLast]
          simp [Verb.kept, Operator.entersInsert, Count.once, hBlocked]
  | replace fill count => cases hInsert
  | insert entry =>
      refine Or.inl ⟨(work.setGoal none).goToEntry entry, .insert entry,
        (h.setGoal none).goToEntry entry, goToEntry_lastCommand _ entry, fun typed => rfl, rfl,
        fun typed hLast => ?_⟩
      rw [repeatLast, hLast]
      rfl

/-- Leaving Insert mode ends on a character. -/
theorem settle_leaveInsert (h : work.buffer.Coherent) (outcome : KeyOutcome) :
    settle (work.leaveInsert, outcome) = (work.leaveInsert, outcome) := by
  have hMode : work.leaveInsert.engine.mode = .normal := by
    rw [leaveInsert, stepBack]
    split <;> rfl
  have hIdle : (work.enter ModeState.idle).buffer.Coherent := h
  have hOn : work.leaveInsert.buffer.OnCharacter := onCharacter_stepBack hIdle
  simp only [settle, hMode, clampCursor_of_onCharacter hOn]

/-- Once its session was started, a command with text goes on to the end of it. -/
theorem Starts.typeKeys_append {verb : Verb} {next : Workspace} {recording : Recording}
    (h : work.Starts surroundings verb next recording) (typing : Typing) :
    (settle (verb.run work surroundings)).1.typeKeys surroundings
        (typing.keys ++ [.escape]) =
      (((next.insertText typing.text).remember (verb.kept typing.text)).leaveInsert,
        .modeChanged .normal) := by
  have hSettle : settle (verb.run work surroundings) =
      (next.beginInsert (some recording), .modeChanged .insert) := by
    rw [h.run]
    rfl
  rw [hSettle, typeKeys_session surroundings (some recording) h.steady.cursor typing, ← h.finish]
  rfl

/-! ## Typing a command and repeating it -/

/-- Up to the text, a command is run from where the cursor is, if it is on a character,
and from a place in the text in any case. -/
theorem Coherent.typeKeys_opening (h : work.Coherent)
    (hIdle : work.engine.state = ModeState.idle) (surroundings : Surroundings)
    (command : KeyedCommand) :
    ∃ base, base.Steady ∧ (work.buffer.OnCharacter → base = work) ∧
      work.typeKeys surroundings command.opening =
        Workspace.settle (command.verb.run base surroundings) := by
  obtain ⟨base, hBase, hOpening⟩ := Workspace.typeKeys_opening hIdle surroundings command
  refine ⟨base, ?_, fun hOn => ?_, hOpening⟩
  · rcases hBase with rfl | rfl
    · exact h.steady_of_normal hIdle
    · exact h.clampCursor.steady_of_normal (by rw [clampCursor_engine, hIdle]; rfl)
  · rcases hBase with rfl | rfl
    · rfl
    · exact clampCursor_of_onCharacter hOn

/-- A command that was typed leaves the cursor where it belongs, wherever it was. -/
theorem Coherent.wellPlaced_typeKeys (h : work.Coherent)
    (hIdle : work.engine.state = ModeState.idle) (surroundings : Surroundings)
    (command : KeyedCommand) :
    (work.typeKeys surroundings command.keys).1.WellPlaced := by
  obtain ⟨base, hSteady, -, hOpening⟩ := h.typeKeys_opening hIdle surroundings command
  have hFollows := (hSteady.run surroundings command.verb).follows work.clampCursor
  have hOpened : (work.typeKeys surroundings command.opening).1.WellPlaced := by
    rw [hOpening]
    exact hFollows.wellPlaced_settle (onCharacter_clampCursor h.cursor)
  rw [typeKeys_fst] at hOpened ⊢
  rw [KeyedCommand.keys, List.map_append, Workspace.pressAll, List.foldl_append]
  exact hOpened.pressAll _

/-- A command that was neither cancelled nor ignored is the last command. -/
theorem Coherent.lastCommand_typeKeys (h : work.Coherent)
    (hIdle : work.engine.state = ModeState.idle) {command : KeyedCommand}
    (hCancelled : (work.typeKeys surroundings command.opening).2 ≠ .cancelled)
    (hIgnored : (work.typeKeys surroundings command.opening).2 ≠ .ignored) :
    (work.typeKeys surroundings command.keys).1.engine.lastCommand = some command.kept := by
  obtain ⟨base, hSteady, -, hOpening⟩ := h.typeKeys_opening hIdle surroundings command
  rw [hOpening, settle_outcome] at hCancelled hIgnored
  cases hInsert : command.verb.entersInsert with
  | false =>
      have hKeys : command.keys = command.opening := by
        simp [KeyedCommand.keys, hInsert]
      rw [hKeys, hOpening, settle_engine]
      exact lastCommand_run hInsert _ hCancelled hIgnored
  | true =>
      rcases starts_or_cancelled hSteady surroundings hInsert with
        ⟨next, recording, hStarts⟩ | ⟨hRefused, -⟩
      · have hKeys : command.keys = command.opening ++ (command.typing.keys ++ [.escape]) := by
          simp [KeyedCommand.keys, hInsert]
        rw [hKeys, typeKeys_append _ _ _ (by simp), hOpening, hStarts.typeKeys_append]
        exact leaveInsert_lastCommand _
      · exact absurd hRefused hCancelled

/-- Repeating the last command is typing it again, unless it is a change that is
cancelled. -/
theorem WellPlaced.press_repeat (h : work.WellPlaced)
    (hIdle : work.engine.state = ModeState.idle) {command : KeyedCommand}
    (hLast : work.engine.lastCommand = some command.kept)
    (hRuns : command.verb.entersInsert = true →
      (work.press surroundings (.char '.')).2 ≠ .cancelled) :
    (work.press surroundings (.char '.')).1 =
      (work.typeKeys surroundings command.keys).1 := by
  have hMode : work.engine.mode = .normal := by
    rw [Engine.mode, hIdle]
    rfl
  have hOn : work.buffer.OnCharacter := h.onCharacter (by simp [hMode])
  obtain ⟨base, hSteady, hBase, hOpening⟩ :=
    h.coherent.typeKeys_opening hIdle surroundings command
  rw [hBase hOn] at hSteady hOpening
  rw [press_repeat_of_idle hIdle] at hRuns ⊢
  cases hInsert : command.verb.entersInsert with
  | false =>
      have hKeys : command.keys = command.opening := by
        simp [KeyedCommand.keys, hInsert]
      rw [hKeys, hOpening, repeatLast_eq_run hInsert hLast]
  | true =>
      rcases starts_or_cancelled hSteady surroundings hInsert with
        ⟨next, recording, hStarts⟩ | ⟨-, hRefused⟩
      · have hKeys : command.keys = command.opening ++ (command.typing.keys ++ [.escape]) := by
          simp [KeyedCommand.keys, hInsert]
        have hKept : (next.insertText command.typing.text).engine.lastCommand =
            some command.kept := by
          rw [insertText_lastCommand, hStarts.lastCommand, hLast]
        rw [hKeys, typeKeys_append _ _ _ (by simp), hOpening, hStarts.typeKeys_append,
          hStarts.again _ hLast, settle_leaveInsert (hStarts.steady.insertText _).cursor]
        exact congrArg leaveInsert (remember_of_lastCommand hKept).symm
      · rw [settle_outcome] at hRuns
        exact absurd (hRefused _ hLast) (hRuns hInsert)

/-- A command that was typed with nothing pending becomes the last command, unless it is
refused.  Whenever it is the last command later on, with nothing pending, repeating it
leads to the same workspace as typing it again, unless a change is cancelled. -/
theorem repeat_eq_typing_again {buffer : Buffer} (hBuffer : buffer.Coherent)
    (earlier : List (Surroundings × Key))
    (hMode : ((ofBuffer buffer).pressAll earlier).engine.mode = .normal)
    (hPending : ((ofBuffer buffer).pressAll earlier).engine.state.isPending = false)
    (first : Surroundings) (command : KeyedCommand) :
    let before := (ofBuffer buffer).pressAll earlier
    let opened := before.typeKeys first command.opening
    let typed := (before.typeKeys first command.keys).1
    (opened.2 ≠ .cancelled → opened.2 ≠ .ignored →
        typed.engine.lastCommand = some command.kept) ∧
      ∀ (later : List (Surroundings × Key)) (second : Surroundings),
        let after := typed.pressAll later
        after.engine.mode = .normal → after.engine.state.isPending = false →
        after.engine.lastCommand = some command.kept →
        (command.verb.entersInsert = true →
          (after.press second (.char '.')).2 ≠ .cancelled) →
        (after.press second (.char '.')).1 = (after.typeKeys second command.keys).1 := by
  intro before opened typed
  have hCoherent : before.Coherent := (coherent_ofBuffer hBuffer).pressAll earlier
  have hIdle : before.engine.state = ModeState.idle := ModeState.eq_idle hMode hPending
  refine ⟨hCoherent.lastCommand_typeKeys hIdle, ?_⟩
  intro later second after hModeAfter hPendingAfter hLast hRuns
  have hAfter : after.WellPlaced :=
    (hCoherent.wellPlaced_typeKeys hIdle first command).pressAll later
  exact hAfter.press_repeat (ModeState.eq_idle hModeAfter hPendingAfter) hLast hRuns

/-- A word is changed, with a character taken back in between, and so is the next one. -/
theorem changed_word_is_changed_again :
    let before := (ofBuffer (Buffer.ofText ['a', 'b', ' ', 'c', 'd'])).pressAll []
    let command : KeyedCommand :=
      { count := none
        stroke := .operate .change rfl rfl
          (.counted none (.single 'w' .wordForward rfl (by decide)))
        typing := ⟨[.char 'x', .char 'y', .backspace], ['x'], rfl⟩ }
    let typed := (before.typeKeys Surroundings.unknown command.keys).1
    let after := typed.pressAll [(Surroundings.unknown, .char 'w')]
    (before.engine.mode = .normal ∧ before.engine.state.isPending = false) ∧
      (after.engine.mode = .normal ∧ after.engine.state.isPending = false ∧
        after.engine.lastCommand = some command.kept ∧
        (after.press Surroundings.unknown (.char '.')).2 ≠ .cancelled) ∧
      (after.press Surroundings.unknown (.char '.')).1 =
        (after.typeKeys Surroundings.unknown command.keys).1 ∧
      (after.press Surroundings.unknown (.char '.')).1.buffer.text = ['x', ' ', 'x'] := by
  have hBuffer := Buffer.coherent_ofText ['a', 'b', ' ', 'c', 'd']
  have hRepeat := (repeat_eq_typing_again hBuffer [] rfl rfl Surroundings.unknown
    { count := none
      stroke := .operate .change rfl rfl
        (.counted none (.single 'w' .wordForward rfl (by decide)))
      typing := ⟨[.char 'x', .char 'y', .backspace], ['x'], rfl⟩ }).2
    [(Surroundings.unknown, .char 'w')] Surroundings.unknown
  refine ⟨by decide +kernel, by decide +kernel, hRepeat ?_ ?_ ?_ ?_, by decide +kernel⟩
  · decide +kernel
  · decide +kernel
  · decide +kernel
  · intro _
    decide +kernel

end Workspace

end ModalEditor
