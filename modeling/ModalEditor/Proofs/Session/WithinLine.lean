import ModalEditor.Proofs.Operator.WithinLine
import ModalEditor.Proofs.Session.Standing
import ModalEditor.Proofs.Session.Typing

namespace ModalEditor

/-!
# Commands that take characters out of a line

The keys `x`, `D` and `C`, and `d` with a motion along the line, are meant for the line of
the cursor.  The operator `d` and the digits of a count put the cursor on a character before
the motion is typed, and `x` stops at the end of the line.  The keys `D` and `C` alone go by
the cursor as they find it.  Undoing and searching may have left it on the line break, and
there they take the last character and the line break, and the line below moves up.
-/

/-- The commands that take characters out of a line, as they are typed, other than `D` and
`C`. -/
inductive TakesFromLine : List Key → Prop
  | character (count : Option CountNumeral) : TakesFromLine (countKeys count ++ [.char 'x'])
  | right (first second : Option CountNumeral) :
      TakesFromLine (countKeys first ++ .char 'd' :: (countKeys second ++ [.char 'l']))
  | left (first second : Option CountNumeral) :
      TakesFromLine (countKeys first ++ .char 'd' :: (countKeys second ++ [.char 'h']))
  | firstNonBlank (first second : Option CountNumeral) :
      TakesFromLine (countKeys first ++ .char 'd' :: (countKeys second ++ [.char '^']))
  | lineStart (first : Option CountNumeral) :
      TakesFromLine (countKeys first ++ [.char 'd', .char '0'])
  | lineEnd : TakesFromLine [.char 'd', .char '$']

namespace Workspace

variable {work : Workspace} {surroundings : Surroundings} {keys : List Key}

/-! ## Operators along a line -/

theorem operate_text (work : Workspace) (surroundings : Surroundings) (operator : Operator)
    (motion : Motion) (count : Count) :
    (work.operate surroundings operator motion count).1.buffer.text =
      (work.runOperator surroundings operator motion count).1.buffer.text := by
  simp only [operate]
  split
  · rfl
  · split
    · rfl
    · split <;> rfl

/-- An operator that takes characters leaves the text without the span of its motion. -/
theorem operate_text_of_removesSpan (h : work.buffer.Coherent) {operator : Operator}
    (hRemoves : operator.removesSpan = true) {motion : Motion} (hChars : motion.isLinewise = false)
    (hWord : motion ≠ .wordForward) (surroundings : Surroundings) (count : Count) :
    (work.operate surroundings operator motion count).1.buffer.text =
      Operator.withoutSpan work.buffer.text
        (motion.span work.buffer.lines work.buffer.cursor count ⟨true, none, surroundings⟩) := by
  generalize hSpan : motion.span work.buffer.lines work.buffer.cursor count
    ⟨true, none, surroundings⟩ = span
  have hVertical : motion.isVertical = false := by
    cases motion <;> first | rfl | cases hChars
  have hOperatorSpan : operatorSpan? work.buffer surroundings operator motion count =
      some span := by
    simp [operatorSpan?, hWord, hVertical, hSpan]
  have hCharSpan : span.linewise = false := by
    rw [← hSpan]
    exact Motion.span_linewise hChars _ _ _ _
  rw [operate_text, ← Operator.apply_text_of_removesSpan hRemoves hCharSpan count.value]
  simp only [runOperator, h.settled_eq, hOperatorSpan]
  cases operator.apply work.buffer span count.value with
  | none => rfl
  | some outcome => exact (work.setGoal none).perform_text outcome

/-- Putting the cursor on a character does not take it off its line. -/
theorem clampCursor_line (h : work.buffer.Coherent) :
    work.clampCursor.buffer.cursor.line = work.buffer.cursor.line := by
  simp only [clampCursor]
  split
  · exact Position.min_lastLine_of_lt h.bounds.1
  · rfl

/-! ## Commands as they are typed -/

/-- Whether keys, of which all but the last wait for more, come to deleting along the line:
with a motion that stops on it, or with the one to its end and the cursor put on a character
first. -/
structure DeletesAlongLine (work : Workspace) (surroundings : Surroundings) (keys : List Key) :
    Prop where
  waits : ∃ earlier key, keys = earlier ++ [key] ∧ work.Waits surroundings earlier
  deletes : ∃ (next : Workspace) (motion : Motion) (count : Count),
    work.typeKeys surroundings keys = settle (next.operate surroundings .delete motion count) ∧
      (next.buffer = work.buffer ∧ motion.stopsOnLine = true ∨
        next.buffer = work.clampCursor.buffer ∧
          (motion.stopsOnLine = true ∨ motion = .lineEnd ∧ count = Count.once))

section Typed

variable (h : work.engine.state = ModeState.idle)

include h

theorem ready_buffer : work.ready.buffer = work.clampCursor.buffer := by
  rw [ready, enter_of_state h]

theorem typeKeys_delete (surroundings : Surroundings) (first : Option CountNumeral) :
    work.typeKeys surroundings (countKeys first ++ [.char 'd']) =
      (work.awaiting (typedSoFar first (some .delete) none), .pending) :=
  typeKeys_operator h surroundings first (show Operator.ofKey? Operator.delete.key = _ from rfl)

theorem waits_delete (surroundings : Surroundings) (first : Option CountNumeral) :
    work.Waits surroundings (countKeys first ++ [.char 'd']) :=
  (Waits.nil.append_count h rfl rfl first).concat
    (congrArg Prod.snd (typeKeys_delete h surroundings first))

/-- With its counts, a motion that has a key of its own. -/
theorem deletesAlongLine_motion (surroundings : Surroundings) (first second : Option CountNumeral)
    {c : Char} {motion : Motion} (hKey : Motion.ofKey? c = some motion) (hZero : c ≠ '0')
    (hEnds : motion.stopsOnLine = true ∨
      motion = .lineEnd ∧ (typedSoFar first (some .delete) second).total = Count.once) :
    work.DeletesAlongLine surroundings
      (countKeys first ++ .char 'd' :: (countKeys second ++ [.char c])) := by
  have hState : (work.typeKeys surroundings (countKeys first ++ [.char 'd'])).1.engine.state =
      .normal (.command (typedSoFar first (some .delete) none)) := by
    rw [typeKeys_delete h, awaiting_state]
  have hTyped := typeKeys_command h surroundings first second
    (show Operator.ofKey? Operator.delete.key = _ from rfl) (.single c motion hKey hZero)
  exact ⟨⟨countKeys first ++ [.char 'd'] ++ countKeys second, .char c, by simp,
      (waits_delete h surroundings first).append_count hState rfl rfl second⟩,
    ⟨work.ready, motion, _, hTyped, Or.inr ⟨ready_buffer h, hEnds⟩⟩⟩

/-- Without another count, the zero. -/
theorem deletesAlongLine_lineStart (surroundings : Surroundings) (first : Option CountNumeral) :
    work.DeletesAlongLine surroundings (countKeys first ++ [.char 'd', .char '0']) := by
  have hKeys : countKeys first ++ [.char 'd', .char '0'] =
      (countKeys first ++ [.char 'd']) ++ [.char '0'] := by
    simp
  refine ⟨⟨_, _, hKeys, waits_delete h surroundings first⟩,
    ⟨work.ready, .lineStart, (typedSoFar first (some .delete) none).total, ?_,
      Or.inr ⟨ready_buffer h, Or.inl rfl⟩⟩⟩
  rw [hKeys, typeKeys_concat, typeKeys_delete h,
    press_of_motion (awaiting_state _ _) rfl rfl rfl rfl, awaiting_enter_idle]

/-- With a count or none, the shorthand. -/
theorem deletesAlongLine_character (surroundings : Surroundings) (count : Option CountNumeral) :
    work.DeletesAlongLine surroundings (countKeys count ++ [.char 'x']) := by
  have hCounted := counted_typeKeys h surroundings count
  have hTyped : work.typeKeys surroundings (countKeys count ++ [.char 'x']) = _ :=
    (typeKeys_concat _ _ _ _).trans (press_of_shorthand hCounted.state rfl rfl .deleteChar)
  refine ⟨⟨_, _, rfl, Waits.nil.append_count h rfl rfl count⟩, ⟨_, _, _, hTyped, ?_⟩⟩
  rcases hCounted.ready with hNext | hNext
  · exact Or.inl ⟨congrArg Workspace.buffer hNext, rfl⟩
  · exact Or.inr ⟨congrArg Workspace.buffer hNext, Or.inl rfl⟩

theorem deletesAlongLine_of_takesFromLine (surroundings : Surroundings)
    (hKeys : TakesFromLine keys) : work.DeletesAlongLine surroundings keys := by
  cases hKeys with
  | character count => exact deletesAlongLine_character h surroundings count
  | right first second =>
      exact deletesAlongLine_motion h surroundings first second rfl (by decide) (Or.inl rfl)
  | left first second =>
      exact deletesAlongLine_motion h surroundings first second rfl (by decide) (Or.inl rfl)
  | firstNonBlank first second =>
      exact deletesAlongLine_motion h surroundings first second rfl (by decide) (Or.inl rfl)
  | lineStart first => exact deletesAlongLine_lineStart h surroundings first
  | lineEnd =>
      exact deletesAlongLine_motion h surroundings none none rfl (by decide) (Or.inr ⟨rfl, rfl⟩)

/-- The keys `D` and `C` go to the end of the line from where the cursor is. -/
theorem text_of_press_toLineEnd (hCursor : work.buffer.Coherent) (surroundings : Surroundings)
    {key : Char} (hKey : key ∈ ['D', 'C']) :
    (work.press surroundings (.char key)).1.buffer.text =
        Operator.withoutSpan work.buffer.text (Motion.lineEnd.span work.buffer.lines
          work.buffer.cursor Count.once ⟨true, none, surroundings⟩) ∧
      (work.press surroundings (.char key)).2.isLocal = true := by
  obtain ⟨shorthand, hRemoves, hMotion, rfl⟩ : ∃ shorthand : Shorthand,
      shorthand.operator.removesSpan = true ∧ shorthand.motion = .lineEnd ∧
        shorthand.key = key := by
    simp only [List.mem_cons, List.not_mem_nil, or_false] at hKey
    rcases hKey with rfl | rfl
    · exact ⟨.deleteToEnd, rfl, rfl, rfl⟩
    · exact ⟨.changeToEnd, rfl, rfl, rfl⟩
  rw [press_of_shorthand h rfl rfl, enter_of_state h, hMotion, settle_text, settle_outcome]
  exact ⟨operate_text_of_removesSpan hCursor hRemoves rfl Motion.noConfusion surroundings _,
    isLocal_operate _ _ _ _ _⟩

end Typed

theorem DeletesAlongLine.isLocal (h : work.DeletesAlongLine surroundings keys) :
    (work.typeKeys surroundings keys).2.isLocal = true := by
  obtain ⟨next, motion, count, hTyped, -⟩ := h.deletes
  rw [hTyped, settle_outcome]
  exact isLocal_operate _ _ _ _ _

/-- Such keys take characters of the line of the cursor only. -/
theorem DeletesAlongLine.losesOnLine (h : work.DeletesAlongLine surroundings keys)
    (hCoherent : work.Coherent) :
    LosesOnLine work.buffer.text (work.typeKeys surroundings keys).1.buffer.text
      work.buffer.cursor.line := by
  obtain ⟨next, motion, count, hTyped, hNext⟩ := h.deletes
  -- The line stays the same when the cursor is put on a character.
  obtain ⟨hCursor, hText, hLine⟩ : next.buffer.Coherent ∧
      next.buffer.text = work.buffer.text ∧
        next.buffer.cursor.line = work.buffer.cursor.line := by
    rcases hNext with ⟨hSame, -⟩ | ⟨hSame, -⟩
    · rw [hSame]
      exact ⟨hCoherent.cursor, rfl, rfl⟩
    · rw [hSame]
      exact ⟨hCoherent.clampCursor.cursor, work.clampCursor_text,
        clampCursor_line hCoherent.cursor⟩
  have hKind : motion.stopsOnLine = true ∨
      motion = .lineEnd ∧ count = Count.once ∧ next.buffer.OnCharacter := by
    rcases hNext with ⟨-, hStops⟩ | ⟨hSame, hStops | ⟨hEnd, hOnce⟩⟩
    · exact Or.inl hStops
    · exact Or.inl hStops
    · exact Or.inr ⟨hEnd, hOnce, hSame ▸ onCharacter_clampCursor hCoherent.cursor⟩
  have hChars : motion.isLinewise = false ∧ motion ≠ .wordForward := by
    rcases hKind with hStops | ⟨rfl, -⟩
    · cases motion <;> first | exact ⟨rfl, Motion.noConfusion⟩ | cases hStops
    · exact ⟨rfl, Motion.noConfusion⟩
  rw [hTyped, settle_text, operate_text_of_removesSpan hCursor rfl hChars.1 hChars.2, ← hText,
    ← hLine]
  rcases hKind with hStops | ⟨rfl, rfl, hOn⟩
  · exact Motion.losesOnLine_of_stopsOnLine hCursor hStops _ _
  · exact (Operator.losesOnLine_lineEnd_iff hCursor _).mpr (Or.inl hOn)

end Workspace

namespace Session

variable {session : Session}

/-- Keys in order leave the cursor at a place of the text. -/
theorem coherent_pressEach (h : session.Coherent) (keys : List (Key × Nat)) :
    (session.pressEach keys).Coherent := by
  induction keys generalizing session with
  | nil => exact h
  | cons key keys ih => exact ih (coherent_press h key.1 key.2)

/-- In a session that keys led to, in Normal mode with nothing pending, commands within the line
take nothing but characters of the line of the cursor, however they are typed.  So do `D` and `C`
exactly if the cursor stands on a character, or at the start of its line, or is on the last
line.  Otherwise they take the character before the cursor and the line break that the cursor
is on, and there is one line less. -/
theorem deletions_stay_on_line_unless_past_end (parser : Parser) (settings : Settings)
    (files : Files) (content : Option Text) (keys : List (Key × Nat))
    (hMode : ((created parser settings files content).pressEach keys).mode = .normal)
    (hPending : ((created parser settings files content).pressEach
      keys).work.engine.state.isPending = false) :
    let session := (created parser settings files content).pressEach keys
    let line := session.cursor.line
    let within := session.cursor.column = 0 ∨
      session.cursor.column < lineLength (splitLines session.text) line ∨
        line + 1 = session.lineCount
    (∀ typed : List (Key × Nat), TakesFromLine (typed.map Prod.fst) →
      LosesOnLine session.text (session.pressEach typed).text line) ∧
    ∀ key ∈ ['D', 'C'], ∀ now,
      let after := (session.press (.char key) now).1
      (LosesOnLine session.text after.text line ↔ within) ∧
        (¬within →
          after.text = session.text.take (session.cursor.offset - 1) ++
              session.text.drop (session.cursor.offset + 1) ∧
            after.lineCount + 1 = session.lineCount) := by
  intro session line within
  have hCoherent : session.Coherent :=
    coherent_pressEach (coherent_created parser settings files content) keys
  have hIdle : session.work.engine.state = ModeState.idle := ModeState.eq_idle hMode hPending
  refine ⟨fun typed hTyped => ?_, fun key hKey now => ?_⟩
  · have hDeletes :=
      Workspace.deletesAlongLine_of_takesFromLine hIdle session.surroundings hTyped
    obtain ⟨earlier, last, hKeys, hWaits⟩ := hDeletes.waits
    have hWork := pressEach_work_of_isLocal hWaits (hKeys ▸ hDeletes.isLocal) hKeys
    rw [text, text, hWork, ← hKeys]
    exact hDeletes.losesOnLine hCoherent
  · intro after
    obtain ⟨hText, hLocal⟩ := Workspace.text_of_press_toLineEnd hIdle hCoherent.cursor
      session.surroundings hKey
    have hWork := (press_work_of_isLocal rfl hLocal now).1
    have hAfter : after.text = Operator.withoutSpan session.text
        (Motion.lineEnd.span (splitLines session.text) session.cursor Count.once
          ⟨true, none, session.surroundings⟩) :=
      (congrArg (fun work => work.buffer.text) hWork).trans hText
    refine ⟨?_, fun hPast => ?_⟩
    · rw [hAfter]
      exact (Operator.losesOnLine_lineEnd_iff hCoherent.cursor _).trans or_assoc
    · obtain ⟨hLine, hColumn⟩ := hCoherent.cursor.bounds
      simp only [within, not_or, Nat.not_lt] at hPast
      obtain ⟨hPositive, hEnd, hMore⟩ := hPast
      obtain ⟨hJoined, hFewer⟩ := Operator.withoutSpan_lineEnd_of_past hCoherent.cursor
        ⟨true, none, session.surroundings⟩ (Nat.pos_of_ne_zero hPositive)
        (Nat.le_antisymm hColumn hEnd) (Nat.lt_of_le_of_ne hLine hMore)
      rw [lineCount, Buffer.lines, ← text, hAfter]
      exact ⟨hJoined, hJoined ▸ hFewer⟩

/-- Where undoing has left the cursor on the line break, `d$` stays on the line and `C` does
not. -/
theorem delete_motion_stays_on_line_after_undo :
    let keys := [(Key.char 'A', 0), (.char 'x', 0), (.escape, 0), (.char 'u', 0)]
    let session := (created Parser.rootOnly Settings.default Files.empty
      (some ['a', 'b', 'c', '\n', 'd', 'e'])).pressEach keys
    (session.mode = .normal ∧ session.work.engine.state.isPending = false ∧
        session.cursor = ⟨0, 3, 3⟩) ∧
      LosesOnLine session.text
        (session.pressEach [(.char 'd', 0), (.char '$', 0)]).text session.cursor.line ∧
      (session.press (.char 'C') 0).1.text = ['a', 'b', 'd', 'e'] := by
  intro keys session
  obtain ⟨hTakes, hEnd⟩ := deletions_stay_on_line_unless_past_end Parser.rootOnly
    Settings.default Files.empty (some ['a', 'b', 'c', '\n', 'd', 'e']) keys rfl rfl
  obtain ⟨-, hJoined⟩ := hEnd 'C' (by decide) 0
  refine ⟨⟨rfl, rfl, rfl⟩, hTakes _ TakesFromLine.lineEnd, ?_⟩
  exact (hJoined (by decide)).1

/-- There, `D` takes the line break with the last character of the line. -/
theorem delete_to_end_joins_lines_after_undo :
    let session := (created Parser.rootOnly Settings.default Files.empty
      (some ['a', 'b', 'c', '\n', 'd', 'e'])).pressEach
        [(.char 'A', 0), (.char 'x', 0), (.escape, 0), (.char 'u', 0)]
    let after := (session.press (.char 'D') 0).1
    (session.mode = .normal ∧ session.work.engine.state.isPending = false ∧
        session.text = ['a', 'b', 'c', '\n', 'd', 'e'] ∧ session.lineCount = 2) ∧
      after.text = ['a', 'b', 'd', 'e'] ∧ after.lineCount = 1 ∧
      ¬LosesOnLine session.text after.text session.cursor.line :=
  ⟨⟨rfl, rfl, rfl, rfl⟩, rfl, rfl, fun hLoses => absurd hLoses.length (by decide)⟩

end Session

end ModalEditor
