import ModalEditor.Proofs.Modal.Typing

namespace ModalEditor

/-!
# Typing a text puts it in at once

An insert session changes the text key by key.  As long as it takes back only what
was typed in it, its keys come to putting the text that they leave in at the place
where the session was started.
-/

/-- The text that the keys of an insert session leave after `typed`.  There is none
when a backspace takes back more than that, or a key types nothing. -/
def textAfter? (typed : Text) : List Key → Option Text
  | [] => some typed
  | .char c :: keys => textAfter? (typed ++ [c]) keys
  | .enter :: keys => textAfter? (typed ++ [lineFeed]) keys
  | .backspace :: keys => if typed.isEmpty then none else textAfter? typed.dropLast keys
  | .escape :: _ | .ctrl _ :: _ => none

/-- Keys typed in an insert session, with the text that they leave. -/
structure Typing where
  keys : List Key
  text : Text
  leaves : textAfter? [] keys = some text

namespace Workspace

variable {work : Workspace} {before after : Text}

/-- A rewritten text is the new one, with the cursor where it was asked to be. -/
theorem rewrite_eq (work : Workspace) (text : Text) (cursor : Nat) :
    work.rewrite text cursor =
      { work with buffer := ⟨text, Position.ofOffset text cursor, work.buffer.tabSize⟩ } := by
  have hText := work.buffer.replaceText_text text
  simp only [rewrite, Buffer.moveTo, hText]
  rfl

/-- Whether the cursor is between two parts of the text. -/
def Between (work : Workspace) (before after : Text) : Prop :=
  work.buffer.text = before ++ after ∧
    work.buffer.cursor = Position.ofOffset (before ++ after) before.length

theorem between_of_coherent (h : work.buffer.Coherent) :
    work.Between (work.buffer.text.take work.buffer.cursor.offset)
      (work.buffer.text.drop work.buffer.cursor.offset) := by
  have hLength : (work.buffer.text.take work.buffer.cursor.offset).length =
      work.buffer.cursor.offset :=
    List.length_take_of_le (Position.IsIn.offset_le h)
  rw [Between, List.take_append_drop, hLength]
  exact ⟨rfl, h⟩

theorem Between.offset_eq (h : work.Between before after) :
    work.buffer.cursor.offset = before.length := by
  rw [h.2, Position.ofOffset_offset]
  simp

/-- The workspace with other parts of the text around the cursor. -/
def around (work : Workspace) (before after : Text) : Workspace :=
  { work with
    buffer :=
      ⟨before ++ after, Position.ofOffset (before ++ after) before.length,
        work.buffer.tabSize⟩ }

theorem between_around (work : Workspace) (before after : Text) :
    (work.around before after).Between before after :=
  ⟨rfl, rfl⟩

theorem Between.around_eq (h : work.Between before after) : work.around before after = work := by
  rw [around, ← h.2, ← h.1]

/-- A text is put in before the cursor. -/
theorem Between.insertText (h : work.Between before after) (text : Text) :
    work.insertText text = work.around (before ++ text) after := by
  rw [Workspace.insertText]
  split
  · next hEmpty =>
      rw [List.isEmpty_iff.mp hEmpty, List.append_nil, h.around_eq]
  · rw [spliceIn, rewrite_eq, h.offset_eq, h.1, around]
    simp

/-- The character before the cursor is deleted. -/
theorem Between.deleteBefore? {c : Char} (h : work.Between (before ++ [c]) after) :
    work.deleteBefore? = some (work.around before after) := by
  have hOffset : work.buffer.cursor.offset = before.length + 1 := by
    rw [h.offset_eq, List.length_append, List.length_singleton]
  have hText : work.buffer.text = before ++ c :: after := by
    rw [h.1, List.append_assoc, List.singleton_append]
  simp only [Workspace.deleteBefore?, hOffset, hText, rewrite_eq, around]
  simp

theorem around_around (work : Workspace) (before after first second : Text) :
    (work.around before after).around first second = work.around first second :=
  rfl

/-- Putting two texts in one after the other puts them in together. -/
theorem insertText_append (h : work.buffer.Coherent) (first second : Text) :
    work.insertText (first ++ second) = (work.insertText first).insertText second := by
  have hBetween := between_of_coherent h
  rw [hBetween.insertText, hBetween.insertText, (between_around _ _ _).insertText,
    around_around, List.append_assoc]

/-- The last character put in can be deleted again. -/
theorem deleteBefore?_insertText (h : work.buffer.Coherent) (text : Text) (c : Char) :
    (work.insertText (text ++ [c])).deleteBefore? = some (work.insertText text) := by
  have hBetween := between_of_coherent h
  have hLast := between_around work
    (work.buffer.text.take work.buffer.cursor.offset ++ text ++ [c])
    (work.buffer.text.drop work.buffer.cursor.offset)
  rw [hBetween.insertText, hBetween.insertText, ← List.append_assoc, hLast.deleteBefore?,
    around_around]

/-- The end of an insert session keeps the text and leaves the engine idle. -/
theorem finishInsert_text_and_state (work : Workspace) (recording : Option Recording)
    (typed : Text) :
    (work.finishInsert recording typed).buffer.text = work.buffer.text ∧
      (work.finishInsert recording typed).engine.state = ModeState.idle := by
  have hStep (next : Workspace) : next.stepBack.buffer.text = next.buffer.text ∧
      next.stepBack.engine = next.engine := by
    simp only [stepBack]
    split
    · exact ⟨rfl, rfl⟩
    · exact ⟨rfl, rfl⟩
  rw [finishInsert, leaveInsert, (hStep _).1, (hStep _).2]
  cases recording with
  | none => exact ⟨rfl, rfl⟩
  | some command => exact ⟨rfl, rfl⟩

/-! ## Keys of an insert session -/

/-- The workspace after `typed` was typed in an insert session. -/
def inserting (work : Workspace) (recording : Option Recording) (typed : Text) : Workspace :=
  (work.insertText typed).enter (.insert recording typed)

theorem enter_insertText (work : Workspace) (state : ModeState) (text : Text) :
    (work.enter state).insertText text = (work.insertText text).enter state := by
  rw [insertText, insertText]
  split <;> rfl

theorem enter_deleteBefore? (work : Workspace) (state : ModeState) :
    (work.enter state).deleteBefore? = work.deleteBefore?.map fun next => next.enter state := by
  show (if work.buffer.cursor.offset = 0 then none else some _) = _
  rw [deleteBefore?]
  split <;> rfl

section Session

variable (surroundings : Surroundings) (recording : Option Recording) (typed : Text)

theorem press_char_inserting (h : work.buffer.Coherent) (c : Char) :
    (work.inserting recording typed).press surroundings (.char c) =
      (work.inserting recording (typed ++ [c]), .edited) := by
  show ((((work.insertText typed).enter (.insert recording typed)).enter
    (.insert recording (typed ++ [c]))).insertText [c], KeyOutcome.edited) = _
  rw [enter_insertText, enter_insertText, ← insertText_append h]
  rfl

/-- Enter types a line feed. -/
theorem press_enter_inserting (work : Workspace) :
    (work.inserting recording typed).press surroundings .enter =
      (work.inserting recording typed).press surroundings (.char lineFeed) :=
  rfl

theorem press_backspace_inserting (h : work.buffer.Coherent) (c : Char) :
    (work.inserting recording (typed ++ [c])).press surroundings .backspace =
      (work.inserting recording typed, .edited) := by
  have hDelete : (work.inserting recording (typed ++ [c])).deleteBefore? =
      some ((work.insertText typed).enter (.insert recording (typed ++ [c]))) := by
    rw [inserting, enter_deleteBefore?, deleteBefore?_insertText h, Option.map_some]
  have hPress : (work.inserting recording (typed ++ [c])).press surroundings .backspace =
      (work.inserting recording (typed ++ [c])).pressInsert recording (typed ++ [c]) .backspace :=
    rfl
  rw [hPress, pressInsert, hDelete, List.dropLast_concat]
  rfl

/-- Keys of an insert session put in the text that they leave. -/
theorem typeKeys_inserting (h : work.buffer.Coherent) {text : Text} {keys : List Key}
    (hLeaves : textAfter? typed keys = some text) :
    ((work.inserting recording typed).typeKeys surroundings keys).1 =
      work.inserting recording text := by
  rw [typeKeys_fst]
  induction keys generalizing typed with
  | nil =>
      cases hLeaves
      rfl
  | cons key keys ih =>
      -- Each key leads to the session with the text that it leaves.
      have hStep {next : Text} (hNext : textAfter? next keys = some text)
          (hPress : ((work.inserting recording typed).press surroundings key).1 =
            work.inserting recording next) :
          (work.inserting recording typed).pressAll ((key :: keys).map (surroundings, ·)) =
            work.inserting recording text := by
        rw [List.map_cons, pressAll, List.foldl_cons, hPress]
        exact ih next hNext
      cases key with
      | escape | ctrl => cases hLeaves
      | char c =>
          exact hStep hLeaves (congrArg Prod.fst (press_char_inserting _ _ _ h c))
      | enter =>
          rw [textAfter?] at hLeaves
          refine hStep hLeaves ?_
          rw [press_enter_inserting, press_char_inserting _ _ _ h]
      | backspace =>
          rw [textAfter?] at hLeaves
          split at hLeaves
          · cases hLeaves
          · next hSome =>
              have hTyped : typed ≠ [] := fun hNil => hSome (List.isEmpty_iff.mpr hNil)
              refine hStep hLeaves ?_
              have hBack := press_backspace_inserting surroundings recording typed.dropLast h
                (typed.getLast hTyped)
              rw [List.dropLast_concat_getLast] at hBack
              rw [hBack]

/-- From its start to Escape, an insert session puts in the text that its keys leave,
and is then finished. -/
theorem typeKeys_session (h : work.buffer.Coherent) (typing : Typing) :
    (work.beginInsert recording).typeKeys surroundings (typing.keys ++ [.escape]) =
      ((work.insertText typing.text).finishInsert recording typing.text,
        .modeChanged .normal) := by
  have hStart : work.beginInsert recording = work.inserting recording [] := rfl
  rw [hStart, typeKeys_concat, typeKeys_inserting surroundings recording [] h typing.leaves]
  cases recording <;> rfl

end Session

end Workspace

end ModalEditor
