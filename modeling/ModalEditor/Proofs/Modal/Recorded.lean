import ModalEditor.Proofs.Modal.KeptColumn
import ModalEditor.Proofs.Modal.SlotCoherence
import ModalEditor.Proofs.Run

namespace ModalEditor

/-!
# What an insert session records

Characters and line feeds are put into the text and into the recording alike.  A
backspace takes the last character out of both, as long as there is one in the
recording.  Once nothing typed is left, it goes on with the text from before the
session, and the recording has no way to say so.  How far a session reaches is
therefore what is left of the text before it, and what was typed.
-/

/-- Whether a key of an insert session puts in or takes back a character. -/
def Key.edits : Key → Bool
  | .char _ | .enter | .backspace => true
  | .escape | .ctrl _ => false

/-- The text recorded in an insert session. -/
def ModeState.recorded : ModeState → Text
  | .insert _ typed => typed
  | _ => []

/-- How far an insert session reaches. -/
structure Extent where
  /-- How many characters are left of those before the start of the session. -/
  kept : Nat
  /-- What was typed after them. -/
  typed : Text

/-- How far the session reaches after a key. -/
def Extent.after (extent : Extent) : Key → Extent
  | .char c => { extent with typed := extent.typed ++ [c] }
  | .enter => { extent with typed := extent.typed ++ [lineFeed] }
  | .backspace =>
      if extent.typed = [] then { extent with kept := extent.kept - 1 }
      else { extent with typed := extent.typed.dropLast }
  | .escape | .ctrl _ => extent

/-- A key never gives characters from before the session back. -/
theorem Extent.kept_after_le (extent : Extent) (key : Key) :
    (extent.after key).kept ≤ extent.kept := by
  cases key with
  | char | enter | escape | ctrl => exact Nat.le_refl _
  | backspace =>
      rw [after]
      split
      · exact Nat.sub_le _ _
      · exact Nat.le_refl _

/-- How far the session reaches after keys. -/
def Extent.afterAll (extent : Extent) (keys : List (Surroundings × Key)) : Extent :=
  keys.foldl (fun extent key => extent.after key.2) extent

theorem Extent.kept_afterAll_le (extent : Extent) (keys : List (Surroundings × Key)) :
    (extent.afterAll keys).kept ≤ extent.kept := by
  induction keys generalizing extent with
  | nil => exact Nat.le_refl _
  | cons key keys ih => exact (ih _).trans (extent.kept_after_le key.2)

/-- Only a backspace with nothing left to take back reaches the text from before the
session, if there is any. -/
theorem Extent.kept_after_eq_iff (extent : Extent) (key : Key) :
    (extent.after key).kept = extent.kept ↔
      (key = .backspace → extent.typed ≠ [] ∨ extent.kept = 0) := by
  cases key with
  | char | enter | escape | ctrl => exact ⟨fun _ hKey => Key.noConfusion hKey, fun _ => rfl⟩
  | backspace =>
      rw [after]
      split
      next hNone =>
        simp only [hNone, forall_const, ne_eq, not_true_eq_false, false_or]
        omega
      next hSome => simp [hSome]

/-- All of the text from before the session is left throughout exactly if no backspace
reaches it. -/
theorem Extent.forall_kept_eq_iff (offset : Nat) (keys : List (Surroundings × Key)) :
    let reach (n : Nat) := Extent.afterAll ⟨offset, []⟩ (keys.take n)
    (∀ n, (reach n).kept = offset) ↔
      ∀ n other, keys[n]? = some (other, .backspace) →
        (reach n).typed ≠ [] ∨ (reach n).kept = 0 := by
  intro reach
  have hStep {extent : Extent} (hAll : extent.kept = offset) (key : Surroundings × Key) :
      (extent.after key.2).kept = offset ↔
        (key.2 = .backspace → extent.typed ≠ [] ∨ extent.kept = 0) :=
    hAll ▸ extent.kept_after_eq_iff key.2
  have hStart : Extent.kept ⟨offset, []⟩ = offset := rfl
  have hRun := forall_foldl_take_iff (motive := fun extent : Extent => extent.kept = offset)
    hStep hStart keys
  refine hRun.trans (forall_congr' fun n => ⟨fun hAllows other hKey => ?_, fun hBack => ?_⟩)
  · exact hAllows _ hKey rfl
  · rintro ⟨other, key⟩ hKey hBackspace
    exact hBack other (hKey.trans (congrArg (fun key => some (other, key)) hBackspace))

namespace Workspace

variable {work start : Workspace} {recording : Option Recording} {extent : Extent}

/-! ## Insert sessions start with nothing recorded -/

/-- Whether insert sessions that were just started have nothing recorded. -/
def StartsBlank (result : Workspace × KeyOutcome) : Prop :=
  result.1.engine.mode = .insert → ∃ recording, result.1.engine.state = .insert recording []

theorem startsBlank_of_ne {result : Workspace × KeyOutcome}
    (h : result.1.engine.mode ≠ .insert) : StartsBlank result :=
  fun hMode => absurd hMode h

theorem startsBlank_operate (h : work.engine.mode ≠ .insert) (surroundings : Surroundings)
    (operator : Operator) (motion : Motion) (count : Count) :
    StartsBlank (work.operate surroundings operator motion count) := by
  have hEngine := runOperator_engine work surroundings operator motion count
  simp only [operate]
  generalize work.runOperator surroundings operator motion count = result at hEngine ⊢
  have hRun : result.1.engine.mode ≠ .insert := by
    rw [hEngine]
    exact h
  split
  · exact startsBlank_of_ne hRun
  · split
    · exact fun _ => ⟨_, rfl⟩
    · split
      · exact startsBlank_of_ne hRun
      · exact startsBlank_of_ne hRun

/-- Repeating a command ends where nothing is pending. -/
theorem repeatLast_idle (h : work.engine.state = ModeState.idle) (surroundings : Surroundings)
    (count : Count) :
    (work.repeatLast surroundings count).1.engine.state = ModeState.idle := by
  have hRun (operator : Operator) (motion : Motion) (chosen : Count) :
      (work.runOperator surroundings operator motion chosen).1.engine.state = ModeState.idle :=
    (work.runOperator_state surroundings operator motion chosen).trans h
  rw [repeatLast]
  split
  · exact h
  · exact hRun _ _ _
  · dsimp only
    generalize (if count.typed = true then count else _) = chosen
    split
    · exact hRun _ _ _
    · exact leaveInsert_state _
  · split
    next hNext =>
      rw [overwrite?_engine hNext]
      exact h
    next => exact h
  · exact leaveInsert_state _

theorem startsBlank_of_idle {result : Workspace × KeyOutcome}
    (h : result.1.engine.state = ModeState.idle) : StartsBlank result := by
  refine startsBlank_of_ne ?_
  rw [Engine.mode, h]
  decide

theorem startsBlank_pressNormal (h : work.engine.mode = .normal) (surroundings : Surroundings)
    (input : NormalInput) (key : Key) :
    StartsBlank (work.pressNormal surroundings input key) := by
  have hReady : (work.enter ModeState.idle).engine.mode ≠ .insert := Mode.noConfusion
  have hDiscard (wasPending : Bool) : StartsBlank (work.discard wasPending) :=
    startsBlank_of_idle rfl
  have hAwait (input : NormalInput) : StartsBlank (work.await input) :=
    startsBlank_of_ne Mode.noConfusion
  refine pressNormal_cases (P := StartsBlank) ?_ ?_ ?_ hDiscard
  · intro pending c _ _
    refine pressNormalChar_cases (P := StartsBlank) ?_ hAwait hDiscard ?_
    · intro pending motion
      simp only [complete]
      split
      · exact startsBlank_operate hReady _ _ _ _
      · exact startsBlank_of_ne hReady
    · refine pressCommand_cases (P := StartsBlank) ?_ hAwait ?_ ?_ ?_ ?_ ?_ hDiscard
      · exact fun _ _ => startsBlank_operate hReady _ _ _ _
      · exact startsBlank_of_ne Mode.noConfusion
      · exact fun _ => startsBlank_of_idle (repeatLast_idle rfl _ _)
      · exact startsBlank_of_idle rfl
      · exact fun _ => startsBlank_of_ne Mode.noConfusion
      · exact fun _ _ => ⟨_, rfl⟩
  · refine startsBlank_of_ne ?_
    rw [h]
    decide
  · exact fun _ _ _ _ _ => startsBlank_of_idle (replaceChars_state _ _ _)

theorem startsBlank_pressVisual (work : Workspace) (surroundings : Surroundings)
    (anchor : Position) (count : Option Nat) (afterG : Bool) (key : Key) :
    StartsBlank (work.pressVisual surroundings anchor count afterG key) := by
  have hDiscard (wasPending : Bool) : StartsBlank (work.discardVisual anchor wasPending) :=
    startsBlank_of_ne Mode.noConfusion
  cases key with
  | escape => exact startsBlank_of_idle rfl
  | enter | backspace | ctrl => exact hDiscard _
  | char c =>
      refine pressVisualChar_cases (P := StartsBlank) ?_ ?_ ?_ ?_ ?_ hDiscard
      · exact fun _ _ => startsBlank_of_ne Mode.noConfusion
      · exact fun _ _ => startsBlank_of_ne Mode.noConfusion
      · intro operator _
        rw [operateOnSelection]
        split
        · exact fun _ => ⟨none, rfl⟩
        · exact startsBlank_of_idle rfl
      · exact fun _ => startsBlank_of_ne Mode.noConfusion
      · exact startsBlank_of_idle rfl

theorem pressPrompt_mode_ne_insert (work : Workspace) {kind : Prompt} {typed : Text}
    (h : work.engine.state = .prompt kind typed) (key : Key) :
    (work.pressPrompt kind typed key).1.engine.mode ≠ .insert := by
  cases key with
  | escape | char => exact Mode.noConfusion
  | ctrl =>
      show work.engine.mode ≠ .insert
      rw [Engine.mode, h]
      exact Mode.noConfusion
  | backspace =>
      rw [pressPrompt]
      split <;> exact Mode.noConfusion
  | enter =>
      cases kind with
      | search => exact Mode.noConfusion
      | command =>
          simp only [pressPrompt, runTyped]
          split
          · exact Mode.noConfusion
          · split <;> exact Mode.noConfusion

/-- Whatever key starts an insert session, nothing is recorded in it yet. -/
theorem startsBlank_press (h : work.engine.mode ≠ .insert) (surroundings : Surroundings)
    (key : Key) : StartsBlank (work.press surroundings key) := by
  have hSettle {result : Workspace × KeyOutcome} (hResult : StartsBlank result) :
      StartsBlank (settle result) := by
    rwa [StartsBlank, settle_engine]
  rw [press]
  cases hState : work.engine.state with
  | normal input =>
      have hNormal : work.engine.mode = .normal := by rw [Engine.mode, hState]; rfl
      exact hSettle (startsBlank_pressNormal hNormal surroundings input key)
  | visual anchor count afterG =>
      exact hSettle (work.startsBlank_pressVisual surroundings anchor count afterG key)
  | insert recording typed =>
      exact absurd (by rw [Engine.mode, hState]; rfl) h
  | prompt kind typed => exact startsBlank_of_ne (work.pressPrompt_mode_ne_insert hState key)

/-! ## Keys of a session -/

/-- An insert session that was started at `start` and reaches as far as it says. -/
def reaching (start : Workspace) (recording : Option Recording) (extent : Extent) : Workspace :=
  (start.around (start.buffer.text.take extent.kept ++ extent.typed)
    (start.buffer.text.drop start.buffer.cursor.offset)).enter (.insert recording extent.typed)

theorem between_reaching (start : Workspace) (recording : Option Recording) (extent : Extent) :
    (start.reaching recording extent).Between
      (start.buffer.text.take extent.kept ++ extent.typed)
      (start.buffer.text.drop start.buffer.cursor.offset) :=
  between_around _ _ _

/-- A session that was just started. -/
theorem reaching_start (h : start.buffer.Coherent)
    (hState : start.engine.state = .insert recording []) :
    start.reaching recording ⟨start.buffer.cursor.offset, []⟩ = start := by
  rw [reaching, List.append_nil, (between_of_coherent h).around_eq, enter, ← hState]

theorem press_char_reaching (start : Workspace) (recording : Option Recording) (extent : Extent)
    (surroundings : Surroundings) (c : Char) :
    ((start.reaching recording extent).press surroundings (.char c)).1 =
      start.reaching recording { extent with typed := extent.typed ++ [c] } := by
  have hPress : ((start.reaching recording extent).press surroundings (.char c)).1 =
      ((start.reaching recording extent).enter
        (.insert recording (extent.typed ++ [c]))).insertText [c] := rfl
  rw [hPress, enter_insertText, (between_reaching start recording extent).insertText,
    List.append_assoc]
  rfl

/-- A backspace takes back what was typed last. -/
theorem press_backspace_reaching_typed (start : Workspace) (recording : Option Recording)
    (kept : Nat) (typed : Text) (c : Char) (surroundings : Surroundings) :
    ((start.reaching recording ⟨kept, typed ++ [c]⟩).press surroundings .backspace).1 =
      start.reaching recording ⟨kept, typed⟩ := by
  have hBetween := between_reaching start recording ⟨kept, typed ++ [c]⟩
  rw [← List.append_assoc] at hBetween
  have hPress : (start.reaching recording ⟨kept, typed ++ [c]⟩).press surroundings .backspace =
      (start.reaching recording ⟨kept, typed ++ [c]⟩).pressInsert recording (typed ++ [c])
        .backspace := rfl
  rw [hPress, pressInsert, hBetween.deleteBefore?, List.dropLast_concat]
  rfl

/-- With nothing typed left a backspace takes a character from before the session. -/
theorem press_backspace_reaching_kept {kept : Nat} (h : kept < start.buffer.text.length)
    (recording : Option Recording) (surroundings : Surroundings) :
    ((start.reaching recording ⟨kept + 1, []⟩).press surroundings .backspace).1 =
      start.reaching recording ⟨kept, []⟩ := by
  have hBetween := between_reaching start recording ⟨kept + 1, []⟩
  rw [List.append_nil, List.take_succ_eq_append_getElem h] at hBetween
  have hPress : (start.reaching recording ⟨kept + 1, []⟩).press surroundings .backspace =
      (start.reaching recording ⟨kept + 1, []⟩).pressInsert recording [] .backspace := rfl
  have hLeft : start.reaching recording ⟨kept, []⟩ =
      (start.around (start.buffer.text.take kept)
        (start.buffer.text.drop start.buffer.cursor.offset)).enter (.insert recording []) := by
    rw [reaching, List.append_nil]
  rw [hPress, pressInsert, hBetween.deleteBefore?, hLeft]
  rfl

/-- At the start of the text there is nothing to take. -/
theorem press_backspace_reaching_zero (start : Workspace) (recording : Option Recording)
    (surroundings : Surroundings) :
    ((start.reaching recording ⟨0, []⟩).press surroundings .backspace).1 =
      start.reaching recording ⟨0, []⟩ := by
  have hOffset : (start.reaching recording ⟨0, []⟩).buffer.cursor.offset = 0 :=
    (between_reaching start recording ⟨0, []⟩).offset_eq
  have hPress : (start.reaching recording ⟨0, []⟩).press surroundings .backspace =
      (start.reaching recording ⟨0, []⟩).pressInsert recording [] .backspace := rfl
  rw [hPress, pressInsert, deleteBefore?, if_pos hOffset]

/-- After a key the session reaches as far as the key makes it reach. -/
theorem press_reaching (hKept : extent.kept ≤ start.buffer.text.length)
    (recording : Option Recording) (surroundings : Surroundings) {key : Key}
    (hKey : key.edits = true) :
    ((start.reaching recording extent).press surroundings key).1 =
      start.reaching recording (extent.after key) := by
  obtain ⟨kept, typed⟩ := extent
  cases key with
  | escape | ctrl => cases hKey
  | char c => exact start.press_char_reaching recording _ surroundings c
  | enter => exact start.press_char_reaching recording _ surroundings lineFeed
  | backspace =>
      rcases List.eq_nil_or_concat typed with rfl | ⟨typed, c, rfl⟩
      · cases kept with
        | zero => exact start.press_backspace_reaching_zero recording surroundings
        | succ kept => exact press_backspace_reaching_kept hKept recording surroundings
      · have hAfter : Extent.after ⟨kept, typed.concat c⟩ .backspace = ⟨kept, typed⟩ := by
          simp [Extent.after]
        rw [hAfter, List.concat_eq_append]
        exact start.press_backspace_reaching_typed recording kept typed c surroundings

/-- A session reaches, after any of its keys, as far as they make it reach one after the
other. -/
theorem pressAll_reaching {extent : Extent} (hKept : extent.kept ≤ start.buffer.text.length)
    (recording : Option Recording) {keys : List (Surroundings × Key)}
    (hKeys : ∀ key ∈ keys, key.2.edits = true) :
    (start.reaching recording extent).pressAll keys =
      start.reaching recording (extent.afterAll keys) := by
  induction keys generalizing extent with
  | nil => rfl
  | cons key keys ih =>
      obtain ⟨hKey, hKeys⟩ := List.forall_mem_cons.mp hKeys
      have hNext := ih ((extent.kept_after_le key.2).trans hKept) hKeys
      have hCons : extent.afterAll (key :: keys) = (extent.after key.2).afterAll keys := rfl
      rw [hCons, ← hNext, ← press_reaching hKept recording key.1 hKey]
      rfl

/-! ## When the recording accounts for the session -/

/-- Whether putting in what is recorded where the session was started leads to the text and
the cursor. -/
def AccountsFor (work start : Workspace) : Prop :=
  work.buffer.text =
      start.buffer.text.take start.buffer.cursor.offset ++ work.engine.state.recorded ++
        start.buffer.text.drop start.buffer.cursor.offset ∧
    work.buffer.cursor.offset = start.buffer.cursor.offset + work.engine.state.recorded.length

/-- With everything from before it left, a session is one that put in what is recorded. -/
theorem reaching_of_all (hStart : start.buffer.Coherent) (recording : Option Recording)
    (typed : Text) :
    start.reaching recording ⟨start.buffer.cursor.offset, typed⟩ =
      start.inserting recording typed := by
  rw [inserting, (between_of_coherent hStart).insertText, reaching]

/-- Ended, such a session is what putting in the recorded text at once leads to. -/
theorem press_escape_inserting (work : Workspace) (recording : Option Recording) (typed : Text)
    (surroundings : Surroundings) :
    ((work.inserting recording typed).press surroundings .escape).1 =
      (work.insertText typed).finishInsert recording typed := by
  cases recording <;> rfl

theorem reaching_offset (hKept : extent.kept ≤ start.buffer.text.length)
    (recording : Option Recording) :
    (start.reaching recording extent).buffer.cursor.offset =
      extent.kept + extent.typed.length := by
  rw [(between_reaching start recording extent).offset_eq, List.length_append,
    List.length_take_of_le hKept]

/-- A recording accounts for the session exactly as long as everything from before it is
left. -/
theorem accountsFor_reaching_iff (hStart : start.buffer.Coherent)
    (hKept : extent.kept ≤ start.buffer.cursor.offset) (recording : Option Recording) :
    (start.reaching recording extent).AccountsFor start ↔
      extent.kept = start.buffer.cursor.offset := by
  have hOffset := reaching_offset (hKept.trans (Position.IsIn.offset_le hStart)) recording
  constructor
  · intro hAccounts
    have hRecorded := hOffset.symm.trans hAccounts.2
    exact Nat.add_right_cancel hRecorded
  · intro hAll
    refine ⟨?_, hOffset.trans (by rw [hAll]; rfl)⟩
    rw [(between_reaching start recording extent).1, hAll]
    rfl

/-- A session reaches, after any of its keys, as far as they make it reach, and the text
recorded in it accounts for it throughout exactly if no backspace takes a character from
before it.  An accounted session is the one that putting in the recorded text leads to. -/
theorem recording_accounts_iff_no_backspace_before_start {surroundings : Surroundings} {key : Key}
    (h : work.IsReachable) (hBefore : work.engine.mode ≠ .insert)
    (hStart : (work.press surroundings key).1.engine.mode = .insert)
    {keys : List (Surroundings × Key)} (hKeys : ∀ key ∈ keys, key.2.edits = true) :
    let start := (work.press surroundings key).1
    let now (n : Nat) := start.pressAll (keys.take n)
    let typed (n : Nat) := (now n).engine.state.recorded
    let text := start.buffer.text
    let offset := start.buffer.cursor.offset
    ∃ recording, start.engine.state = .insert recording [] ∧
      (∀ n, (now n).engine.state = .insert recording (typed n) ∧
        ∃ kept ≤ offset, (now n).buffer.text = text.take kept ++ typed n ++ text.drop offset ∧
          (now n).buffer.cursor.offset = kept + (typed n).length) ∧
      ((∀ n, (now n).AccountsFor start) ↔
        ∀ n other, keys[n]? = some (other, .backspace) →
          typed n ≠ [] ∨ (now n).buffer.cursor.offset = 0) ∧
      ∀ n, (now n).AccountsFor start →
        (now n).buffer = (start.insertText (typed n)).buffer ∧
          ∀ other, ((now n).press other .escape).1 =
            (start.insertText (typed n)).finishInsert recording (typed n) := by
  intro start now typed text offset
  have hCoherent : start.buffer.Coherent := (h.wellPlaced.press surroundings key).coherent.cursor
  have hLength : offset ≤ text.length := Position.IsIn.offset_le hCoherent
  obtain ⟨recording, hState⟩ := startsBlank_press hBefore surroundings key hStart
  -- The session goes by its extent alone, which starts with all of the text before it.
  let reach (n : Nat) : Extent := Extent.afterAll ⟨offset, []⟩ (keys.take n)
  have hReach (n : Nat) : (reach n).kept ≤ offset := Extent.kept_afterAll_le _ _
  have hNow (n : Nat) : now n = start.reaching recording (reach n) := by
    have hTaken : ∀ key ∈ keys.take n, key.2.edits = true :=
      fun key hKey => hKeys key (List.mem_of_mem_take hKey)
    have hRun : (start.reaching recording ⟨offset, []⟩).pressAll (keys.take n) =
        start.reaching recording (reach n) := pressAll_reaching hLength recording hTaken
    rwa [reaching_start hCoherent hState] at hRun
  have hTyped (n : Nat) : typed n = (reach n).typed := by
    show (now n).engine.state.recorded = _
    rw [hNow]
    rfl
  have hOffset (n : Nat) : (now n).buffer.cursor.offset = (reach n).kept + (typed n).length := by
    rw [hNow, hTyped, reaching_offset ((hReach n).trans hLength)]
  have hAccounts (n : Nat) : (now n).AccountsFor start ↔ (reach n).kept = offset := by
    rw [hNow]
    exact accountsFor_reaching_iff hCoherent (hReach n) recording
  refine ⟨recording, hState, fun n => ⟨?_, (reach n).kept, hReach n, ?_, hOffset n⟩, ?_, ?_⟩
  · rw [hTyped, hNow]
    rfl
  · rw [hTyped, hNow]
    exact (between_reaching start recording (reach n)).1
  · -- With nothing typed the cursor is where the text left from before the session ends.
    have hZero (n : Nat) : typed n ≠ [] ∨ (now n).buffer.cursor.offset = 0 ↔
        (reach n).typed ≠ [] ∨ (reach n).kept = 0 := by
      rw [hOffset, hTyped]
      by_cases hNone : (reach n).typed = [] <;> simp [hNone]
    simp only [hZero]
    exact (forall_congr' hAccounts).trans (Extent.forall_kept_eq_iff offset keys)
  · intro n hAll
    have hInserting : now n = start.inserting recording (typed n) := by
      have hExtent : reach n = ⟨offset, (reach n).typed⟩ :=
        congrArg (Extent.mk · (reach n).typed) ((hAccounts n).mp hAll)
      rw [← reaching_of_all hCoherent, hNow, hTyped, hExtent]
    refine ⟨?_, fun other => ?_⟩
    · rw [hInserting]
      rfl
    · rw [hInserting]
      exact press_escape_inserting _ _ _ _

/-- A backspace that takes back what was typed at the end of a line leaves the session
accounted for. -/
theorem typed_back_session_is_accounted_for :
    let work := ofBuffer ⟨['a', 'b', 'c'], Position.origin, 4⟩
    let start := (work.press Surroundings.unknown (.char 'A')).1
    let keys := [Key.char 'x', Key.enter, Key.backspace].map (Surroundings.unknown, ·)
    (work.IsReachable ∧ work.engine.mode ≠ .insert ∧ start.engine.mode = .insert ∧
        ∀ key ∈ keys, key.2.edits = true) ∧
      (start.pressAll keys).buffer.text = ['a', 'b', 'c', 'x'] ∧
      ∀ n, (start.pressAll (keys.take n)).AccountsFor start := by
  intro work start keys
  have hReachable : work.IsReachable := ⟨['a', 'b', 'c'], 4, Register.empty, [], rfl⟩
  have hBefore : work.engine.mode ≠ .insert := by decide
  have hStart : start.engine.mode = .insert := by decide +kernel
  have hKeys : ∀ key ∈ keys, key.2.edits = true := by decide
  obtain ⟨recording, -, -, hAccounts, -⟩ :=
    recording_accounts_iff_no_backspace_before_start hReachable hBefore hStart hKeys
  refine ⟨⟨hReachable, hBefore, hStart, hKeys⟩, by decide +kernel, ?_⟩
  -- The only backspace takes back the line feed typed before it.
  refine hAccounts.mpr fun n other hKey => ?_
  match n with
  | 0 | 1 => cases hKey
  | 2 => exact Or.inl (by decide +kernel)
  | n + 3 => cases hKey

/-- A backspace right after `A` takes a character from before the session.  Nothing is
recorded of it, and `.` takes none. -/
theorem backspace_before_start_is_not_repeated :
    let start := ((ofBuffer ⟨['a', 'b', 'c'], Position.origin, 4⟩).press Surroundings.unknown
      (.char 'A')).1
    let now := (start.press Surroundings.unknown .backspace).1
    let ended := (now.press Surroundings.unknown .escape).1
    let again := (ended.press Surroundings.unknown (.char '.')).1
    now.buffer.text = ['a', 'b'] ∧ now.engine.state.recorded = [] ∧ ¬now.AccountsFor start ∧
      ended.engine.lastCommand = some (.insert .lineEnd []) ∧
      again.buffer.text = ['a', 'b'] := by
  intro start now ended again
  exact ⟨by decide +kernel, by decide +kernel,
    fun hAccounts => absurd hAccounts.1 (by decide +kernel), by decide +kernel,
    by decide +kernel⟩

end Workspace

end ModalEditor
