import ModalEditor.Proofs.Modal.Moves
import ModalEditor.Proofs.Search.Tour
import ModalEditor.Proofs.Session.Matches
import ModalEditor.Proofs.Session.Standing
import ModalEditor.Proofs.Session.Typing
import ModalEditor.Proofs.Text.Coordinates

namespace ModalEditor

/-!
# Going from match to match

Each press of `n` goes from where the cursor stands to the next match.  A match may start
at the line break of a line with characters, where the cursor of Normal mode cannot stand.
It is put on the last character of the line then, and from there that match is the next
one again.  So presses visit all matches, in the order of their tour, exactly if the cursor
can stand at all of them but the last.  With a count the steps between matches are taken
at once, and the cursor is put on a character at their end only.
-/

/-- Whether the cursor of Normal mode can stand at an offset: on a character, or at the
start of a line. -/
def CanStand (text : Text) (offset : Nat) : Prop :=
  (Scene.mk text (Position.ofOffset text offset)).OnCharacter

instance (text : Text) (offset : Nat) : Decidable (CanStand text offset) :=
  inferInstanceAs (Decidable (Scene.OnCharacter _))

/-- Where a cursor of Normal mode stands that was sent to an offset: there, or on the
character before a line break. -/
def standAt (text : Text) (offset : Nat) : Position :=
  Position.ofOffset text (if CanStand text offset then offset else offset - 1)

theorem standAt_offset_of_canStand {text : Text} {offset : Nat} (h : CanStand text offset)
    (hLength : offset ≤ text.length) : (standAt text offset).offset = offset := by
  rw [standAt, if_pos h, Position.ofOffset_offset, Nat.min_eq_left hLength]

theorem standAt_offset_of_not_canStand {text : Text} {offset : Nat} (h : ¬CanStand text offset)
    (hLength : offset ≤ text.length) : offset = (standAt text offset).offset + 1 := by
  have hPositive : 0 < offset := by
    refine Nat.pos_of_ne_zero ?_
    rintro rfl
    exact h (Or.inl rfl)
  rw [standAt, if_neg h, Position.ofOffset_offset]
  omega

namespace CountNumeral

theorem count_pos (n : CountNumeral) : 0 < n.count :=
  Nat.lt_min.mpr ⟨n.pos, by decide⟩

theorem total_withOpenCount (n : CountNumeral) :
    (PendingCommand.none.withOpenCount n.count).total.value = n.count := by
  have hTotal := congrArg Count.value (Workspace.total_typedSoFar (some n) none Option.none)
  have hFactor : factor (some n) * factor none = n.value := Nat.mul_one _
  rw [hFactor] at hTotal
  exact hTotal

end CountNumeral

namespace Workspace

variable {work : Workspace} {surroundings : Surroundings} {pending : PendingCommand}

/-- A cursor sent to an offset of the text is put where it can stand. -/
theorem clampCursor_moveTo_ofOffset (work : Workspace) {offset : Nat}
    (h : offset ≤ work.buffer.text.length) :
    (work.moveTo (Position.ofOffset work.buffer.text offset)).clampCursor =
      work.moveTo (standAt work.buffer.text offset) := by
  by_cases hStand : CanStand work.buffer.text offset
  · rw [standAt, if_pos hStand]
    exact clampCursor_of_onCharacter hStand
  · obtain ⟨hLine, hColumn, hOffset⟩ :=
      Position.isIn_iff.mp (Position.isIn_ofOffset work.buffer.text offset)
    rw [Position.ofOffset_offset, Nat.min_eq_left h] at hOffset
    have hPast := hStand
    simp only [CanStand, Scene.OnCharacter, not_or, Nat.not_lt] at hPast
    -- The cursor is at the end of a line that has characters.
    have hBack := Position.ofLineColumn_eq_ofOffset hLine (Nat.sub_le _ 1)
    have hBefore : lineStart (splitLines work.buffer.text)
          (Position.ofOffset work.buffer.text offset).line +
        (lineLength (splitLines work.buffer.text)
          (Position.ofOffset work.buffer.text offset).line - 1) = offset - 1 := by
      omega
    rw [hBefore] at hBack
    have hClamp : (Position.ofOffset work.buffer.text offset).column > 0 ∧
        lineLength (splitLines work.buffer.text)
          (Position.ofOffset work.buffer.text offset).line > 0 ∧
        (Position.ofOffset work.buffer.text offset).column ≥
          lineLength (splitLines work.buffer.text)
            (Position.ofOffset work.buffer.text offset).line := by
      omega
    rw [standAt, if_neg hStand, ← hBack]
    exact if_pos hClamp

/-! ## Keys for matches -/

/-- The motion to a later match follows the matches. -/
theorem move_nextMatch (work : Workspace) {surroundings : Surroundings} (count : Count)
    (hFound : surroundings.found ≠ []) (hText : work.buffer.text ≠ []) :
    work.move surroundings .nextMatch count =
      (work.setGoal none).moveTo (Position.ofOffset work.buffer.text
        (Motion.followMatches (Match.nextAfter surroundings.found) (max count.value 1)
          work.buffer.cursor.offset)) := by
  have hSome : surroundings.found.isEmpty = false := by simpa using hFound
  have hLines : Motion.isEmptyText work.buffer.lines = false := Motion.isEmptyText_splitLines hText
  simp only [move, Motion.span, hLines, Motion.target?, Motion.matchTarget, hSome]
  simp only [Motion.isVertical, Bool.false_eq_true, if_false, reduceCtorEq]
  rw [Buffer.lines, Position.ofOffsetInLines_splitLines]

/-- The workspace with the cursor sent to an offset and nothing pending. -/
def goTo (work : Workspace) (offset : Nat) : Workspace :=
  ((work.enter ModeState.idle).setGoal none).moveTo (standAt work.buffer.text offset)

/-- With a count or none typed, `n` goes as many matches on. -/
theorem press_next (h : work.engine.state = .normal (.command pending))
    (hG : pending.afterG = false) (hOperator : pending.operator = none)
    (hFound : surroundings.found ≠ []) (hText : work.buffer.text ≠ []) {target : Nat}
    (hTarget : Motion.followMatches (Match.nextAfter surroundings.found)
      (max pending.total.value 1) work.buffer.cursor.offset = target)
    (hIn : target ≤ work.buffer.text.length) :
    work.press surroundings (.char 'n') = (work.goTo target, .moved) := by
  have hDigit : pending.withDigit? 'n' = none :=
    PendingCommand.withDigit?_of_digitValue?_eq_none rfl
  have hMove := (work.enter ModeState.idle).move_nextMatch pending.total hFound hText
  rw [press_of_free_motion h hG hOperator rfl hDigit, hMove]
  subst hTarget
  have hClamp := ((work.enter ModeState.idle).setGoal none).clampCursor_moveTo_ofOffset hIn
  exact congrArg (·, KeyOutcome.moved) hClamp

end Workspace

namespace Session

variable {session : Session} {text : Text} {found : List Match}

/-- The digits of a count are done when the engine is. -/
theorem pressEach_numeral (h : session.work.engine.state = ModeState.idle) (n : CountNumeral)
    {keys : List (Key × Nat)} (hKeys : keys.map Prod.fst = n.keys) :
    (session.pressEach keys).work =
        session.work.awaiting (PendingCommand.none.withOpenCount n.count) ∧
      (session.pressEach keys).search = session.search ∧
      (session.pressEach keys).viewport = session.viewport := by
  have hWaits : session.work.Waits session.surroundings n.keys :=
    Workspace.Waits.nil.append_numeral h rfl rfl n
  have hTyped := pressEach_of_waits hWaits hKeys
  rwa [Workspace.typeKeys_numeral h rfl rfl] at hTyped

/-! ## Presses of the key for the next match -/

/-- Presses of the key for the next match. -/
def nexts (session : Session) (nows : List Nat) : Session :=
  session.pressEach (nows.map (Key.char 'n', ·))

/-- The match to which the key for the next match goes. -/
def nextMatch? (session : Session) : Option Match :=
  session.search.nextAfter session.cursor.offset

/-- The matches to which presses of that key go. -/
def targets (session : Session) : List Nat → List Match
  | [] => []
  | now :: nows =>
      session.nextMatch?.toList ++ targets (session.press (.char 'n') now).1 nows

/-- The first of the matches passed at which the cursor cannot stand. -/
def stop? (text : Text) (passed : List Match) : Option Match :=
  passed.find? fun m => ¬CanStand text m.start

/-- A match at which the cursor can stand is none to stop at. -/
theorem stop?_take_turn {first : Match} (hStand : CanStand text first.start)
    (rest : List Match) (count : Nat) :
    stop? text ((rest ++ [first]).take count) =
      stop? text ((first :: rest).take (count + 1)) := by
  have hOne : stop? text ([first].take (count - rest.length)) = none := by
    rw [stop?, List.find?_eq_none]
    intro m hMem
    obtain rfl := List.mem_singleton.mp (List.mem_of_mem_take hMem)
    simpa using hStand
  have hNot : decide (¬CanStand text first.start) = false := by simpa using hStand
  rw [List.take_append, List.take_succ_cons]
  simp only [stop?, List.find?_append] at hOne ⊢
  rw [hOne, Option.or_none, List.find?_cons, hNot]

/-- Whether a session is in Normal mode with nothing pending, and has matches of its
text. -/
structure Seeks (session : Session) (text : Text) (found : List Match) : Prop where
  idle : session.work.engine.state = ModeState.idle
  text_eq : session.text = text
  found_eq : session.search.found = found
  ne_nil : found ≠ []
  fit : Match.Fit found text

namespace Seeks

theorem text_ne_nil (h : session.Seeks text found) : text ≠ [] :=
  h.fit.text_ne_nil h.ne_nil

/-- The next match is the first of the tour from the cursor. -/
theorem nextMatch?_eq_head? (h : session.Seeks text found) :
    session.nextMatch? = (Match.tour found session.cursor.offset).head? := by
  rw [nextMatch?, Search.nextAfter, h.found_eq, Match.nextAfter_eq_head?]

theorem exists_tour_eq_cons (h : session.Seeks text found) :
    ∃ first rest, Match.tour found session.cursor.offset = first :: rest ∧
      session.nextMatch? = some first := by
  obtain ⟨first, rest, hTour⟩ := Match.exists_tour_eq_cons h.fit.inOrder h.ne_nil
    session.cursor.offset
  exact ⟨first, rest, hTour, by rw [h.nextMatch?_eq_head?, hTour]; rfl⟩

theorem mem_of_nextMatch? (h : session.Seeks text found) {next : Match}
    (hNext : session.nextMatch? = some next) : next ∈ found := by
  rw [nextMatch?, Search.nextAfter, h.found_eq] at hNext
  exact Match.mem_of_nextAfter hNext

/-- A press of the key goes to the next match. -/
theorem press_next (h : session.Seeks text found) {next : Match}
    (hNext : session.nextMatch? = some next) (now : Nat) :
    ((session.press (.char 'n') now).1).Seeks text found ∧
      ((session.press (.char 'n') now).1).cursor = standAt text next.start := by
  have hText := h.text_ne_nil
  have hMem := h.mem_of_nextMatch? hNext
  obtain ⟨hIdle, rfl, rfl, hFound, hFit⟩ := h
  have hTarget : Motion.followMatches (Match.nextAfter session.surroundings.found)
      (max PendingCommand.none.total.value 1) session.work.buffer.cursor.offset = next.start := by
    have hOne : max PendingCommand.none.total.value 1 = 0 + 1 := rfl
    rw [hOne, Motion.followMatches,
      show Match.nextAfter session.surroundings.found session.work.buffer.cursor.offset =
        some next from hNext]
    rfl
  have hPress := Workspace.press_next hIdle rfl rfl hFound hText hTarget
    (Nat.le_of_lt (hFit.start_lt next hMem))
  obtain ⟨hWork, hSearch, -⟩ := press_of_isLocal hPress rfl rfl now
  refine ⟨⟨?_, ?_, ?_, hFound, hFit⟩, ?_⟩
  · rw [hWork]
    rfl
  · rw [Session.text, hWork]
    rfl
  · rw [hSearch]
  · rw [cursor, hWork]
    rfl

/-- Where the cursor can stand at the next match, a press of the key turns the tour. -/
theorem tour_press (h : session.Seeks text found) {first : Match} {rest : List Match}
    (hTour : Match.tour found session.cursor.offset = first :: rest)
    (hStand : CanStand text first.start) (now : Nat) :
    Match.tour found ((session.press (.char 'n') now).1).cursor.offset = rest ++ [first] := by
  have hNext : session.nextMatch? = some first := by rw [h.nextMatch?_eq_head?, hTour]; rfl
  have hIn := h.fit.start_lt first (h.mem_of_nextMatch? hNext)
  rw [(h.press_next hNext now).2, standAt_offset_of_canStand hStand (Nat.le_of_lt hIn)]
  exact Match.tour_start h.fit.inOrder hTour

/-- Where the cursor cannot stand at the next match, that match is next again. -/
theorem nextMatch?_press (h : session.Seeks text found) {next : Match}
    (hNext : session.nextMatch? = some next) (hStand : ¬CanStand text next.start) (now : Nat) :
    ((session.press (.char 'n') now).1).nextMatch? = some next := by
  obtain ⟨hSeeks, hCursor⟩ := h.press_next hNext now
  have hMem := h.mem_of_nextMatch? hNext
  have hStart := standAt_offset_of_not_canStand hStand (Nat.le_of_lt (h.fit.start_lt next hMem))
  rw [nextMatch?, Search.nextAfter, hSeeks.found_eq, hCursor]
  exact Match.nextAfter_of_start h.fit.inOrder hMem hStart

/-! ## Many presses -/

theorem nexts (h : session.Seeks text found) (nows : List Nat) :
    (session.nexts nows).Seeks text found := by
  induction nows generalizing session with
  | nil => exact h
  | cons now nows ih =>
      obtain ⟨first, -, -, hNext⟩ := h.exists_tour_eq_cons
      exact ih (h.press_next hNext now).1

/-- Once the next match is one at which the cursor cannot stand, all presses go there. -/
theorem cursor_nexts_of_not_canStand (h : session.Seeks text found) {next : Match}
    (hNext : session.nextMatch? = some next) (hStand : ¬CanStand text next.start) (now : Nat)
    (nows : List Nat) : (session.nexts (now :: nows)).cursor = standAt text next.start := by
  induction nows generalizing session now with
  | nil => exact (h.press_next hNext now).2
  | cons later nows ih =>
      exact ih (h.press_next hNext now).1 (h.nextMatch?_press hNext hStand now) later

/-- Presses of the key end at the first match passed at which the cursor cannot stand.
Where it can stand at all of them, they end as many places on in the tour. -/
theorem cursor_nexts (h : session.Seeks text found) (now : Nat) (nows : List Nat) :
    ∃ last, (Match.tour found session.cursor.offset)[nows.length %
          (Match.tour found session.cursor.offset).length]? = some last ∧
      (session.nexts (now :: nows)).cursor = standAt text
        ((stop? text ((Match.tour found session.cursor.offset).take nows.length)).getD
          last).start := by
  induction nows generalizing session now with
  | nil =>
      obtain ⟨first, rest, hTour, hNext⟩ := h.exists_tour_eq_cons
      rw [hTour]
      exact ⟨first, by simp, (h.press_next hNext now).2⟩
  | cons later nows ih =>
      obtain ⟨first, rest, hTour, hNext⟩ := h.exists_tour_eq_cons
      obtain ⟨hSeeks, -⟩ := h.press_next hNext now
      by_cases hStand : CanStand text first.start
      · -- The tour is turned by one place, and the other presses go on from there.
        obtain ⟨last, hLast, hCursor⟩ := ih hSeeks later
        rw [h.tour_press hTour hStand now] at hLast hCursor
        rw [Match.getElem?_turn] at hLast
        rw [stop?_take_turn hStand] at hCursor
        rw [hTour]
        exact ⟨last, hLast, hCursor⟩
      · have hStop : stop? text ((first :: rest).take (later :: nows).length) = some first := by
          simp [stop?, hStand]
        have hLess : (later :: nows).length % (first :: rest).length < (first :: rest).length :=
          Nat.mod_lt _ (Nat.succ_pos _)
        rw [hTour]
        refine ⟨_, List.getElem?_eq_getElem hLess, ?_⟩
        rw [h.cursor_nexts_of_not_canStand hNext hStand now (later :: nows), hStop]
        rfl

/-- Presses of the key go to the matches in the order of their tour exactly if the cursor
can stand at all of them but the last. -/
theorem targets_eq_take_iff (h : session.Seeks text found) (nows : List Nat)
    (hLength : nows.length ≤ (Match.tour found session.cursor.offset).length) :
    session.targets nows = (Match.tour found session.cursor.offset).take nows.length ↔
      ∀ m ∈ (Match.tour found session.cursor.offset).take (nows.length - 1),
        CanStand text m.start := by
  induction nows generalizing session with
  | nil => simp [targets]
  | cons now nows ih =>
      obtain ⟨first, rest, hTour, hNext⟩ := h.exists_tour_eq_cons
      obtain ⟨hSeeks, -⟩ := h.press_next hNext now
      have hTargets : session.targets (now :: nows) =
          first :: ((session.press (.char 'n') now).1).targets nows := by
        rw [targets, hNext]
        rfl
      rw [hTour] at hLength ⊢
      rw [hTargets, List.length_cons, List.take_succ_cons, List.cons_inj_right]
      cases nows with
      | nil => simp [targets]
      | cons later nows =>
          have hRest : (later :: nows).length ≤ rest.length := Nat.le_of_succ_le_succ hLength
          rw [Nat.add_sub_cancel, List.length_cons, List.take_succ_cons, List.forall_mem_cons]
          by_cases hStand : CanStand text first.start
          · have hTurned := h.tour_press hTour hStand now
            have hIff := ih hSeeks (by rw [hTurned]; simp at hRest ⊢; omega)
            rw [hTurned, List.take_append_of_le_length hRest,
              List.take_append_of_le_length (Nat.le_trans (Nat.sub_le _ 1) hRest)] at hIff
            simpa [hStand] using hIff
          · -- The second press goes to the first match again, which no tour does.
            have hAgain := h.nextMatch?_press hNext hStand now
            have hTargets : ((session.press (.char 'n') now).1).targets (later :: nows) ≠
                rest.take (later :: nows).length := by
              intro hEq
              rw [targets, hAgain] at hEq
              have hMem : first ∈ rest.take (later :: nows).length :=
                hEq ▸ List.mem_append_left _ List.mem_cons_self
              have hNodup := Match.nodup_tour h.fit.inOrder session.cursor.offset
              rw [hTour] at hNodup
              exact (List.nodup_cons.mp hNodup).1 (List.mem_of_mem_take hMem)
            exact iff_of_false hTargets fun hAll => hStand hAll.1

/-- With a count the key goes as many places on in the tour at once. -/
theorem pressEach_count (h : session.Seeks text found) (hOn : session.scene.OnCharacter)
    (n : CountNumeral) {keys : List (Key × Nat)}
    (hKeys : keys.map Prod.fst = n.keys ++ [.char 'n']) :
    ∃ last, (Match.tour found session.cursor.offset)[(n.count - 1) %
          (Match.tour found session.cursor.offset).length]? = some last ∧
      (session.pressEach keys).cursor = standAt text last.start := by
  obtain ⟨digits, now, rfl, hDigits⟩ := exists_last_key hKeys
  obtain ⟨hWork, hSearch, -⟩ := pressEach_numeral h.idle n hDigits
  have hStanding : session.work.awaiting (PendingCommand.none.withOpenCount n.count) =
      session.work.enter (.normal (.command (PendingCommand.none.withOpenCount n.count))) :=
    Workspace.clampCursor_of_onCharacter hOn
  rw [hStanding] at hWork
  rw [pressEach_concat]
  generalize session.pressEach digits = typed at hWork hSearch ⊢
  have hState : typed.work.engine.state =
      .normal (.command (PendingCommand.none.withOpenCount n.count)) := by rw [hWork]; rfl
  have hText : typed.work.buffer.text = text := by rw [hWork]; exact h.text_eq
  have hCursor : typed.work.buffer.cursor = session.cursor := by rw [hWork]; rfl
  have hFound : typed.surroundings.found = found := by rw [surroundings, hSearch, h.found_eq]
  obtain ⟨last, hLast, hFollow⟩ := Match.followMatches_tour h.fit.inOrder h.ne_nil
    session.cursor.offset (n.count - 1)
  have hTarget : Motion.followMatches (Match.nextAfter typed.surroundings.found)
      (max (PendingCommand.none.withOpenCount n.count).total.value 1)
      typed.work.buffer.cursor.offset = last.start := by
    rw [hFound, hCursor, n.total_withOpenCount, ← hFollow, Nat.sub_add_cancel n.count_pos,
      Nat.max_eq_left n.count_pos]
  have hMem : last ∈ found :=
    (Match.perm_tour h.fit.inOrder _).mem_iff.mp (List.mem_of_getElem? hLast)
  have hIn : last.start ≤ typed.work.buffer.text.length :=
    hText ▸ Nat.le_of_lt (h.fit.start_lt last hMem)
  have hPress := Workspace.press_next hState rfl rfl (hFound ▸ h.ne_nil)
    (hText ▸ h.text_ne_nil) hTarget hIn
  obtain ⟨hDone, -⟩ := press_of_isLocal hPress rfl rfl now
  refine ⟨last, hLast, ?_⟩
  rw [cursor, hDone, ← hText]
  rfl

end Seeks

/-- The matches in the text are visited once each, in the order of their tour, by presses
of `n` in Normal mode with nothing pending exactly if the cursor can stand at all of them
but the last.  Every press goes to a match and puts the cursor there, or on the character
before it where that is the line break.  A count goes as many places on at once.  As many
presses end there too, or at the first match before it where the cursor cannot stand. -/
theorem next_visits_matches_iff_can_stand (hMode : session.mode = .normal)
    (hPending : session.work.engine.state.isPending = false)
    (hFound : session.search.found ≠ []) (hFit : Match.Fit session.search.found session.text) :
    let tour := Match.tour session.search.found session.cursor.offset
    tour.Perm session.search.found ∧
      (∀ nows now, ∃ next, (session.nexts nows).nextMatch? = some next ∧
        ((session.nexts nows).press (.char 'n') now).1.cursor =
          standAt session.text next.start) ∧
      (∀ nows : List Nat, nows.length ≤ tour.length →
        (session.targets nows = tour.take nows.length ↔
          ∀ m ∈ tour.take (nows.length - 1), CanStand session.text m.start)) ∧
      (session.scene.OnCharacter →
        ∀ (n : CountNumeral) (keys : List (Key × Nat)) (nows : List Nat),
          keys.map Prod.fst = n.keys ++ [.char 'n'] → nows.length = n.count →
            ∃ last, tour[(n.count - 1) % tour.length]? = some last ∧
              (session.pressEach keys).cursor = standAt session.text last.start ∧
              (session.nexts nows).cursor = standAt session.text
                ((stop? session.text (tour.take (n.count - 1))).getD last).start) := by
  have h : session.Seeks session.text session.search.found :=
    ⟨ModeState.eq_idle hMode hPending, rfl, rfl, hFound, hFit⟩
  refine ⟨Match.perm_tour hFit.inOrder _, fun nows now => ?_, h.targets_eq_take_iff, ?_⟩
  · obtain ⟨next, -, -, hNext⟩ := (h.nexts nows).exists_tour_eq_cons
    exact ⟨next, hNext, ((h.nexts nows).press_next hNext now).2⟩
  · intro hOn n keys nows hKeys hLength
    obtain ⟨last, hLast, hCount⟩ := h.pressEach_count hOn n hKeys
    have hPos := n.count_pos
    obtain ⟨now, nows, rfl⟩ := List.exists_cons_of_length_pos (hLength ▸ hPos)
    obtain ⟨last', hLast', hPresses⟩ := h.cursor_nexts now nows
    have hPlaces : nows.length = n.count - 1 := by
      rw [← hLength, List.length_cons, Nat.add_sub_cancel]
    rw [hPlaces] at hLast' hPresses
    obtain rfl : last' = last := Option.some.inj (hLast'.symm.trans hLast)
    exact ⟨last', hLast, hCount, hPresses⟩

/-- A letter that is in two lines is visited twice, also with a count. -/
theorem next_visits_both_letters :
    let session := (created Parser.rootOnly Settings.default Files.empty
      (some ['a', 'b', '\n', 'b'])).pressEach [(.char '/', 0), (.char 'b', 0), (.enter, 0)]
    (session.mode = .normal ∧ session.work.engine.state.isPending = false ∧
        session.search.found = [⟨1, 2⟩, ⟨3, 4⟩] ∧ session.IsCurrent) ∧
      session.targets [0, 0] = [⟨3, 4⟩, ⟨1, 2⟩] ∧
      (session.pressEach [(.char '2', 0), (.char 'n', 0)]).cursor = ⟨0, 1, 1⟩ ∧
      (session.nexts [0, 0]).cursor = ⟨0, 1, 1⟩ := by
  intro session
  obtain ⟨-, -, hTargets, hCounts⟩ := session.next_visits_matches_iff_can_stand rfl rfl
    (by decide) (Search.fit_run session.search session.text)
  obtain ⟨last, hLast, hCount, hPresses⟩ :=
    hCounts (by decide) ⟨2, by decide⟩ [(.char '2', 0), (.char 'n', 0)] [0, 0] rfl rfl
  obtain rfl := Option.some.inj hLast
  exact ⟨⟨rfl, rfl, rfl, rfl⟩, (hTargets [0, 0] (by decide)).mpr (by decide), hCount, hPresses⟩

/-- A search for line breaks finds two.  Presses of `n` stay on the character before the
first one, and a count gets to the second. -/
theorem next_stays_before_line_break :
    let session := (created Parser.rootOnly { Settings.default with searchUsesPattern := true }
      Files.empty (some ['a', 'b', '\n', 'c', 'd', '\n'])).pressEach
        [(.char '/', 0), (.char '\\', 0), (.char 'n', 0), (.enter, 0), (.char 'g', 0),
          (.char 'g', 0)]
    (session.mode = .normal ∧ session.work.engine.state.isPending = false ∧
        session.cursor = Position.origin ∧ session.search.found = [⟨2, 3⟩, ⟨5, 6⟩] ∧
        session.IsCurrent) ∧
      session.targets [0, 0] = [⟨2, 3⟩, ⟨2, 3⟩] ∧ (session.nexts [0, 0]).cursor = ⟨0, 1, 1⟩ ∧
      (session.pressEach [(.char '2', 0), (.char 'n', 0)]).cursor = ⟨1, 1, 4⟩ :=
  ⟨⟨rfl, rfl, rfl, rfl, rfl⟩, rfl, rfl, rfl⟩

end Session

end ModalEditor
