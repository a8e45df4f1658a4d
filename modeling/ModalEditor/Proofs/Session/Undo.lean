import ModalEditor.Proofs.History.Timeline
import ModalEditor.Proofs.Session.Basic

namespace ModalEditor

/-!
# Undoing and redoing by keys

An onlooker keeps the timeline of a session while keys are pressed.  All that is
looked at is what each key shows: its outcome, the mode it leads to, and the
scenes before and after it.  The history of the session matches the timeline
after every key.  So undoing leads to the scene before the last change that is
not undone, redoing to the scene after the change undone last, and what the
history hands out always applies.
-/

namespace Session

/-- What a session shows of its text. -/
def scene (session : Session) : Scene := ⟨session.text, session.cursor⟩

end Session

/-- A session and the timeline that an onlooker keeps of it. -/
structure Watched where
  session : Session
  timeline : Timeline

namespace Watched

/-- What the onlooker notes of a key.  A change ends when a key leads out of
Insert mode, or was never in it. -/
def observe (timeline : Timeline) (outcome : KeyOutcome) (mode : Mode)
    (before after : Scene) : Timeline :=
  match outcome with
  | .undo => timeline.stepBack
  | .redo => timeline.stepOn
  | _ =>
      let noticed := timeline.notice before after.text
      if mode = .insert then noticed else noticed.close after

/-- A session that just loaded a text. -/
def ofLoad (parser : Parser) (session : Session) (text : Text) : Watched :=
  ⟨session.load parser text, Timeline.ofCapacity session.history.capacity⟩

/-- One key at an instant. -/
def press (watched : Watched) (key : Key) (now : Nat) : Watched :=
  let (session, outcome) := watched.session.press key now
  ⟨session,
    observe watched.timeline outcome session.mode watched.session.scene session.scene⟩

/-- Keys in order, each at its instant. -/
def pressAll (watched : Watched) (keys : List (Key × Nat)) : Watched :=
  keys.foldl (fun watched key => watched.press key.1 key.2) watched

/-- The invariant: the history of the session matches the timeline, and a change
is under way only in Insert mode. -/
structure Agrees (watched : Watched) : Prop where
  coherent : watched.session.work.Coherent
  fits : watched.timeline.Matches watched.session.history watched.session.text
  settled : watched.session.mode ≠ .insert → watched.timeline.opened = none

theorem agrees_ofLoad (parser : Parser) (session : Session) (text : Text) :
    (ofLoad parser session text).Agrees :=
  ⟨⟨Position.isIn_origin text, fun _ hAnchor => by cases hAnchor⟩,
    Timeline.matches_clear session.history text, fun _ => rfl⟩

variable {watched : Watched}

@[simp]
theorem press_session (watched : Watched) (key : Key) (now : Nat) :
    (watched.press key now).session = (watched.session.press key now).1 := rfl

theorem press_timeline (watched : Watched) (key : Key) (now : Nat) :
    (watched.press key now).timeline =
      observe watched.timeline (watched.session.outcomeOf key)
        (watched.session.press key now).1.mode watched.session.scene
        (watched.session.press key now).1.scene := by
  rw [← watched.session.press_outcome key now]
  rfl

theorem observe_of_isTravel_eq_false (timeline : Timeline) {outcome : KeyOutcome}
    (h : outcome.isTravel = false) (mode : Mode) (before after : Scene) :
    observe timeline outcome mode before after =
      if mode = .insert then timeline.notice before after.text
      else (timeline.notice before after.text).close after := by
  cases outcome with
  | undo | redo => cases h
  | _ => rfl

/-! ## Keys that run commands -/

/-- What the onlooker notes down at a change is what the session records. -/
theorem matches_recordChange {timeline : Timeline} {session : Session} {before : Scene}
    {tabSize : Nat} (h : timeline.Matches session.history before.text)
    (hBefore : before.Coherent) (now : Nat) :
    (timeline.notice before session.text).Matches
      (session.recordChange ⟨before.text, before.cursor, tabSize⟩ now).history session.text := by
  rw [Session.recordChange]
  cases hSplice : Splice.between before.text session.text with
  | none =>
      have hText := (Splice.between_eq_none_iff.mp hSplice).symm
      rw [Timeline.notice_of_eq timeline hText, hText]
      exact h
  | some splice => exact h.notice hBefore hSplice

/-- The end of a key ends the change unless an insert session goes on. -/
theorem agrees_endCommand {timeline : Timeline} {session : Session}
    (hCoherent : session.work.Coherent)
    (h : timeline.Matches session.history session.text) :
    Agrees ⟨session.endCommand,
      if session.mode = .insert then timeline else timeline.close session.scene⟩ := by
  refine ⟨hCoherent, ?_, ?_⟩
  · by_cases hMode : session.mode = .insert
    · simp only [Session.endCommand, if_pos hMode]
      exact h.setCursorAfter session.cursor
    · simp only [Session.endCommand, if_neg hMode]
      have hScene : session.scene.Coherent := hCoherent.cursor
      have hClosed : (timeline.close session.scene).Matches
          (session.history.setCursorAfter session.cursor).commit session.text :=
        Timeline.Matches.close h hScene
      exact hClosed
  · intro hMode
    have hNot : session.mode ≠ .insert := hMode
    simp [if_neg hNot]

/-- A key that runs a command, or part of one, keeps the invariant. -/
theorem Agrees.press_command (h : watched.Agrees) {key : Key}
    (hTravel : (watched.session.outcomeOf key).isTravel = false) (now : Nat) :
    (watched.press key now).Agrees := by
  have hPress := Session.press_of_isTravel_eq_false hTravel now
  have hKeeps := (watched.session.engage key now).keepsText_carryOut
    (watched.session.outcomeOf key)
  generalize (watched.session.engage key now).carryOut (watched.session.outcomeOf key) = carried
    at hPress hKeeps
  have hCoherent : carried.work.Coherent := hKeeps.coherent (h.coherent.press _ key)
  have hBefore : watched.session.scene.Coherent := h.coherent.cursor
  have hHistory : carried.history = watched.session.history := hKeeps.history
  have hMatches : (watched.timeline.notice watched.session.scene carried.text).Matches
      (carried.recordChange watched.session.work.buffer now).history carried.text :=
    matches_recordChange (hHistory ▸ h.fits) hBefore now
  -- Recording leaves the workspace, so only the end of the command is to come.
  have hText := carried.recordChange_text watched.session.work.buffer now
  have hWork := carried.recordChange_work watched.session.work.buffer now
  generalize carried.recordChange watched.session.work.buffer now = recorded
    at hPress hMatches hText hWork
  rw [← hText] at hMatches
  rw [← hWork] at hCoherent
  show Agrees ⟨(watched.session.press key now).1, (watched.press key now).timeline⟩
  rw [press_timeline, observe_of_isTravel_eq_false _ hTravel, hPress]
  exact agrees_endCommand hCoherent hMatches

/-! ## Steps in the history -/

/-- With no group open, a key for a step in the history takes the step. -/
theorem travelByKey_eq {session : Session} (hCurrent : session.history.current = none)
    (travel : Session → Session × Bool) (now : Nat) :
    session.travelByKey travel now =
      if (travel session).2 then (travel session).1.noteChange now else (travel session).1 := by
  rw [Session.travelByKey, History.commit_of_current_eq_none hCurrent]

/-- A step that leads nowhere leaves the session as it is. -/
theorem travelByKey_of_eq_none {session : Session}
    {step : History → History × Option Restoration} (hCurrent : session.history.current = none)
    (hStep : step session.history = (session.history, none)) (now : Nat) :
    session.travelByKey (Session.travelBy step) now = session := by
  rw [travelByKey_eq hCurrent, Session.travelBy, hStep]
  rfl

/-- A step that leads to a scene shows it. -/
theorem travelByKey_of_leadsTo {session : Session}
    {step : History → History × Option Restoration} {after : History}
    {restoration : Restoration} {scene : Scene} (hCurrent : session.history.current = none)
    (hStep : step session.history = (after, some restoration))
    (hLeads : restoration.LeadsTo session.text scene) (now : Nat) :
    let traveled := session.travelByKey (Session.travelBy step) now
    traveled.scene = scene ∧ traveled.history = after := by
  have hCursor : Position.ofOffset scene.text restoration.cursor.offset = scene.cursor := by
    rw [hLeads.cursor]
    exact hLeads.coherent.symm
  have hTravel : session.travel (after, some restoration) = _ :=
    session.travel_of_applyAll rfl hLeads.text
  simp only [travelByKey_eq hCurrent, Session.travelBy, hStep, hTravel, if_true, hCursor]
  refine ⟨?_, rfl⟩
  show (⟨(session.work.buffer.replaceText scene.text).text, scene.cursor⟩ : Scene) = scene
  rw [Buffer.replaceText_text]

/-- A step in the history keeps the invariant, and shows the scene that it leads
to. -/
theorem agrees_travelByKey {session : Session} {timeline : Timeline}
    {step : History → History × Option Restoration} {target : Option Scene}
    (hCoherent : session.work.Coherent) (hMode : session.mode = .normal)
    (hCurrent : session.history.current = none) (hOpened : timeline.opened = none)
    (h : timeline.Answers session.history session.text (step session.history) target)
    (now : Nat) :
    let traveled := session.travelByKey (Session.travelBy step) now
    Agrees ⟨traveled, timeline⟩ ∧ ∀ scene, target = some scene → traveled.scene = scene := by
  cases target with
  | none =>
      obtain ⟨hStep, hMatches⟩ := h
      simp only [travelByKey_of_eq_none hCurrent hStep]
      exact ⟨⟨hCoherent, hMatches, fun _ => hOpened⟩, fun scene hScene => by cases hScene⟩
  | some scene =>
      obtain ⟨after, restoration, hStep, hLeads, hMatches⟩ := h
      obtain ⟨hScene, hHistory⟩ := travelByKey_of_leadsTo hCurrent hStep hLeads now
      have hEngine := session.travelByKey_engine step now
      generalize session.travelByKey (Session.travelBy step) now = traveled at *
      refine ⟨?_, fun other hOther => Option.some.inj hOther ▸ hScene⟩
      have hSteady : traveled.work.Steady := by
        refine ⟨?_, Or.inl ?_⟩
        · have hCursor := hLeads.coherent
          rw [← hScene] at hCursor
          exact hCursor
        · rw [hEngine]
          exact hMode
      have hText : traveled.text = scene.text := congrArg Scene.text hScene
      exact ⟨hSteady.coherent, hText.symm ▸ hHistory.symm ▸ hMatches, fun _ => hOpened⟩

/-- A key for a step in the history finds no change under way, and leaves the
engine in Normal mode with the text as it was. -/
theorem Agrees.of_isTravel (h : watched.Agrees) {key : Key}
    (hTravel : (watched.session.outcomeOf key).isTravel = true) (now : Nat) :
    watched.timeline.opened = none ∧ (watched.session.engage key now).mode = .normal ∧
      (watched.session.engage key now).work.Coherent ∧
      watched.timeline.Matches (watched.session.engage key now).history
        (watched.session.engage key now).text := by
  obtain ⟨hMode, hAfter, hText⟩ := Workspace.of_isTravel_press hTravel
  refine ⟨h.settled ?_, hAfter, h.coherent.press _ key, ?_⟩
  · rw [Session.mode, hMode]
    decide
  · have hFits := h.fits
    rw [Session.text, ← hText] at hFits
    exact hFits

/-- The key for undoing keeps the invariant, and shows the scene before the last
change. -/
theorem Agrees.press_undo (h : watched.Agrees) {key : Key}
    (hOutcome : watched.session.outcomeOf key = .undo) (now : Nat) :
    (watched.press key now).Agrees ∧
      ∀ scene, watched.timeline.done.head?.map Change.before = some scene →
        (watched.session.press key now).1.scene = scene := by
  obtain ⟨hOpened, hMode, hCoherent, hFits⟩ := h.of_isTravel (by rw [hOutcome]; rfl) now
  have hCurrent := (hFits.of_opened_eq_none hOpened).1
  show Agrees ⟨(watched.session.press key now).1, (watched.press key now).timeline⟩ ∧ _
  rw [press_timeline, hOutcome, Session.press_of_undo hOutcome]
  exact agrees_travelByKey hCoherent hMode hCurrent
    ((Timeline.stepBack_opened _).trans hOpened) (hFits.undo hOpened) now

/-- The key for redoing keeps the invariant, and shows the scene after the change
undone last. -/
theorem Agrees.press_redo (h : watched.Agrees) {key : Key}
    (hOutcome : watched.session.outcomeOf key = .redo) (now : Nat) :
    (watched.press key now).Agrees ∧
      ∀ scene, watched.timeline.undone.head?.map Change.after = some scene →
        (watched.session.press key now).1.scene = scene := by
  obtain ⟨hOpened, hMode, hCoherent, hFits⟩ := h.of_isTravel (by rw [hOutcome]; rfl) now
  have hCurrent := (hFits.of_opened_eq_none hOpened).1
  show Agrees ⟨(watched.session.press key now).1, (watched.press key now).timeline⟩ ∧ _
  rw [press_timeline, hOutcome, Session.press_of_redo hOutcome]
  exact agrees_travelByKey hCoherent hMode hCurrent
    ((Timeline.stepOn_opened _).trans hOpened) (hFits.redo hOpened) now

/-- Every key keeps the invariant. -/
theorem Agrees.press (h : watched.Agrees) (key : Key) (now : Nat) :
    (watched.press key now).Agrees := by
  cases hOutcome : watched.session.outcomeOf key with
  | undo => exact (h.press_undo hOutcome now).1
  | redo => exact (h.press_redo hOutcome now).1
  | _ => exact h.press_command (by rw [hOutcome]; rfl) now

theorem Agrees.pressAll (h : watched.Agrees) (keys : List (Key × Nat)) :
    (watched.pressAll keys).Agrees := by
  induction keys generalizing watched with
  | nil => exact h
  | cons key keys ih => exact ih (h.press key.1 key.2)

theorem pressAll_append (watched : Watched) (first second : List (Key × Nat)) :
    watched.pressAll (first ++ second) = (watched.pressAll first).pressAll second :=
  List.foldl_append

/-! ## Going back and on with nothing pending -/

/-- Whether the next key starts a command of Normal mode. -/
def IsIdle (watched : Watched) : Prop :=
  watched.session.work.engine.state = ModeState.idle

theorem IsIdle.of_isPending_eq_false (hMode : watched.session.mode = .normal)
    (hPending : watched.session.work.engine.state.isPending = false) : watched.IsIdle :=
  ModeState.eq_idle hMode hPending

theorem IsIdle.outcomeOf_undo (h : watched.IsIdle) :
    watched.session.outcomeOf (.char 'u') = .undo :=
  congrArg Prod.snd (Workspace.press_undo_of_idle h _)

theorem IsIdle.outcomeOf_redo (h : watched.IsIdle) :
    watched.session.outcomeOf (.ctrl 'r') = .redo :=
  congrArg Prod.snd (Workspace.press_redo_of_idle h _)

/-- Undoing with nothing pending leaves nothing pending. -/
theorem IsIdle.press_undo (h : watched.IsIdle) (now : Nat) :
    (watched.press (.char 'u') now).IsIdle := by
  have hEngine := watched.session.press_engine (.char 'u') now
  rw [IsIdle, press_session, hEngine, Session.engage, Workspace.press_undo_of_idle h]
  exact congrArg Engine.state (Workspace.clampCursor_engine _)

/-- Redoing with nothing pending leaves nothing pending. -/
theorem IsIdle.press_redo (h : watched.IsIdle) (now : Nat) :
    (watched.press (.ctrl 'r') now).IsIdle := by
  have hEngine := watched.session.press_engine (.ctrl 'r') now
  rw [IsIdle, press_session, hEngine, Session.engage, Workspace.press_redo_of_idle h]
  exact (congrArg Engine.state (Workspace.clampCursor_engine _)).trans h

theorem IsIdle.timeline_press_undo (h : watched.IsIdle) (now : Nat) :
    (watched.press (.char 'u') now).timeline = watched.timeline.stepBack := by
  rw [press_timeline, h.outcomeOf_undo]
  rfl

theorem IsIdle.timeline_press_redo (h : watched.IsIdle) (now : Nat) :
    (watched.press (.ctrl 'r') now).timeline = watched.timeline.stepOn := by
  rw [press_timeline, h.outcomeOf_redo]
  rfl

/-- The text is the one after the last change that is not undone. -/
theorem Agrees.text_eq (h : watched.Agrees) (hOpened : watched.timeline.opened = none)
    {change : Change} {older : List Change} (hDone : watched.timeline.done = change :: older) :
    watched.session.text = change.after.text := by
  obtain ⟨-, hBack, -⟩ := h.fits.of_opened_eq_none hOpened
  rw [hDone] at hBack
  obtain ⟨group, groups, -, -, hText, -⟩ := hBack.exists_cons
  exact hText.symm

/-- The keys for undoing, then those for redoing, each at its instant. -/
def backAndOn (back on : List Nat) : List (Key × Nat) :=
  back.map (Key.char 'u', ·) ++ on.map (Key.ctrl 'r', ·)

/-- The first key for undoing belongs to the last one for redoing. -/
theorem backAndOn_cons_append (first last : Nat) (back on : List Nat) :
    backAndOn (first :: back) (on ++ [last]) =
      (Key.char 'u', first) :: (backAndOn back on ++ [(Key.ctrl 'r', last)]) := by
  simp [backAndOn]

/-- As many keys for redoing as for undoing lead back to the text and to the
timeline of before. -/
theorem Agrees.pressAll_backAndOn (h : watched.Agrees) (hIdle : watched.IsIdle)
    {back on : List Nat} (hLength : back.length = on.length)
    (hDepth : back.length ≤ watched.timeline.done.length) :
    let final := watched.pressAll (backAndOn back on)
    final.IsIdle ∧ final.timeline = watched.timeline ∧
      final.session.text = watched.session.text := by
  induction back generalizing watched on with
  | nil =>
      have hOn : on = [] := List.eq_nil_of_length_eq_zero hLength.symm
      rw [hOn]
      exact ⟨hIdle, rfl, rfl⟩
  | cons first back ih =>
      have hOn : on ≠ [] := by
        rintro rfl
        cases hLength
      obtain ⟨earlier, last, rfl⟩ : ∃ earlier last, on = earlier ++ [last] :=
        ⟨_, _, (List.dropLast_concat_getLast hOn).symm⟩
      rw [List.length_cons, List.length_append, List.length_singleton] at hLength
      have hOpened := (h.of_isTravel (by rw [hIdle.outcomeOf_undo]; rfl) first).1
      cases hDone : watched.timeline.done with
      | nil => simp [hDone] at hDepth
      | cons change older =>
          have hBack := hIdle.timeline_press_undo first
          rw [Timeline.stepBack_of_done_eq_cons hDone] at hBack
          have hNext := (h.press_undo hIdle.outcomeOf_undo first).1
          -- Between the two keys the timeline is the one that undoing left.
          have hShorter : back.length = earlier.length := by omega
          have hLess : back.length ≤ (watched.press (.char 'u') first).timeline.done.length := by
            rw [hDone, List.length_cons, List.length_cons] at hDepth
            rw [hBack]
            exact Nat.le_of_succ_le_succ hDepth
          obtain ⟨hBetween, hTimeline, -⟩ := ih hNext (hIdle.press_undo first) hShorter hLess
          have hRun : watched.pressAll (backAndOn (first :: back) (earlier ++ [last])) =
              ((watched.press (.char 'u') first).pressAll (backAndOn back earlier)).press
                (.ctrl 'r') last := by
            rw [backAndOn_cons_append]
            exact pressAll_append _ (backAndOn back earlier) [(.ctrl 'r', last)]
          have hAgrees := hNext.pressAll (backAndOn back earlier)
          generalize (watched.press (.char 'u') first).pressAll (backAndOn back earlier) = between
            at hBetween hTimeline hRun hAgrees
          rw [hBack] at hTimeline
          have hScene := (hAgrees.press_redo hBetween.outcomeOf_redo last).2 change.after (by
            rw [hTimeline]
            rfl)
          rw [hRun]
          refine ⟨hBetween.press_redo last, ?_, ?_⟩
          · rw [hBetween.timeline_press_redo, hTimeline,
              ← Timeline.stepBack_of_done_eq_cons hDone, Timeline.stepOn_stepBack hDone]
          · rw [h.text_eq hOpened hDone]
            exact congrArg Scene.text hScene

/-- What the history hands out for a key always applies. -/
theorem Agrees.applyAll_isSome (h : watched.Agrees) {restoration : Restoration}
    (hOffer : watched.session.history.commit.undo.2 = some restoration ∨
      watched.session.history.commit.redo.2 = some restoration) :
    (Splice.applyAll watched.session.text restoration.splices).isSome = true := by
  have hCommit := h.fits.fits.commit
  have hFits : watched.session.history.commit.Fits watched.session.text := ⟨_, hCommit⟩
  rcases hOffer with hUndo | hRedo
  · obtain ⟨earlier, hApply, -⟩ := hFits.undo (Prod.ext rfl hUndo)
    rw [hApply, Option.isSome_some]
  · obtain ⟨next, hApply, -⟩ := hFits.redo (History.commit_openSplices _) (Prod.ext rfl hRedo)
    rw [hApply, Option.isSome_some]

/-- After any keys, what the history hands out applies.  In Normal mode with
nothing pending, something can be undone or done again exactly if the timeline
holds it, undoing shows the scene before the last change, redoing the scene after
the change undone last, and as many keys for redoing as for undoing lead back to
the text. -/
theorem undo_and_redo_follow_timeline (parser : Parser) (start : Session) (text : Text)
    (keys : List (Key × Nat)) :
    let watched := (ofLoad parser start text).pressAll keys
    let session := watched.session
    let timeline := watched.timeline
    (∀ restoration,
        session.history.commit.undo.2 = some restoration ∨
            session.history.commit.redo.2 = some restoration →
          (Splice.applyAll session.text restoration.splices).isSome = true) ∧
      (session.mode = .normal → session.work.engine.state.isPending = false →
        session.history.canUndo = !timeline.done.isEmpty ∧
        session.history.canRedo = !timeline.undone.isEmpty ∧
        (∀ change older now, timeline.done = change :: older →
          (session.press (.char 'u') now).1.scene = change.before) ∧
        (∀ change later now, timeline.undone = change :: later →
          (session.press (.ctrl 'r') now).1.scene = change.after) ∧
        ∀ back on : List Nat, back.length = on.length →
          back.length ≤ session.history.undoDepth →
            (watched.pressAll (backAndOn back on)).session.text = session.text) := by
  have h := (agrees_ofLoad parser start text).pressAll keys
  refine ⟨fun restoration hOffer => h.applyAll_isSome hOffer, fun hMode hPending => ?_⟩
  generalize (ofLoad parser start text).pressAll keys = watched at *
  have hIdle := IsIdle.of_isPending_eq_false hMode hPending
  have hOpened := h.settled (by rw [hMode]; decide)
  refine ⟨h.fits.canUndo_eq hOpened, h.fits.canRedo_eq, ?_, ?_, ?_⟩
  · intro change older now hDone
    exact (h.press_undo hIdle.outcomeOf_undo now).2 change.before (by rw [hDone]; rfl)
  · intro change later now hUndone
    exact (h.press_redo hIdle.outcomeOf_redo now).2 change.after (by rw [hUndone]; rfl)
  · intro back on hLength hDepth
    rw [h.fits.undoDepth_eq] at hDepth
    exact (h.pressAll_backAndOn hIdle hLength hDepth).2.2

end Watched

end ModalEditor
