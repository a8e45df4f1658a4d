import ModalEditor.Proofs.Session.Action
import ModalEditor.Proofs.Session.Basic

namespace ModalEditor

/-!
# Whether cursor and anchor are places of the text

Keys leave the cursor and the anchor of a selection at places of the text, and
every call of the host leaves the cursor there.  Undoing and redoing without a key
replace the text under a selection and leave its anchor as it was, which need not
be a place of the restored text.  A key that ends the selection then puts the cursor
on that anchor.
-/

namespace Session

variable {session : Session}

/-- Where the selection was started. -/
def anchor (session : Session) : Option Position := session.work.engine.state.anchor

/-- Whether the positions that a session holds are places of its text, on lines that
exist. -/
structure PositionsFit (session : Session) : Prop where
  cursor : session.cursor = Position.ofOffset session.text session.cursor.offset
  cursor_line : session.cursor.line < session.lineCount
  anchor : session.mode = .visual → ∃ anchor, session.anchor = some anchor ∧
    anchor = Position.ofOffset session.text anchor.offset ∧ anchor.line < session.lineCount

theorem mode_eq_visual_iff : session.mode = .visual ↔ ∃ anchor, session.anchor = some anchor := by
  unfold anchor mode Engine.mode
  cases session.work.engine.state <;> simp [ModeState.anchor, ModeState.mode]

/-- Whether the cursor and the anchor, if there is one, are places of the text. -/
def Coherent (session : Session) : Prop := session.work.Coherent

-- Every place of a text is on one of its lines.
theorem positionsFit_iff : session.PositionsFit ↔ session.Coherent := by
  constructor
  · intro h
    refine ⟨h.cursor, ?_⟩
    intro anchor hAnchor
    have hSome : session.anchor = some anchor := hAnchor
    obtain ⟨other, hOther, hFits, -⟩ := h.anchor (mode_eq_visual_iff.mpr ⟨anchor, hSome⟩)
    obtain rfl := Option.some.inj (hSome.symm.trans hOther)
    exact hFits
  · intro h
    refine ⟨h.cursor, h.cursor.bounds.1, ?_⟩
    intro hVisual
    obtain ⟨anchor, hAnchor⟩ := mode_eq_visual_iff.mp hVisual
    have hFits : anchor.IsIn session.text := h.anchor anchor hAnchor
    exact ⟨anchor, hAnchor, hFits, (Position.isIn_iff.mp hFits).1⟩

/-! ## Steps in the history -/

/-- Whatever a step in the history restores, the cursor is put into it. -/
theorem coherent_buffer_travel (h : session.work.buffer.Coherent)
    (step : History × Option Restoration) : (session.travel step).1.work.buffer.Coherent := by
  simp only [travel, restore]
  split
  · exact h
  · split
    · exact h
    next text _ =>
      show (Position.ofOffset text _).IsIn (session.work.buffer.replaceText text).text
      rw [Buffer.replaceText_text]
      exact Position.isIn_ofOffset text _

/-- Whether the anchor of a selection, if there is one, is a place of the text that
another session holds. -/
def AnchorFits (before after : Session) : Prop :=
  ∀ anchor, before.anchor = some anchor → anchor.IsIn after.text

/-- The anchor stays where it was, so it fits exactly if it is a place of the text that
was restored. -/
theorem coherent_travel_iff (h : session.Coherent) (step : History × Option Restoration) :
    (session.travel step).1.Coherent ↔ session.AnchorFits (session.travel step).1 := by
  constructor
  · intro hAfter anchor hAnchor
    exact hAfter.anchor anchor (by rw [travel_engine]; exact hAnchor)
  · intro hFits
    refine ⟨coherent_buffer_travel h.cursor step, ?_⟩
    rw [travel_engine]
    exact hFits

/-- Outside Visual mode there is no anchor to fit. -/
theorem anchorFits_of_mode_ne_visual (h : session.mode ≠ .visual) (after : Session) :
    session.AnchorFits after := by
  intro anchor hAnchor
  exact absurd (mode_eq_visual_iff.mpr ⟨anchor, hAnchor⟩) h

/-! ## Keys -/

theorem coherent_travelByKey (h : session.Coherent) (hMode : session.mode ≠ .visual)
    (step : History → History × Option Restoration) (now : Nat) :
    (session.travelByKey (travelBy step) now).Coherent := by
  have hCommitted : ({ session with history := session.history.commit } : Session).Coherent :=
    h
  have hTravel := (coherent_travel_iff hCommitted (step session.history.commit)).mpr
    (anchorFits_of_mode_ne_visual hMode _)
  simp only [travelByKey]
  split
  · exact hTravel
  · exact hTravel

/-- A key keeps positions in the text. -/
theorem coherent_press (h : session.Coherent) (key : Key) (now : Nat) :
    (session.press key now).1.Coherent := by
  have hEngaged : (session.engage key now).Coherent := h.press session.surroundings key
  rcases session.press_cases key now with ⟨-, hMode, -, step, hPress⟩ | hPress
  · rw [hPress]
    have hNormal : (session.engage key now).mode ≠ .visual := by
      rw [hMode]
      decide
    exact coherent_travelByKey hEngaged hNormal step now
  · rw [hPress]
    show Workspace.Coherent (recordChange _ _ now).work
    rw [recordChange_work]
    exact (keepsText_carryOut _ _).coherent hEngaged

theorem coherent_pressAll (h : session.Coherent) (now : Nat) (keys : List Key) :
    (session.pressAll now keys).1.Coherent :=
  pressAll_induction (motive := Coherent)
    (fun _ key hBefore => coherent_press hBefore key now) h keys

/-! ## Calls of the host -/

/-- A text that was just loaded has its cursor at the start and no selection. -/
theorem coherent_load (parser : Parser) (session : Session) (text : Text) :
    (session.load parser text).Coherent :=
  ⟨Position.isIn_origin text, fun _ hAnchor => by cases hAnchor⟩

theorem coherent_created (parser : Parser) (settings : Settings) (files : Files)
    (content : Option Text) : (created parser settings files content).Coherent := by
  cases content with
  | none => exact ⟨Position.isIn_origin [], fun _ hAnchor => by cases hAnchor⟩
  | some text => exact coherent_load parser _ text

/-- An action keeps positions in the text exactly if it leaves the anchor at a place of
the text, as all but two always do. -/
theorem coherent_act_iff (h : session.Coherent) (parser : Parser) (action : HostAction) :
    (session.act parser action).Coherent ↔
      session.TravelsWithin AnchorFits parser action := by
  have hAlways {after : Session} (hAfter : after.Coherent) : after.Coherent ↔ True :=
    iff_true_intro hAfter
  cases action with
  | press key now => exact hAlways (coherent_press h key now)
  | feed script now => exact hAlways (coherent_pressAll h now _)
  | undo => exact coherent_travel_iff h _
  | redo => exact coherent_travel_iff h _
  | openFile path =>
      refine hAlways (orElse_induction h fun opened hOpened => ?_)
      obtain ⟨text, -, rfl⟩ := openFile_eq_ok hOpened
      exact coherent_load parser _ text
  | save => exact hAlways (orElse_induction h fun _ hSaved => (keepsText_save hSaved).coherent h)
  | saveAs path =>
      exact hAlways (orElse_induction h fun _ hSaved => (keepsText_saveAs hSaved).coherent h)
  | setLanguage language => exact hAlways h
  | scroll => exact hAlways h
  | tick now => exact hAlways (tick_induction (fun _ _ _ => h) parser now)
  | flush => exact hAlways (flush_induction (fun _ _ _ => h) parser)
  | changeFiles => exact hAlways h

theorem coherent_actAll_iff (h : session.Coherent) (parser : Parser)
    (actions : List HostAction) :
    (∀ n, (session.actAll parser (actions.take n)).Coherent) ↔
      ∀ n action, actions[n]? = some action →
        (session.actAll parser (actions.take n)).TravelsWithin AnchorFits parser action :=
  forall_foldl_take_iff (motive := Coherent)
    (fun hBefore action => coherent_act_iff hBefore parser action) h actions

/-- In every state of a run the cursor is a place of the text, and so is the anchor
while there is a selection, exactly if the host undoes and redoes without a key only
where that leaves the anchor of a selection at a place of the restored text. -/
theorem positions_fit_iff_anchor_fits (parser : Parser) (settings : Settings) (files : Files)
    (content : Option Text) (actions : List HostAction) :
    (∀ n, ((created parser settings files content).actAll parser (actions.take n)).PositionsFit) ↔
      ∀ n action, actions[n]? = some action →
        ((created parser settings files content).actAll parser (actions.take n)).TravelsWithin
          AnchorFits parser action := by
  rw [← coherent_actAll_iff (coherent_created parser settings files content) parser actions]
  exact forall_congr' fun _ => positionsFit_iff

/-- Undoing and redoing without a key does no harm outside Visual mode. -/
theorem positionsFit_of_travels_outside_visual (parser : Parser) (settings : Settings)
    (files : Files) (content : Option Text) (actions : List HostAction)
    (h : ∀ n action, actions[n]? = some action →
      ((created parser settings files content).actAll parser (actions.take n)).TravelsWithin
        (fun before _ => before.mode ≠ .visual) parser action) (n : Nat) :
    ((created parser settings files content).actAll parser (actions.take n)).PositionsFit := by
  have hCreated := coherent_created parser settings files content
  refine positionsFit_iff.mpr ((coherent_actAll_iff hCreated parser actions).mpr ?_ n)
  intro n action hAction
  have hOutside := h n action hAction
  cases action with
  | undo => exact anchorFits_of_mode_ne_visual hOutside _
  | redo => exact anchorFits_of_mode_ne_visual hOutside _
  | _ => trivial

/-- After the first character was replaced by a line break, a selection starts on the
second line.  Undoing that without a key leaves one line and the anchor on the second,
and yanking puts the cursor there. -/
theorem undo_without_key_leaves_anchor :
    let session := (created Parser.rootOnly Settings.default Files.empty
      (some ['a', 'b', 'c'])).actAll Parser.rootOnly
        [.feed ['r', '<', 'C', 'R', '>', 'v'] 0, .undo]
    let yanked := session.act Parser.rootOnly (.feed ['$', 'y'] 0)
    (session.mode = .visual ∧ session.lineCount = 1 ∧ session.anchor = some ⟨1, 0, 1⟩ ∧
        ¬session.PositionsFit) ∧
      yanked.lineCount = 1 ∧ yanked.cursor = ⟨1, 0, 1⟩ ∧ ¬yanked.PositionsFit := by
  refine ⟨⟨rfl, rfl, rfl, ?_⟩, rfl, rfl, ?_⟩
  · intro hFit
    obtain ⟨anchor, hAnchor, -, hLine⟩ := hFit.anchor rfl
    cases hAnchor
    exact absurd hLine (by decide)
  · intro hFit
    exact absurd hFit.cursor_line (by decide)

end Session

end ModalEditor
