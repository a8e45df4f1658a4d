import ModalEditor.Proofs.Modal.Typing
import ModalEditor.Proofs.Modal.Uneventful
import ModalEditor.Proofs.Session.Action
import ModalEditor.Proofs.Session.Basic

namespace ModalEditor

/-!
# Typing commands in a session

Until a command is complete its keys only wait for more.  They change no text, so the
session has nothing to record, the matches and the viewport stay, and the engine is told the
same with every key.  So in a session, too, a command does what the engine makes of its keys
in the surroundings of the first one, whenever each key is typed.
-/

namespace Workspace

variable {work : Workspace} {surroundings : Surroundings} {keys : List Key}

/-- A key that waits for more keeps the text. -/
theorem text_of_press_pending {key : Key}
    (h : (work.press surroundings key).2 = .pending) :
    (work.press surroundings key).1.buffer.text = work.buffer.text := by
  have hKeeps {result : Workspace × KeyOutcome} (hStill : work.KeepsStill result)
      (hOutcome : result.2 = .pending) : result.1.buffer.text = work.buffer.text := by
    have hUntouched := hStill.untouched (by rw [hOutcome]; rfl)
    rw [hUntouched.buffer]
  have hSettle {result : Workspace × KeyOutcome} (hStill : work.KeepsStill result)
      (hOutcome : (settle result).2 = .pending) :
      (settle result).1.buffer.text = work.buffer.text := by
    rw [settle_text]
    exact hKeeps hStill (by rwa [settle_outcome] at hOutcome)
  rw [press] at h ⊢
  cases hState : work.engine.state with
  | normal input =>
      rw [hState] at h
      exact hSettle (work.keepsStill_pressNormal surroundings input key) h
  | visual anchor count afterG =>
      rw [hState] at h
      exact hSettle (work.keepsStill_pressVisual surroundings anchor count afterG key) h
  | insert recording typed =>
      rw [hState] at h
      exact hKeeps (keepsStill_pressInsert hState key) h
  | prompt kind typed =>
      rw [hState] at h
      exact hKeeps (keepsStill_pressPrompt hState key) h

/-- Whether each of some keys, typed one after the other, waits for more. -/
inductive Waits (work : Workspace) (surroundings : Surroundings) : List Key → Prop
  | nil : Waits work surroundings []
  | concat {keys : List Key} {key : Key} (earlier : Waits work surroundings keys)
      (waits : (work.typeKeys surroundings (keys ++ [key])).2 = .pending) :
      Waits work surroundings (keys ++ [key])

/-- The digits of a count wait for more wherever a count can go on. -/
theorem Waits.append_numeral (h : work.Waits surroundings keys) {pending : PendingCommand}
    (hState : (work.typeKeys surroundings keys).1.engine.state = .normal (.command pending))
    (hG : pending.afterG = false) (hCount : pending.openCount = none) (n : CountNumeral) :
    work.Waits surroundings (keys ++ n.keys) := by
  -- With the digits up to any of them the count typed so far is pending.
  have hOutcome (n : CountNumeral) : (work.typeKeys surroundings (keys ++ n.keys)).2 = .pending := by
    rw [typeKeys_append _ _ _ n.keys_ne_nil, typeKeys_numeral hState hG hCount]
  obtain ⟨value, hPos⟩ := n
  induction value using Nat.strongRecOn with
  | _ value ih =>
      have hLast := hOutcome ⟨value, hPos⟩
      by_cases hSmall : value < 10
      · have hKeys : CountNumeral.keys ⟨value, hPos⟩ = [.char value.digitChar] := by
          rw [CountNumeral.keys, Nat.toDigits_of_lt_base hSmall]
          rfl
        rw [hKeys] at hLast ⊢
        exact h.concat hLast
      · have hTenth : 0 < value / 10 := by omega
        have hKeys : CountNumeral.keys ⟨value, hPos⟩ =
            CountNumeral.keys ⟨value / 10, hTenth⟩ ++ [.char (value % 10).digitChar] := by
          rw [CountNumeral.keys, Nat.toDigits_of_base_le (by decide) (Nat.le_of_not_lt hSmall),
            List.map_append]
          rfl
        rw [hKeys, ← List.append_assoc] at hLast ⊢
        exact (ih (value / 10) (by omega) hTenth).concat hLast

/-- With a count or none, keys wait for more wherever a count can go on. -/
theorem Waits.append_count (h : work.Waits surroundings keys) {pending : PendingCommand}
    (hState : (work.typeKeys surroundings keys).1.engine.state = .normal (.command pending))
    (hG : pending.afterG = false) (hCount : pending.openCount = none)
    (count : Option CountNumeral) : work.Waits surroundings (keys ++ countKeys count) := by
  cases count with
  | none => exact (List.append_nil keys).symm ▸ h
  | some n => exact h.append_numeral hState hG hCount n

end Workspace

namespace Session

variable {session : Session}

/-- A key that keeps the text and asks for nothing more than the engine does is done when
the engine is. -/
theorem press_of_isLocal {key : Key} {work : Workspace} {outcome : KeyOutcome}
    (hPress : session.work.press session.surroundings key = (work, outcome))
    (hLocal : outcome.isLocal = true) (hText : work.buffer.text = session.text) (now : Nat) :
    (session.press key now).1.work = work ∧ (session.press key now).1.search = session.search ∧
      (session.press key now).1.viewport = session.viewport := by
  obtain ⟨hWork, hViewport⟩ := press_work_of_isLocal hPress hLocal now
  have hOutcome : (session.outcomeOf key).isLocal = true := by
    rw [outcomeOf, hPress]
    exact hLocal
  have hSame : Splice.between session.work.buffer.text (session.engage key now).text = none := by
    rw [Splice.between_eq_none_iff, text, engage, hPress]
    exact hText.symm
  refine ⟨hWork, ?_, hViewport⟩
  rw [press_eq_of_isLocal hOutcome, recordChange, hSame]
  rfl

/-- The last of some keys is pressed after the others. -/
theorem exists_last_key {keys : List (Key × Nat)} {earlier : List Key} {key : Key}
    (h : keys.map Prod.fst = earlier ++ [key]) :
    ∃ typed now, keys = typed ++ [(key, now)] ∧ typed.map Prod.fst = earlier := by
  obtain ⟨typed, last, rfl, hTyped, hLast⟩ := List.map_eq_append_iff.mp h
  obtain ⟨⟨key', now⟩, rest, rfl, rfl, hRest⟩ := List.map_eq_cons_iff.mp hLast
  obtain rfl := List.map_eq_nil_iff.mp hRest
  exact ⟨typed, now, rfl, hTyped⟩

/-- Keys that wait for more are done when the engine is. -/
theorem pressEach_of_waits {keys : List Key}
    (h : session.work.Waits session.surroundings keys) {typed : List (Key × Nat)}
    (hTyped : typed.map Prod.fst = keys) :
    (session.pressEach typed).work = (session.work.typeKeys session.surroundings keys).1 ∧
      (session.pressEach typed).search = session.search ∧
      (session.pressEach typed).viewport = session.viewport := by
  induction h generalizing typed with
  | nil =>
      obtain rfl := List.map_eq_nil_iff.mp hTyped
      exact ⟨rfl, rfl, rfl⟩
  | concat earlier hWaits ih =>
      rename_i keys key
      obtain ⟨before, now, rfl, hBefore⟩ := exists_last_key hTyped
      obtain ⟨hWork, hSearch, hViewport⟩ := ih hBefore
      rw [Workspace.typeKeys_concat] at hWaits ⊢
      rw [pressEach_concat]
      -- The engine is told what it was told before the first key.
      have hTold : (session.pressEach before).surroundings = session.surroundings := by
        rw [surroundings, surroundings, hSearch, hViewport]
      rw [← hWork, ← hTold] at hWaits ⊢
      have hLocal : ((session.pressEach before).work.press
          (session.pressEach before).surroundings key).2.isLocal = true := by
        rw [hWaits]
        rfl
      obtain ⟨hNext, hSearch', hViewport'⟩ := press_of_isLocal rfl hLocal
        (Workspace.text_of_press_pending hWaits) now
      exact ⟨hNext, hSearch'.trans hSearch, hViewport'.trans hViewport⟩

/-- A command that asks for nothing more than the engine does leaves the workspace that the
engine makes of its keys. -/
theorem pressEach_work_of_isLocal {keys : List Key} {key : Key}
    (h : session.work.Waits session.surroundings keys)
    (hLocal : (session.work.typeKeys session.surroundings (keys ++ [key])).2.isLocal = true)
    {typed : List (Key × Nat)} (hTyped : typed.map Prod.fst = keys ++ [key]) :
    (session.pressEach typed).work =
      (session.work.typeKeys session.surroundings (keys ++ [key])).1 := by
  obtain ⟨before, now, rfl, hBefore⟩ := exists_last_key hTyped
  obtain ⟨hWork, hSearch, hViewport⟩ := pressEach_of_waits h hBefore
  have hTold : (session.pressEach before).surroundings = session.surroundings := by
    rw [surroundings, surroundings, hSearch, hViewport]
  rw [Workspace.typeKeys_concat, ← hWork, ← hTold] at hLocal ⊢
  rw [pressEach_concat]
  exact (press_work_of_isLocal rfl hLocal now).1

end Session

end ModalEditor
