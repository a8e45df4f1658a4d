import ModalEditor.Proofs.Modal.Insertion
import ModalEditor.Proofs.Session.Alike
import ModalEditor.Proofs.Session.NextMatch
import ModalEditor.Proofs.Session.Settings

namespace ModalEditor

/-!
# What an opened file knows of the buffer before

Opening a file replaces the text, the engine and the history, and without a query there is
nothing to search for.  So the keys that follow do what they would do in a session that
was just created, but for one thing: the screen reported for the buffer before is taken to
be on display still, and `H`, `M` and `L` go by it.  Once there are lines enough, `H` and
`L` tell every screen from one that was never reported, unless it is the one assumed then.
-/

/-! ## The lines of the screen -/

namespace Motion

theorem firstNonBlankOf_line (lines : List Text) (line : Nat) :
    (firstNonBlankOf lines line).line = min line (lastLine lines) := by
  simp [firstNonBlankOf, Position.ofLineColumn]

/-- In a text with enough lines the whole screen is filled. -/
theorem screenLines_of_le {lines : List Text} {screen : Option Geometry} {geometry : Geometry}
    (hGeometry : screen.getD ⟨0, defaultScreenLines⟩ = geometry)
    (h : geometry.topLine + max geometry.visibleLines 1 ≤ lastLine lines) :
    screenLines lines screen =
      (geometry.topLine, geometry.topLine + (max geometry.visibleLines 1 - 1)) := by
  simp only [screenLines, hGeometry]
  rw [Nat.min_eq_left (by omega), Nat.min_eq_left (by omega)]

end Motion

/-- Line breaks before a text make as many lines before its own. -/
theorem le_lastLine_breaks (n : Nat) (text : Text) :
    n ≤ lastLine (splitLines (List.replicate n lineFeed ++ text)) := by
  have hLength : (splitLines (List.replicate n lineFeed ++ text)).length =
      n + (splitLines text).length := by
    induction n with
    | zero => simp
    | succ n ih =>
        have hSplit : splitLines (lineFeed :: (List.replicate n lineFeed ++ text)) =
            [] :: splitLines (List.replicate n lineFeed ++ text) := by
          simp [splitLines]
        rw [List.replicate_succ, List.cons_append, hSplit, List.length_cons, ih]
        omega
  have hSome := List.length_pos_iff.mpr (splitLines_ne_nil text)
  rw [lastLine, hLength]
  omega

namespace Workspace

variable {work : Workspace} {surroundings : Surroundings}

/-- With nothing pending, a motion to a line goes to its first character that is not
blank. -/
theorem press_of_line_motion (h : work.engine.state = ModeState.idle)
    (hText : work.buffer.text ≠ []) (surroundings : Surroundings) {c : Char} {motion : Motion}
    (line : Nat) (hMotion : Motion.ofKey? c = some motion) (hDigit : digitValue? c = none)
    (hTarget : motion.target? work.buffer.lines work.buffer.cursor PendingCommand.none.total
        ⟨false, none, surroundings⟩ = some (Motion.firstNonBlankOf work.buffer.lines line))
    (hVertical : motion.isVertical = false) :
    ∃ next, work.press surroundings (.char c) = (next, .moved) ∧
      next.buffer = work.buffer.moveTo (Motion.firstNonBlankOf work.buffer.lines line) := by
  have hLines : Motion.isEmptyText work.buffer.lines = false :=
    Motion.isEmptyText_splitLines hText
  have hMove : ((work.enter ModeState.idle).move surroundings motion
      PendingCommand.none.total).buffer =
        work.buffer.moveTo (Motion.firstNonBlankOf work.buffer.lines line) := by
    simp only [move, hVertical, Bool.false_eq_true, if_false, Motion.span]
    have hEnter : (work.enter ModeState.idle).buffer = work.buffer := rfl
    rw [hEnter, hLines]
    simp only [Bool.false_eq_true, if_false, hTarget]
    rfl
  have hStands : ((work.enter ModeState.idle).move surroundings motion
      PendingCommand.none.total).buffer.OnCharacter := by
    rw [hMove]
    exact onCharacter_firstNonBlankOf work.buffer line
  rw [press_of_free_motion h rfl rfl hMotion
    (PendingCommand.withDigit?_of_digitValue?_eq_none hDigit)]
  exact ⟨_, congrArg (·, KeyOutcome.moved) (clampCursor_of_onCharacter hStands), hMove⟩

/-- The keys for the ends of the screen go to its first and its last line. -/
theorem press_screen_ends (h : work.engine.state = ModeState.idle)
    (hText : work.buffer.text ≠ []) {top bottom : Nat}
    (hScreen : Motion.screenLines work.buffer.lines surroundings.screen = (top, bottom)) :
    (∃ next, work.press surroundings (.char 'H') = (next, .moved) ∧
        next.buffer.cursor.line = top) ∧
      ∃ next, work.press surroundings (.char 'L') = (next, .moved) ∧
        next.buffer.cursor.line = bottom := by
  have hOrder : top ≤ bottom ∧ bottom ≤ lastLine work.buffer.lines := by
    simp only [Motion.screenLines, Prod.mk.injEq] at hScreen
    omega
  have hTargets : Motion.screenTop.target? work.buffer.lines work.buffer.cursor
        PendingCommand.none.total ⟨false, none, surroundings⟩ =
          some (Motion.firstNonBlankOf work.buffer.lines top) ∧
      Motion.screenBottom.target? work.buffer.lines work.buffer.cursor
        PendingCommand.none.total ⟨false, none, surroundings⟩ =
          some (Motion.firstNonBlankOf work.buffer.lines bottom) := by
    have hCount : PendingCommand.none.total.typed = false := rfl
    simp [Motion.target?, hScreen, hCount, hOrder.1]
  obtain ⟨first, hFirst, hTop⟩ := press_of_line_motion h hText surroundings (c := 'H') top rfl rfl
    hTargets.1 rfl
  obtain ⟨last, hLast, hBottom⟩ := press_of_line_motion h hText surroundings (c := 'L') bottom
    rfl rfl hTargets.2 rfl
  have hTopLine := Motion.firstNonBlankOf_line work.buffer.lines top
  have hBottomLine := Motion.firstNonBlankOf_line work.buffer.lines bottom
  rw [Nat.min_eq_left (Nat.le_trans hOrder.1 hOrder.2)] at hTopLine
  rw [Nat.min_eq_left hOrder.2] at hBottomLine
  refine ⟨⟨first, hFirst, ?_⟩, last, hLast, ?_⟩
  · rw [hTop]
    exact hTopLine
  · rw [hBottom]
    exact hBottomLine

end Workspace

namespace Session

variable {parser : Parser} {session other : Session} {settings : Settings}

/-! ## Telling screens apart -/

/-- Whether keys cannot tell a screen from one that was never reported. -/
def IsDefaultScreen (screen : Option Geometry) : Prop :=
  ∀ geometry ∈ screen, geometry = ⟨0, Motion.defaultScreenLines⟩

/-- Enter typed in an insert session puts in line breaks. -/
theorem pressEach_enter {work : Workspace} {recording : Option Recording} {typed : Text}
    (hCoherent : work.buffer.Coherent) (h : session.work = work.inserting recording typed)
    (n : Nat) :
    (session.pressEach (List.replicate n (.enter, 0))).work =
        work.inserting recording (typed ++ List.replicate n lineFeed) ∧
      (session.pressEach (List.replicate n (.enter, 0))).viewport = session.viewport := by
  induction n generalizing session typed with
  | zero =>
      refine ⟨?_, rfl⟩
      show session.work = work.inserting recording (typed ++ [])
      rw [h, List.append_nil]
  | succ n ih =>
      have hPress : session.work.press session.surroundings .enter =
          (work.inserting recording (typed ++ [lineFeed]), .edited) := by
        rw [h, Workspace.press_enter_inserting, Workspace.press_char_inserting _ _ _ hCoherent]
      obtain ⟨hWork, hViewport⟩ := press_work_of_isLocal hPress rfl 0
      obtain ⟨hRest, hRestViewport⟩ := ih hWork
      rw [List.append_assoc, List.singleton_append, ← List.replicate_succ] at hRest
      exact ⟨hRest, hRestViewport.trans hViewport⟩

/-- The keys that put line breaks before the cursor. -/
def breakKeys (n : Nat) : List (Key × Nat) :=
  (.char 'i', 0) :: (List.replicate n (.enter, 0) ++ [(.escape, 0)])

/-- Line breaks typed at the start of the text stand before it. -/
theorem pressEach_breakKeys (h : session.work.engine.state = ModeState.idle)
    (hCursor : session.cursor = Position.origin) (n : Nat) :
    (session.pressEach (breakKeys n)).work.engine.state = ModeState.idle ∧
      (session.pressEach (breakKeys n)).text = List.replicate n lineFeed ++ session.text ∧
      (session.pressEach (breakKeys n)).viewport = session.viewport := by
  have hCoherent : (session.work.setGoal none).buffer.Coherent := by
    show session.work.buffer.cursor.IsIn session.text
    rw [show session.work.buffer.cursor = Position.origin from hCursor]
    exact Position.isIn_origin session.text
  have hStart : session.work.press session.surroundings (.char 'i') =
      ((session.work.setGoal none).inserting (some (.insert .beforeCursor)) [],
        .modeChanged .insert) := by
    rw [Workspace.press, h]
    rfl
  obtain ⟨hInserting, hViewport⟩ := press_work_of_isLocal hStart rfl 0
  obtain ⟨hTyped, hTypedViewport⟩ := pressEach_enter hCoherent hInserting n
  rw [List.nil_append] at hTyped
  generalize hBroken : (session.press (.char 'i') 0).1.pressEach
    (List.replicate n (.enter, 0)) = broken at hTyped hTypedViewport
  have hEscape : broken.work.press broken.surroundings .escape =
      (((session.work.setGoal none).insertText (List.replicate n lineFeed)).finishInsert
        (some (.insert .beforeCursor)) (List.replicate n lineFeed), .modeChanged .normal) := by
    rw [hTyped]
    rfl
  obtain ⟨hWork, hLastViewport⟩ := press_work_of_isLocal hEscape rfl 0
  have hAll : session.pressEach (breakKeys n) = (broken.press .escape 0).1 := by
    rw [breakKeys, pressEach, List.foldl_cons, List.foldl_append, ← hBroken]
    rfl
  have hInserted := (Workspace.between_of_coherent hCoherent).insertText
    (List.replicate n lineFeed)
  have hOffset : (session.work.setGoal none).buffer.cursor.offset = 0 :=
    congrArg Position.offset hCursor
  rw [hOffset, List.take_zero, List.nil_append, List.drop_zero] at hInserted
  obtain ⟨hKept, hIdle⟩ := ((session.work.setGoal none).insertText
    (List.replicate n lineFeed)).finishInsert_text_and_state (some (.insert .beforeCursor))
      (List.replicate n lineFeed)
  rw [hAll, text, hWork, hKept, hIdle, hInserted, hLastViewport, hTypedViewport, hViewport]
  exact ⟨rfl, rfl, rfl⟩

/-- After enough line breaks the keys for the ends of the screen tell what it is. -/
theorem cursor_line_after_breaks (h : session.work.engine.state = ModeState.idle)
    (hCursor : session.cursor = Position.origin) {n : Nat} {geometry : Geometry}
    (hGeometry : session.viewport.geometry.getD ⟨0, Motion.defaultScreenLines⟩ = geometry)
    (hRoom : geometry.topLine + max geometry.visibleLines 1 ≤ n) :
    (session.pressEach (breakKeys n ++ [(.char 'H', 0)])).cursor.line = geometry.topLine ∧
      (session.pressEach (breakKeys n ++ [(.char 'L', 0)])).cursor.line =
        geometry.topLine + (max geometry.visibleLines 1 - 1) := by
  obtain ⟨hState, hText, hViewport⟩ := session.pressEach_breakKeys h hCursor n
  rw [pressEach_concat, pressEach_concat]
  generalize session.pressEach (breakKeys n) = broken at hState hText hViewport
  have hSome : broken.work.buffer.text ≠ [] := by
    intro hNone
    have hLength := congrArg List.length (hText.symm.trans hNone)
    rw [List.length_append, List.length_replicate, List.length_nil] at hLength
    omega
  have hLines : n ≤ lastLine broken.work.buffer.lines := by
    rw [Buffer.lines, show broken.work.buffer.text = _ from hText]
    exact le_lastLine_breaks n session.text
  have hScreen := Motion.screenLines_of_le
    (show broken.surroundings.screen.getD ⟨0, Motion.defaultScreenLines⟩ = geometry by
      rw [surroundings, hViewport, hGeometry]) (Nat.le_trans hRoom hLines)
  obtain ⟨⟨first, hFirst, hTop⟩, last, hLast, hBottom⟩ :=
    Workspace.press_screen_ends hState hSome hScreen
  rw [cursor, cursor, (press_work_of_isLocal hFirst rfl 0).1, (press_work_of_isLocal hLast rfl 0).1]
  exact ⟨hTop, hBottom⟩

/-- Keys tell a screen from one that was never reported. -/
theorem isDefaultScreen_of_sight (h : session.work.engine.state = ModeState.idle)
    (hOther : other.work.engine.state = ModeState.idle)
    (hCursor : session.cursor = Position.origin) (hOtherCursor : other.cursor = Position.origin)
    (hNone : other.viewport.geometry = none)
    (hSame : ∀ keys, (session.pressEach keys).sight = (other.pressEach keys).sight) :
    IsDefaultScreen session.viewport.geometry := by
  intro geometry hGeometry
  have hSession : session.viewport.geometry.getD ⟨0, Motion.defaultScreenLines⟩ = geometry := by
    rw [Option.mem_def.mp hGeometry, Option.getD_some]
  have hDefault : other.viewport.geometry.getD ⟨0, Motion.defaultScreenLines⟩ =
      ⟨0, Motion.defaultScreenLines⟩ := by
    rw [hNone, Option.getD_none]
  -- There are lines enough for either screen.
  obtain ⟨hTop, hBottom⟩ := cursor_line_after_breaks h hCursor hSession
    (Nat.le_add_right _ Motion.defaultScreenLines)
  obtain ⟨hOtherTop, hOtherBottom⟩ := cursor_line_after_breaks hOther hOtherCursor hDefault
    (Nat.le_trans (by decide) (Nat.le_add_left Motion.defaultScreenLines
      (geometry.topLine + max geometry.visibleLines 1)))
  have hSameLine (keys : List (Key × Nat)) :
      (session.pressEach keys).cursor.line = (other.pressEach keys).cursor.line :=
    congrArg (fun sight => sight.cursor.line) (hSame keys)
  rw [hSameLine, hOtherTop] at hTop
  rw [hSameLine, hOtherBottom] at hBottom
  obtain ⟨topLine, visibleLines⟩ := geometry
  simp only [Motion.defaultScreenLines] at hTop hBottom ⊢
  obtain rfl : topLine = 0 := hTop.symm
  congr 1
  omega

/-! ## Opening -/

/-- A file that was just opened is at its start with nothing pending, and on the screen of
the buffer before. -/
theorem start_of_openFile {path : Path} {opened : Session}
    (h : session.openFile parser path = .ok opened) :
    opened.work.engine.state = ModeState.idle ∧ opened.cursor = Position.origin ∧
      opened.viewport.geometry = session.viewport.geometry := by
  obtain ⟨text, -, rfl⟩ := openFile_eq_ok h
  exact ⟨rfl, rfl, rfl⟩

/-- Without a query, a file is opened as in a session just created by the same settings, but
for the screen. -/
theorem GoesBy.alike_openFile (h : session.GoesBy settings)
    (hActive : session.search.isActive = false) {path : Path} {opened : Session}
    (hOpened : session.openFile parser path = .ok opened) :
    ∃ fresh, (ofSettings settings session.files).openFile parser path = .ok fresh ∧
      opened.Alike { fresh with viewport := session.viewport } := by
  obtain ⟨text, hRead, rfl⟩ := openFile_eq_ok hOpened
  have hFresh : (ofSettings settings session.files).files.readText path = .ok text := hRead
  refine ⟨_, openFile_of_readText hFresh parser, ⟨rfl, ?_⟩, ?_, ?_, fun _ => rfl⟩
  · show ({ Buffer.ofText text with tabSize := settings.tabSize } : Buffer) =
      { Buffer.ofText text with tabSize := session.settings.tabSize }
    rw [h.isConfigured]
  · show (History.ofCapacity settings.historyCapacity).clear = session.history.clear
    rw [History.clear_eq_ofCapacity h.capacity]
    exact History.clear_eq_ofCapacity rfl
  · show (Search.ofOptions settings.searchCaseSensitive settings.searchUsesPattern).refresh text =
      session.search.refresh text
    rw [h.search.eq_ofOptions hActive]

/-- A default screen does as well as none. -/
theorem IsDefaultScreen.screenLines_eq {screen : Option Geometry} (h : IsDefaultScreen screen)
    (lines : List Text) : Motion.screenLines lines screen = Motion.screenLines lines none := by
  cases screen with
  | none => rfl
  | some geometry =>
      rw [h geometry rfl]
      rfl

/-- Where no search is active and a file can be opened, a session just created by the same
settings can open it as well, and keys are seen to do the same in both once the screen of
the old buffer is reported to the new session.  They do the same without that report, at
whatever instants they come, exactly if none was reported for the old buffer either or the
one that was is the one assumed by default. -/
theorem opened_file_is_isolated_iff_default_screen (parser : Parser) (settings : Settings)
    (files : Files) (content : Option Text) (actions : List HostAction) (path : Path)
    (opened : Session) :
    let session := (created parser settings files content).actAll parser actions
    session.search.isActive = false → session.openFile parser path = .ok opened →
      ∃ fresh, (ofSettings settings session.files).openFile parser path = .ok fresh ∧
        (∀ keys later, SameKeys keys later → (opened.pressEach keys).sight =
          (({ fresh with viewport := session.viewport } : Session).pressEach later).sight) ∧
        ((∀ keys later, SameKeys keys later →
            (opened.pressEach keys).sight = (fresh.pressEach later).sight) ↔
          IsDefaultScreen session.viewport.geometry) := by
  intro session hActive hOpened
  have hGoes : session.GoesBy settings :=
    (goesBy_created parser settings files content).actAll parser actions
  obtain ⟨fresh, hFresh, hAlike⟩ := hGoes.alike_openFile hActive hOpened
  obtain ⟨hState, hCursor, hScreen⟩ := start_of_openFile hOpened
  obtain ⟨hFreshState, hFreshCursor, hFreshScreen⟩ := start_of_openFile hFresh
  refine ⟨fresh, hFresh, fun keys later hKeys => (hAlike.pressEach hKeys).sight_eq, ?_, ?_⟩
  · intro hSame
    rw [← hScreen]
    exact isDefaultScreen_of_sight hState hFreshState hCursor hFreshCursor hFreshScreen
      fun keys => hSame keys keys rfl
  · intro hDefault keys later hKeys
    have hLines (lines : List Text) : Motion.screenLines lines opened.viewport.geometry =
        Motion.screenLines lines fresh.viewport.geometry := by
      rw [hScreen, hFreshScreen]
      exact hDefault.screenLines_eq lines
    have hFreshAlike : opened.Alike fresh :=
      ⟨hAlike.work, hAlike.history, hAlike.search, hLines⟩
    exact (hFreshAlike.pressEach hKeys).sight_eq

/-- Files with two lines in the file `f`. -/
def twoLineFiles : Files := ⟨[⟨[], ['f'], encodeText ['a', '\n', 'b']⟩], [[]]⟩

theorem twoLineFiles_readText : twoLineFiles.readText ['f'] = .ok ['a', '\n', 'b'] :=
  Files.readText_eq_ok_iff.mpr rfl

/-- Where nothing was scrolled, a file opened after some text was typed is as good as one
opened first. -/
theorem typed_text_leaves_opened_file_alone :
    let session := (created Parser.rootOnly Settings.default twoLineFiles none).actAll
      Parser.rootOnly [.press (.char 'i') 0, .press (.char 'z') 0, .press .escape 0]
    session.text = ['z'] ∧ session.search.isActive = false ∧ ∃ opened fresh,
      session.openFile Parser.rootOnly ['f'] = .ok opened ∧
      (ofSettings Settings.default session.files).openFile Parser.rootOnly ['f'] = .ok fresh ∧
      ∀ keys later, SameKeys keys later →
        (opened.pressEach keys).sight = (fresh.pressEach later).sight := by
  intro session
  have hRead : session.files.readText ['f'] = .ok ['a', '\n', 'b'] := twoLineFiles_readText
  have hOpened := openFile_of_readText hRead Parser.rootOnly
  obtain ⟨fresh, hFresh, -, hIsolated⟩ := opened_file_is_isolated_iff_default_screen
    Parser.rootOnly Settings.default twoLineFiles none
      [.press (.char 'i') 0, .press (.char 'z') 0, .press .escape 0] ['f'] _ rfl hOpened
  have hNone : session.viewport.geometry = none := rfl
  exact ⟨rfl, rfl, _, fresh, hOpened, hFresh, hIsolated.mpr fun geometry hGeometry => by
    cases hNone.symm.trans hGeometry⟩

/-- A session that showed the second of two lines, and opened a file with two lines, goes to
the second one by `H`.  A session that was just created and opened it goes to the first. -/
theorem old_screen_moves_H :
    let session := (created Parser.rootOnly Settings.default twoLineFiles
      (some ['x', '\n', 'y'])).actAll Parser.rootOnly [.scroll 1.0 1.0 1.0]
    session.search.isActive = false ∧ ∃ opened fresh,
      session.openFile Parser.rootOnly ['f'] = .ok opened ∧
      (ofSettings Settings.default session.files).openFile Parser.rootOnly ['f'] = .ok fresh ∧
      opened.text = ['a', '\n', 'b'] ∧
      (opened.pressEach [(.char 'H', 0)]).cursor = ⟨1, 0, 2⟩ ∧
      (fresh.pressEach [(.char 'H', 0)]).cursor = ⟨0, 0, 0⟩ := by
  intro session
  exact ⟨rfl, _, _, openFile_of_readText twoLineFiles_readText _,
    openFile_of_readText twoLineFiles_readText _, rfl, rfl, rfl⟩

end Session

end ModalEditor
