import ModalEditor.Proofs.Highlight.Tree
import ModalEditor.Proofs.Session.Action
import ModalEditor.Proofs.Session.Basic

namespace ModalEditor

/-!
# The tree belongs to the text that was parsed last

The tree, the language and the text parsed last change together: in the calls that parse
and in the passing of time.  No key touches any of them, nor does a step in the history.
So in every state of a run the tree is that of the text parsed last, and the kinds that
are reported compare that text with the present one.
-/

namespace Session

variable {parser : Parser} {session : Session}

/-! ## What leaves the tree alone -/

/-- Whether a step leaves the tree and the text that was parsed last. -/
def KeepsTree (session after : Session) : Prop :=
  after.highlighting = session.highlighting ∧ after.parsedSource = session.parsedSource

theorem keepsTree_press (session : Session) (key : Key) (now : Nat) :
    session.KeepsTree (session.press key now).1 := by
  obtain ⟨work, history, search, debounce, cadence, path, isModified, files, hPress⟩ :=
    session.press_eq key now
  rw [hPress]
  exact ⟨rfl, rfl⟩

theorem keepsTree_pressAll (session : Session) (now : Nat) (keys : List Key) :
    session.KeepsTree (session.pressAll now keys).1 :=
  pressAll_induction (motive := session.KeepsTree)
    (fun before key hKeeps =>
      have hPress := before.keepsTree_press key now
      ⟨hPress.1.trans hKeeps.1, hPress.2.trans hKeeps.2⟩) ⟨rfl, rfl⟩ keys

theorem keepsTree_travel (session : Session) (step : History × Option Restoration) :
    session.KeepsTree (session.travel step).1 := by
  obtain ⟨history, buffer, hTravel⟩ := session.travel_eq step
  rw [hTravel]
  exact ⟨rfl, rfl⟩

theorem keepsTree_save {saved : Session} (h : session.save = .ok saved) :
    session.KeepsTree saved := by
  obtain ⟨files, path, rfl⟩ := save_eq h
  exact ⟨rfl, rfl⟩

theorem keepsTree_saveAs {path : Path} {saved : Session} (h : session.saveAs path = .ok saved) :
    session.KeepsTree saved := by
  obtain ⟨files, rfl⟩ := saveAs_eq h
  exact ⟨rfl, rfl⟩

/-! ## Whose tree it is -/

/-- Whether the tree is that of the text parsed last. -/
def OwnsTree (parser : Parser) (session : Session) : Prop :=
  session.highlighting.IsOf parser session.parsedSource

theorem KeepsTree.ownsTree {after : Session} (h : session.KeepsTree after)
    (hOwns : session.OwnsTree parser) : after.OwnsTree parser := by
  rw [OwnsTree, h.1, h.2]
  exact hOwns

theorem ownsTree_parse (parser : Parser) (session : Session) :
    (session.parse parser).OwnsTree parser :=
  Highlighting.isOf_parse parser _ _

theorem ownsTree_created (parser : Parser) (settings : Settings) (files : Files)
    (content : Option Text) : (created parser settings files content).OwnsTree parser := by
  cases content with
  | none => exact Highlighting.isOf_fresh parser []
  | some text => exact ownsTree_parse parser _

theorem ownsTree_openFile {path : Path} {opened : Session}
    (h : session.openFile parser path = .ok opened) : opened.OwnsTree parser := by
  obtain ⟨text, -, rfl⟩ := openFile_eq_ok h
  exact ownsTree_parse parser _

theorem OwnsTree.tick (hFaithful : parser.IsFaithful) (h : session.OwnsTree parser) (now : Nat) :
    (session.tick parser now).1.OwnsTree parser := by
  simp only [Session.tick]
  split
  · exact Highlighting.IsOf.resync hFaithful h _
  · exact h

theorem OwnsTree.flush (hFaithful : parser.IsFaithful) (h : session.OwnsTree parser) :
    (session.flush parser).1.OwnsTree parser := by
  unfold Session.flush
  split
  · exact h
  next deadline _ => exact h.tick hFaithful deadline

/-- Every action leaves the tree to the text parsed last. -/
theorem OwnsTree.act (hFaithful : parser.IsFaithful) (h : session.OwnsTree parser)
    (action : HostAction) : (session.act parser action).OwnsTree parser := by
  cases action with
  | press key now => exact (session.keepsTree_press key now).ownsTree h
  | feed script now => exact (session.keepsTree_pressAll now _).ownsTree h
  | undo => exact (session.keepsTree_travel _).ownsTree h
  | redo => exact (session.keepsTree_travel _).ownsTree h
  | openFile path => exact orElse_induction h fun _ hOpened => ownsTree_openFile hOpened
  | save => exact orElse_induction h fun _ hSaved => (keepsTree_save hSaved).ownsTree h
  | saveAs path => exact orElse_induction h fun _ hSaved => (keepsTree_saveAs hSaved).ownsTree h
  | setLanguage language => exact ownsTree_parse parser _
  | scroll => exact h
  | tick now => exact h.tick hFaithful now
  | flush => exact h.flush hFaithful
  | changeFiles => exact h

theorem OwnsTree.actAll (hFaithful : parser.IsFaithful) (h : session.OwnsTree parser)
    (actions : List HostAction) : (session.actAll parser actions).OwnsTree parser :=
  actAll_induction (fun _ action hBefore => hBefore.act hFaithful action) h actions

/-- A parsed language has a tree, and plain text has none. -/
theorem OwnsTree.isSome_tree_iff (h : session.OwnsTree parser) :
    session.highlighting.tree.isSome = true ↔ session.highlighting.language.isParsed = true := by
  rw [OwnsTree, Highlighting.IsOf, Parser.tree?] at h
  rw [h]
  split
  next hParsed => simp [hParsed]
  next hParsed => simp [hParsed]

theorem OwnsTree.eq_of_mem_tree (h : session.OwnsTree parser) {tree : Node}
    (hTree : tree ∈ session.highlighting.tree) :
    tree = parser.parse session.highlighting.language session.parsedSource := by
  rw [OwnsTree, Highlighting.IsOf, Parser.tree?] at h
  rw [h] at hTree
  split at hTree
  · exact (Option.some.inj hTree).symm
  · cases hTree

/-! ## Which kind is reported -/

theorem tick_kind {now : Nat} {kind : ReparseKind} (h : (session.tick parser now).2 = some kind) :
    kind = (session.highlighting.resync parser session.parsedSource session.text).2 := by
  simp only [tick] at h
  split at h
  · exact (Option.some.inj h).symm
  · cases h

theorem flush_kind {kind : ReparseKind} (h : (session.flush parser).2 = some kind) :
    kind = (session.highlighting.resync parser session.parsedSource session.text).2 := by
  unfold flush at h
  split at h
  · cases h
  · exact tick_kind h

/-- A pending request is flushed, however long it would have to wait. -/
theorem flush_kind_of_isPending (parser : Parser)
    (h : session.debounce.pending.isSome = true) :
    (session.flush parser).2 =
      some (session.highlighting.resync parser session.parsedSource session.text).2 := by
  obtain ⟨request, hPending⟩ := Option.isSome_iff_exists.mp h
  have hDue : (session.debounce.poll request.deadline).2 = true := by
    simp [Debounce.poll, hPending]
  rw [flush, Debounce.deadline, hPending]
  simp only [Option.map_some, tick, hDue, if_true]

/-! ## Calls on the highlighting -/

/-- The calls on the highlighting that asking for a request at an instant leads to. -/
def callsOfTick (session : Session) (now : Nat) : List HighlightCall :=
  if (session.debounce.poll now).2 then [.resync session.parsedSource session.text] else []

/-- The calls on the highlighting that an action leads to. -/
def callsOf (session : Session) : HostAction → List HighlightCall
  | .openFile path =>
      match session.files.readText path with
      | .error _ => []
      | .ok text => [.parse text, .setLanguage (Language.ofPath path), .parse text]
  | .setLanguage language => [.setLanguage language, .parse session.text]
  | .tick now => session.callsOfTick now
  | .flush => session.debounce.deadline.elim [] session.callsOfTick
  | _ => []

/-- The calls on the highlighting that a run leads to. -/
def callsOfRun (parser : Parser) (session : Session) : List HostAction → List HighlightCall
  | [] => []
  | action :: actions =>
      session.callsOf action ++ (session.act parser action).callsOfRun parser actions

/-- The calls on the highlighting that creating a session leads to. -/
def callsOfCreation (content : Option Text) : List HighlightCall :=
  content.elim [] fun text => [.parse text]

theorem created_highlighting (parser : Parser) (settings : Settings) (files : Files)
    (content : Option Text) :
    (created parser settings files content).highlighting =
      (callsOfCreation content).foldl (Highlighting.call parser) .fresh := by
  cases content with
  | none => rfl
  | some text => rfl

theorem tick_highlighting (parser : Parser) (session : Session) (now : Nat) :
    (session.tick parser now).1.highlighting =
      (session.callsOfTick now).foldl (Highlighting.call parser) session.highlighting := by
  simp only [tick, callsOfTick]
  split
  · rfl
  · rfl

/-- The calls are all that an action does to the highlighting. -/
theorem act_highlighting (parser : Parser) (session : Session) (action : HostAction) :
    (session.act parser action).highlighting =
      (session.callsOf action).foldl (Highlighting.call parser) session.highlighting := by
  cases action with
  | press key now => exact (session.keepsTree_press key now).1
  | feed script now => exact (session.keepsTree_pressAll now _).1
  | undo => exact (session.keepsTree_travel _).1
  | redo => exact (session.keepsTree_travel _).1
  | save =>
      exact (orElse_induction (motive := session.KeepsTree) ⟨rfl, rfl⟩
        fun _ hSaved => keepsTree_save hSaved).1
  | saveAs path =>
      exact (orElse_induction (motive := session.KeepsTree) ⟨rfl, rfl⟩
        fun _ hSaved => keepsTree_saveAs hSaved).1
  | scroll | changeFiles => rfl
  | setLanguage language => rfl
  | openFile path =>
      simp only [act, callsOf, openFile]
      cases session.files.readText path with
      | error error => rfl
      | ok text => rfl
  | tick now => exact session.tick_highlighting parser now
  | flush =>
      simp only [act, callsOf, flush]
      cases session.debounce.deadline with
      | none => rfl
      | some deadline => exact session.tick_highlighting parser deadline

theorem actAll_highlighting (parser : Parser) (session : Session) (actions : List HostAction) :
    (session.actAll parser actions).highlighting =
      (session.callsOfRun parser actions).foldl (Highlighting.call parser)
        session.highlighting := by
  induction actions generalizing session with
  | nil => rfl
  | cons action actions ih =>
      rw [callsOfRun, List.foldl_append, ← act_highlighting]
      exact ih (session.act parser action)

/-! ## Every run -/

/-- In every state of a run there is a tree exactly if the language is parsed.  It is the
tree of the text parsed last, made with the grammar of the language, which is the one that
a parser holds after the calls of the run.  Whatever kind is reported when a request is due
or flushed is true of the text parsed last and the present one. -/
theorem tree_is_of_parsedSource (parser : Parser) (hFaithful : parser.IsFaithful)
    (settings : Settings) (files : Files) (content : Option Text) (actions : List HostAction) :
    let start := created parser settings files content
    let session := start.actAll parser actions
    let highlighter := (callsOfCreation content ++ start.callsOfRun parser actions).foldl
      (Highlighter.call parser) .fresh
    (session.highlighting.tree.isSome = true ↔ session.highlighting.language.isParsed = true) ∧
      (∀ tree ∈ session.highlighting.tree,
        tree = parser.parse session.highlighting.language session.parsedSource) ∧
      highlighter.Fits ∧ highlighter.shown = session.highlighting ∧
      ∀ kind, ((∃ now, (session.tick parser now).2 = some kind) ∨
          (session.flush parser).2 = some kind) →
        kind.IsTrue session.highlighting.language session.parsedSource session.text := by
  intro start session highlighter
  have hOwns : session.OwnsTree parser :=
    (ownsTree_created parser settings files content).actAll hFaithful actions
  obtain ⟨hFits, hShown⟩ := Highlighter.fits_fresh.calls parser
    (callsOfCreation content ++ start.callsOfRun parser actions)
  have hHighlighting : session.highlighting = highlighter.shown := by
    rw [hShown, List.foldl_append]
    show _ = (start.callsOfRun parser actions).foldl (Highlighting.call parser)
      ((callsOfCreation content).foldl (Highlighting.call parser) .fresh)
    rw [← created_highlighting parser settings files content]
    exact start.actAll_highlighting parser actions
  refine ⟨hOwns.isSome_tree_iff, fun tree => hOwns.eq_of_mem_tree, hFits, hHighlighting.symm,
    fun kind hReported => ?_⟩
  have hKind : kind =
      (session.highlighting.resync parser session.parsedSource session.text).2 := by
    rcases hReported with ⟨now, hTick⟩ | hFlush
    · exact tick_kind hTick
    · exact flush_kind hFlush
  rw [hKind]
  exact Highlighting.isTrue_resync hOwns.isSome_tree_iff.mpr parser _ _

/-- The tree of a document with one value, or of an empty one. -/
def documentTree : Text → Node
  | [] => ⟨"document", none, 0, 0, 0, 0, []⟩
  | value => ⟨"document", none, 0, byteLength value, 0, 0,
      [⟨String.ofList value, none, 0, byteLength value, 0, 0, []⟩]⟩

/-- A parser of documents that makes every tree anew. -/
def documentParser : Parser :=
  ⟨fun _ => true, fun _ source => documentTree source, fun _ _ _ source => documentTree source⟩

/-- A document of which all was deleted has the tree that it had until the request is
flushed, and the old tree is used to make the new one. -/
theorem deleted_document_is_parsed_again :
    let session := (created documentParser Settings.default Files.empty
      (some ['n', 'u', 'l', 'l'])).actAll documentParser
        [.setLanguage .json, .press (.char '4') 0, .press (.char 'x') 0]
    documentParser.IsFaithful ∧ session.highlighting.language = .json ∧ session.text = [] ∧
      session.highlighting.tree = some ⟨"document", none, 0, 4, 0, 0,
        [⟨"null", none, 0, 4, 0, 0, []⟩]⟩ ∧
      (session.flush documentParser).2 = some .incremental ∧
      ReparseKind.incremental.IsTrue .json ['n', 'u', 'l', 'l'] [] := by
  intro session
  have hFaithful : documentParser.IsFaithful := fun _ _ _ _ _ => rfl
  obtain ⟨-, -, -, -, hKind⟩ := tree_is_of_parsedSource documentParser hFaithful Settings.default
    Files.empty (some ['n', 'u', 'l', 'l'])
      [.setLanguage .json, .press (.char '4') 0, .press (.char 'x') 0]
  have hFlush : (session.flush documentParser).2 = some .incremental :=
    flush_kind_of_isPending documentParser rfl
  refine ⟨hFaithful, rfl, rfl, rfl, hFlush, hKind _ (Or.inr hFlush)⟩

end Session

end ModalEditor
