import ModalEditor.Session.Basic

namespace ModalEditor

/-!
# What a session shows

None of these operations touch the text, the cursor or the history.
-/

namespace Session

/-- Reports what is visible.  The second component is the range of lines to
highlight, if it moved by much. -/
def scroll (session : Session) (scrollTop height lineHeight : Float32) :
    Session × Option LineRange :=
  let (viewport, range) :=
    session.viewport.scroll scrollTop height lineHeight session.lineCount
  ({ session with viewport }, range)

/-- Brings the tree up to date if the pending request is due.  The second
component says how that was done. -/
def tick (parser : Parser) (session : Session) (now : Nat) : Session × Option ReparseKind :=
  let (debounce, isDue) := session.debounce.poll now
  if isDue then
    let (highlighting, kind) :=
      session.highlighting.resync parser session.parsedSource session.text
    ({ session with debounce, highlighting, parsedSource := session.text }, some kind)
  else (session, none)

/-- Brings the tree up to date if a request is pending, without waiting for its
deadline. -/
def flush (parser : Parser) (session : Session) : Session × Option ReparseKind :=
  match session.debounce.deadline with
  | none => (session, none)
  | some deadline => session.tick parser deadline

/-- The highlighted lines of the range that was reported last, or of all lines. -/
def tokens (session : Session) : List LineTokens :=
  session.highlighting.lines session.parsedSource
    (session.viewport.range.getD (LineRange.whole session.lineCount))

end Session

end ModalEditor
