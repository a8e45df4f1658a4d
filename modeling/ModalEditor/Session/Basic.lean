import ModalEditor.Files
import ModalEditor.Highlight.State
import ModalEditor.History
import ModalEditor.Modal.Press
import ModalEditor.Resync.Cadence
import ModalEditor.Search.Basic
import ModalEditor.Settings

namespace ModalEditor

/-!
# Editing sessions

A session is everything about one open buffer: the modal engine and the text,
the history and the search, what is visible and how it is highlighted, and the
file that the text belongs to.  The tree that highlighting uses belongs to
`parsedSource`, which may lag behind the text until the pending request of the
debounce is due.
-/

/-- One open buffer and the files it can be read from and written to. -/
structure Session where
  settings : Settings
  work : Workspace
  history : History
  search : Search
  debounce : Debounce
  cadence : Cadence
  viewport : Viewport
  highlighting : Highlighting
  /-- The text that was parsed last. -/
  parsedSource : Text
  /-- The file of the buffer. -/
  path : Option Path
  /-- Whether keys changed the text since it was loaded or saved. -/
  isModified : Bool
  files : Files

namespace Session

/-- The text being edited. -/
def text (session : Session) : Text := session.work.buffer.text

/-- The cursor. -/
def cursor (session : Session) : Position := session.work.buffer.cursor

/-- The mode of the engine. -/
def mode (session : Session) : Mode := session.work.engine.mode

/-- The number of lines. -/
def lineCount (session : Session) : Nat := session.work.buffer.lines.length

/-- An empty session without a file. -/
def ofSettings (settings : Settings) (files : Files) : Session where
  settings
  work := Workspace.ofBuffer { Buffer.ofText [] with tabSize := settings.tabSize }
  history := History.ofCapacity settings.historyCapacity
  search := Search.ofOptions settings.searchCaseSensitive settings.searchUsesPattern
  debounce := Debounce.ofConfig settings.debounce
  cadence := Cadence.empty
  viewport := Viewport.ofConfig settings.viewport
  highlighting := Highlighting.fresh
  parsedSource := []
  path := none
  isModified := false
  files

/-- Parses the text anew. -/
def parse (parser : Parser) (session : Session) : Session :=
  { session with
    parsedSource := session.text
    highlighting := (session.highlighting.parse parser session.text).1 }

/-- Replaces the buffer by a new one with the given text.  Nothing of the old
text can be undone any more; the register stays, and so does the search, which
looks through the new text. -/
def load (parser : Parser) (session : Session) (text : Text) : Session :=
  let buffer := { Buffer.ofText text with tabSize := session.settings.tabSize }
  parse parser
    { session with
      work := { session.work with engine := Engine.fresh, buffer }
      history := session.history.clear
      debounce := session.debounce.cancel
      viewport := session.viewport.reset
      search := session.search.refresh text
      isModified := false }

/-- A session without a file that holds a text. -/
def ofText (parser : Parser) (settings : Settings) (files : Files) (text : Text) : Session :=
  (ofSettings settings files).load parser text

/-- Switches the language and parses the text. -/
def setLanguage (parser : Parser) (session : Session) (language : Language) : Session :=
  parse parser { session with highlighting := session.highlighting.setLanguage parser language }

/-- Opens a file in place of the buffer.  The language is the one that its name
says. -/
def openFile (parser : Parser) (session : Session) (path : Path) : Except FileError Session :=
  match session.files.readText path with
  | .error error => .error error
  | .ok text =>
      .ok (({ session with path := some path }.load parser text).setLanguage parser
        (Language.ofPath path))

/-- Saves the text to a file, which becomes the file of the buffer. -/
def saveAs (session : Session) (path : Path) : Except FileError Session :=
  match session.files.writeText path session.text with
  | .error error => .error error
  | .ok files => .ok { session with files, path := some path, isModified := false }

/-- Saves the text to the file of the buffer. -/
def save (session : Session) : Except FileError Session :=
  match session.path with
  | none => .error .noPath
  | some path => session.saveAs path

end Session

end ModalEditor
