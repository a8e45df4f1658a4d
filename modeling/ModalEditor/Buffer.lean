import ModalEditor.Text.Difference
import ModalEditor.Text.Position

namespace ModalEditor

/-!
# Buffers

A buffer holds a text, a cursor in it and the width of a tab stop.  The text
is replaced only where it differs, and the cursor keeps its offset as far as
the new text reaches.
-/

/-- A text being edited. -/
structure Buffer where
  text : Text
  cursor : Position
  tabSize : Nat
  deriving DecidableEq, Repr, Inhabited

namespace Buffer

/-- Width of a tab stop when nothing else is said. -/
def defaultTabSize : Nat := 4

/-- A buffer with the cursor at the start of its text. -/
def ofText (text : Text) : Buffer :=
  ⟨text, Position.origin, defaultTabSize⟩

/-- The lines of the text. -/
def lines (buffer : Buffer) : List Text :=
  splitLines buffer.text

/-- Moves the cursor. -/
def moveTo (buffer : Buffer) (cursor : Position) : Buffer :=
  { buffer with cursor }

/-- The text after replacing, within the old text, only the characters that
differ from the new one. -/
def splicedText (old new : Text) : Text :=
  if old = new then old
  else
    let difference := Difference.between old new
    let start := difference.head.length
    old.take start ++ difference.added ++ old.drop (start + difference.removed.length)

/-- Replaces the text, keeping the cursor inside it. -/
def replaceText (buffer : Buffer) (text : Text) : Buffer :=
  let text := splicedText buffer.text text
  { buffer with text, cursor := Position.ofOffset text (min buffer.cursor.offset text.length) }

/-- The buffer with line and column of the cursor taken anew from its
offset. -/
def settled (buffer : Buffer) : Buffer :=
  { buffer with cursor := Position.ofOffset buffer.text buffer.cursor.offset }

end Buffer

end ModalEditor
