import ModalEditor.Buffer
import ModalEditor.Proofs.Text.Difference
import ModalEditor.Proofs.Text.Position

namespace ModalEditor

/-!
# Buffers and their cursors

Replacing only what differs replaces the whole text.  A buffer is coherent when
its cursor is a position of its text.
-/

namespace Buffer

/-- What differs, put into the old text, makes it the new one. -/
theorem splicedText_eq (old new : Text) : splicedText old new = new := by
  rw [splicedText]
  by_cases hSame : old = new
  · rw [if_pos hSame, hSame]
  · rw [if_neg hSame]
    have hOld := Difference.head_removed_tail old new
    have hNew := Difference.head_added_tail old new
    generalize Difference.between old new = difference at hOld hNew
    obtain ⟨head, removed, added, tail⟩ := difference
    subst hOld hNew
    have hDrop :
        (head ++ (removed ++ tail)).drop (head.length + removed.length) = tail := by
      rw [← List.append_assoc, ← List.length_append, List.drop_left]
    simp only [List.take_left, hDrop, List.append_assoc]

@[simp]
theorem replaceText_text (buffer : Buffer) (text : Text) :
    (buffer.replaceText text).text = text :=
  splicedText_eq buffer.text text

/-- Whether the cursor is a position of the text. -/
def Coherent (buffer : Buffer) : Prop :=
  buffer.cursor.IsIn buffer.text

theorem coherent_ofText (text : Text) : (ofText text).Coherent :=
  Position.isIn_origin text

/-- The cursor of a coherent buffer is on a line, at most at its end. -/
theorem Coherent.bounds {buffer : Buffer} (h : buffer.Coherent) :
    buffer.cursor.line < buffer.lines.length ∧
      buffer.cursor.column ≤ lineLength buffer.lines buffer.cursor.line := by
  obtain ⟨hLine, hColumn, -⟩ := Position.isIn_iff.mp h
  exact ⟨hLine, hColumn⟩

/-- Taking line and column anew from the offset changes nothing in a coherent
buffer. -/
theorem Coherent.settled_eq {buffer : Buffer} (h : buffer.Coherent) :
    buffer.settled = buffer := by
  rw [settled, ← h]

/-- Whether the cursor stands on a character of its line, or at the start of
the line. -/
def OnCharacter (buffer : Buffer) : Prop :=
  buffer.cursor.column = 0 ∨
    buffer.cursor.column < lineLength buffer.lines buffer.cursor.line

end Buffer

end ModalEditor
