import ModalEditor.Text.Basic

namespace ModalEditor

/-!
# The register

The register keeps the text that an operator removed or copied last.
-/

/-- A text written to the register. -/
structure RegisterWrite where
  content : Text
  /-- Whether the text holds whole lines. -/
  linewise : Bool
  deriving DecidableEq, Repr, Inhabited

/-- The last write and how many there were. -/
structure Register where
  last : Option RegisterWrite
  writes : Nat
  deriving DecidableEq, Repr, Inhabited

namespace Register

/-- The register that nothing was written to. -/
def empty : Register := ⟨none, 0⟩

/-- Writes a text. -/
def write (register : Register) (write : RegisterWrite) : Register :=
  ⟨some write, register.writes + 1⟩

end Register

end ModalEditor
