import ModalEditor.Text.Basic

namespace ModalEditor

/-!
# Decimal numbers

Numbers typed by hand are runs of ASCII digits, with or without a plus sign in
front.  A number that does not fit into 64 bits is not read.
-/

/-- The largest number that can be typed. -/
def maxTypedNumber : Nat := UInt64.size - 1

/-- The value of an ASCII digit. -/
def digitValue? (c : Char) : Option Nat :=
  if '0' ≤ c ∧ c ≤ '9' then some (c.toNat - '0'.toNat) else none

/-- Reads digits after those that make `value`. -/
def readDigits? (value : Nat) : Text → Option Nat
  | [] => some value
  | c :: rest => (digitValue? c).bind fun digit => readDigits? (value * 10 + digit) rest

/-- Reads a number. -/
def readNumber? (text : Text) : Option Nat :=
  let digits := if text.head? = some '+' then text.drop 1 else text
  if digits.isEmpty then none
  else (readDigits? 0 digits).filter (· ≤ maxTypedNumber)

end ModalEditor
