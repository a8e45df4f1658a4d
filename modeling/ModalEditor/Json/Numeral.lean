import ModalEditor.Json.Quoted
import ModalEditor.Text.Decimal

namespace ModalEditor

/-!
# Numerals

A number in a JSON document has digits without a leading zero, and may have a
sign, a fraction and an exponent.
-/

/-- A number as it is written. -/
structure Numeral where
  isNegative : Bool
  /-- The digits before the point. -/
  whole : Text
  /-- The digits after the point, none if there is no point. -/
  fraction : Text
  /-- The sign and the digits of the exponent, if there is one. -/
  exponent : Option (Bool × Text)
  deriving DecidableEq, Repr, Inhabited

namespace Numeral

/-- Whether a character is an ASCII digit. -/
def isDigit (c : Char) : Bool := (digitValue? c).isSome

/-- The number that digits spell. -/
def value (digits : Text) : Nat := (readDigits? 0 digits).getD 0

/-- The digits at the start of a text, of which there has to be one, and the
text after them. -/
def readSomeDigits (text : Text) : Except JsonFault (Text × Text) :=
  let digits := text.takeWhile isDigit
  let rest := text.drop digits.length
  if digits.isEmpty then .error (JsonFault.missing rest) else .ok (digits, rest)

/-- Reads the digits before the point. -/
def readWhole (text : Text) : Except JsonFault (Text × Text) := do
  let (digits, rest) ← readSomeDigits text
  if digits.head? = some '0' && digits.length > 1 then .error .malformed
  else .ok (digits, rest)

/-- Reads a fraction, if there is one. -/
def readFraction : Text → Except JsonFault (Text × Text)
  | '.' :: rest => readSomeDigits rest
  | text => .ok ([], text)

/-- Reads what follows the letter of an exponent. -/
def readSigned (text : Text) : Except JsonFault (Option (Bool × Text) × Text) := do
  let isSigned := text.head? = some '+' || text.head? = some '-'
  let (digits, rest) ← readSomeDigits (if isSigned then text.drop 1 else text)
  return (some (text.head? = some '-', digits), rest)

/-- Reads an exponent, if there is one. -/
def readExponent : Text → Except JsonFault (Option (Bool × Text) × Text)
  | 'e' :: rest => readSigned rest
  | 'E' :: rest => readSigned rest
  | text => .ok (none, text)

/-- Reads the numeral at the start of a text.  The second component is the text
after it. -/
def read (text : Text) : Except JsonFault (Numeral × Text) := do
  let isNegative := text.head? = some '-'
  let (whole, rest) ← readWhole (if isNegative then text.drop 1 else text)
  let (fraction, rest) ← readFraction rest
  let (exponent, rest) ← readExponent rest
  return (⟨isNegative, whole, fraction, exponent⟩, rest)

/-- The natural number below 2 ^ 64 that a numeral spells with digits alone. -/
def natural? (numeral : Numeral) : Option Nat :=
  if numeral.isNegative || !numeral.fraction.isEmpty || numeral.exponent.isSome then none
  else some (value numeral.whole) |>.filter (· < UInt64.size)

/-- Digits taken so far as a number below 2 ^ 64 and a power of ten. -/
structure Scaled where
  significand : Nat
  power : Int
  /-- Whether a digit was left out. -/
  isFull : Bool
  deriving DecidableEq, Repr, Inhabited

namespace Scaled

/-- Takes one more digit.  Where it does not fit it counts only for the power,
which grows by `dropped`, and by `taken` where it fits. -/
def push (taken dropped : Int) (scaled : Scaled) (c : Char) : Scaled :=
  let longer := scaled.significand * 10 + (digitValue? c).getD 0
  if scaled.isFull || longer ≥ UInt64.size then
    { scaled with power := scaled.power + dropped, isFull := true }
  else { scaled with significand := longer, power := scaled.power + taken }

end Scaled

/-- The size of a numeral. -/
def scaled (numeral : Numeral) : Scaled :=
  let whole := numeral.whole.foldl (Scaled.push 0 1) ⟨0, 0, false⟩
  let all := numeral.fraction.foldl (Scaled.push (-1) 0) { whole with isFull := false }
  let shift : Int := numeral.exponent.elim 0 fun (isNegative, digits) =>
    if isNegative then -(value digits : Int) else value digits
  { all with power := all.power + shift }

/-- Whether a numeral with a fraction, an exponent or too many digits is beyond
the largest binary64 number. -/
def overflows (numeral : Numeral) : Bool :=
  let scaled := numeral.scaled
  if numeral.natural?.isSome || scaled.significand = 0 || scaled.power ≤ 0 then false
  else
    scaled.power > 308 ||
      ((UInt64.ofNat scaled.significand).toFloat *
        Float.ofScientific 1 false scaled.power.toNat).isInf

end Numeral

end ModalEditor
