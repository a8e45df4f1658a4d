import ModalEditor.Text.Basic

namespace ModalEditor

/-!
# Quoted texts

A text in a JSON document stands between double quotes.  A backslash starts an
escape, and `\u` with four hexadecimal digits is a UTF-16 unit, so that a
character above U+FFFF takes a pair of surrogates.  Splitting a quoted text into
its pieces asks only for the form of the escapes; `Quoted.text` also puts the
surrogates together.
-/

/-- Why a document is refused. -/
inductive JsonFault where
  /-- The document is not JSON. -/
  | malformed
  /-- The document ends too early. -/
  | ended
  /-- The document is JSON, but not of the form that is asked for. -/
  | unsuitable
  deriving DecidableEq, Repr, Inhabited

/-- The fault of a document in which `rest` follows where more is needed. -/
def JsonFault.missing (rest : Text) : JsonFault :=
  if rest.isEmpty then .ended else .malformed

/-- A piece of a quoted text. -/
inductive QuotedPiece where
  | char (c : Char)
  /-- A UTF-16 unit given by its number. -/
  | unit (n : Nat)
  deriving DecidableEq, Repr, Inhabited

/-- What follows an opening quote. -/
structure Quoted where
  pieces : List QuotedPiece
  /-- Why there is no closing quote, unless there is one. -/
  fault : Option JsonFault
  deriving DecidableEq, Repr, Inhabited

namespace Quoted

/-- The value of a hexadecimal digit. -/
def hexValue? (c : Char) : Option Nat :=
  if '0' ≤ c ∧ c ≤ '9' then some (c.toNat - '0'.toNat)
  else if 'a' ≤ c ∧ c ≤ 'f' then some (c.toNat - 'a'.toNat + 10)
  else if 'A' ≤ c ∧ c ≤ 'F' then some (c.toNat - 'A'.toNat + 10)
  else none

/-- The number that hexadecimal digits spell. -/
def hexNumber? (digits : Text) : Option Nat :=
  digits.foldl (fun value c => do return (← value) * 16 + (← hexValue? c)) (some 0)

/-- The character of an escape of one letter. -/
def shortEscape? : Char → Option Char
  | '"' => some '"'
  | '\\' => some '\\'
  | '/' => some '/'
  | 'b' => some '\x08'
  | 'f' => some '\x0c'
  | 'n' => some '\n'
  | 'r' => some '\r'
  | 't' => some '\t'
  | _ => none

/-- A text that ends before a piece. -/
def stopped (fault : JsonFault) (rest : Text) : Quoted × Text :=
  (⟨[], some fault⟩, rest)

/-- One more piece in front. -/
def push (piece : QuotedPiece) (read : Quoted × Text) : Quoted × Text :=
  ({ read.1 with pieces := piece :: read.1.pieces }, read.2)

/-- Reads what follows an opening quote, up to the closing one.  The second
component is the text after it. -/
def read : Text → Quoted × Text
  | [] => stopped .ended []
  | '"' :: rest => (⟨[], none⟩, rest)
  | '\\' :: 'u' :: a :: b :: c :: d :: rest =>
      match hexNumber? [a, b, c, d] with
      | some n => push (.unit n) (read rest)
      | none => stopped .malformed rest
  | '\\' :: 'u' :: rest => stopped (if byteLength rest < 4 then .ended else .malformed) rest
  | ['\\'] => stopped .ended []
  | '\\' :: letter :: rest =>
      match shortEscape? letter with
      | some c => push (.char c) (read rest)
      | none => stopped .malformed rest
  | c :: rest =>
      if c.toNat < 0x20 then stopped .malformed rest else push (.char c) (read rest)

/-- Whether a UTF-16 unit is the first of a pair. -/
def isLeading (n : Nat) : Bool := 0xD800 ≤ n && n ≤ 0xDBFF

/-- Whether a UTF-16 unit is the second of a pair. -/
def isTrailing (n : Nat) : Bool := 0xDC00 ≤ n && n ≤ 0xDFFF

/-- The character that a pair of surrogates stands for. -/
def pairedChar (first second : Nat) : Char :=
  Char.ofNat ((first - 0xD800) * 0x400 + (second - 0xDC00) + 0x10000)

/-- The characters of pieces that `fault` follows.  A surrogate without its
partner is refused. -/
def characters (fault : Option JsonFault) : List QuotedPiece → Except JsonFault Text
  | [] => fault.elim (.ok []) .error
  | .char c :: rest => (c :: ·) <$> characters fault rest
  | [.unit n] =>
      if isLeading n then .error (fault.getD .malformed)
      else if isTrailing n then .error .malformed
      else (Char.ofNat n :: ·) <$> characters fault []
  | .unit n :: .char c :: rest =>
      if isLeading n || isTrailing n then .error .malformed
      else (Char.ofNat n :: ·) <$> characters fault (.char c :: rest)
  | .unit n :: .unit m :: rest =>
      if isLeading n && isTrailing m then (pairedChar n m :: ·) <$> characters fault rest
      else if isLeading n || isTrailing n then .error .malformed
      else (Char.ofNat n :: ·) <$> characters fault (.unit m :: rest)

/-- The text that is quoted. -/
def text (quoted : Quoted) : Except JsonFault Text :=
  characters quoted.fault quoted.pieces

end Quoted

end ModalEditor
