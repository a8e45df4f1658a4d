import ModalEditor.Pattern.Flags

namespace ModalEditor

/-!
# Escapes

After a backslash a character stands for something else than itself, or for
itself where it would otherwise mean something.
-/

/-- What an escape stands for. -/
inductive Escape where
  | char (c : Char)
  | set (set : CharSet)
  | check (assertion : Assertion)
  deriving DecidableEq, Repr, Inhabited

namespace Escape

/-- The value of a hexadecimal digit. -/
def hexValue? (c : Char) : Option Nat :=
  if '0' ≤ c ∧ c ≤ '9' then some (c.toNat - '0'.toNat)
  else if 'a' ≤ c ∧ c ≤ 'f' then some (c.toNat - 'a'.toNat + 10)
  else if 'A' ≤ c ∧ c ≤ 'F' then some (c.toNat - 'A'.toNat + 10)
  else none

/-- The character with a code point in hexadecimal digits. -/
def ofHex? (digits : Text) : Option Char :=
  if digits.isEmpty then none
  else
    let value := digits.foldl
      (fun value c => value.bind fun v => (hexValue? c).map (v * 16 + ·)) (some 0)
    value.bind fun v => if v.isValidChar then some (Char.ofNat v) else none

/-- Splits a text at the first occurrence of a character, which goes to neither
part. -/
def splitAt? (stop : Char) : Text → Option (Text × Text)
  | [] => none
  | c :: rest =>
      if c = stop then some ([], rest)
      else (splitAt? stop rest).map fun (before, after) => (c :: before, after)

/-- Reads a code point of `width` digits, or of any number of them in
braces. -/
def readHex? (width : Nat) : Text → Option (Escape × Text)
  | '{' :: rest =>
      (splitAt? '}' rest).bind fun (digits, rest) =>
        (ofHex? digits).map fun c => (.char c, rest)
  | text =>
      if text.length < width then none
      else (ofHex? (text.take width)).map fun c => (.char c, text.drop width)

/-- The name of a property without regard to case, blanks, hyphens and low
lines, nor to `is` in front. -/
def propertyName (name : Text) : Text :=
  let plain := (name.filter fun c => c != ' ' && c != '_' && c != '-').map Char.toLower
  match plain with
  | 'i' :: 's' :: rest => rest
  | plain => plain

/-- The sets of the general categories that a pattern can name. -/
def categories : List (String × CharSet) :=
  [("l", .letter), ("letter", .letter),
   ("lu", .uppercase), ("uppercaseletter", .uppercase),
   ("ll", .lowercase), ("lowercaseletter", .lowercase),
   ("nd", .decimalDigit), ("decimalnumber", .decimalDigit), ("digit", .decimalDigit),
   ("any", CharSet.all), ("ascii", .range '\x00' '\x7f')]

/-- The sets of the other properties that a pattern can name. -/
def properties : List (String × CharSet) :=
  [("alphabetic", .alphabetic), ("alpha", .alphabetic),
   ("whitespace", .blank), ("wspace", .blank), ("space", .blank)]

/-- The set with a name. -/
def lookup? (table : List (String × CharSet)) (name : Text) : Option CharSet :=
  table.lookup (String.ofList (propertyName name))

/-- The set of a property, or of a general category given as such. -/
def property? (name : Text) : Option CharSet :=
  let ofCategory (property value : Text) : Option CharSet :=
    match String.ofList (propertyName property) with
    | "gc" | "generalcategory" => lookup? categories value
    | _ => none
  match splitAt? ':' name, splitAt? '=' name with
  | some (property, value), _ => ofCategory property value
  | none, some (property, value) =>
      if property.getLast? = some '!' then
        (ofCategory property.dropLast value).map .complement
      else ofCategory property value
  | none, none => (lookup? properties name).or (lookup? categories name)

/-- Reads the name of a property: one letter, or a name in braces. -/
def readProperty? (flags : PatternFlags) (negated : Bool) : Text → Option (Escape × Text)
  | [] => none
  | c :: rest =>
      let split :=
        if c = '{' then splitAt? '}' rest
        else if c = '\\' then none
        else some ([c], rest)
      split.bind fun (name, rest) =>
        (property? name).map fun set =>
          (.set (CharSet.complementIf negated (CharSet.caselessIf flags.ignoreCase set)), rest)

/-- Reads what follows `\b`: nothing, or in braces which side of a word it
means.  Braces that hold other characters than letters and hyphens are a
repetition. -/
def readBoundary? (text : Text) : Option (Escape × Text) :=
  let plain := some (Escape.check .wordBoundary, text)
  match text with
  | '{' :: rest =>
      let name := rest.takeWhile fun c => c.isAlpha || c == '-'
      match rest.drop name.length with
      | '}' :: after =>
          match String.ofList name with
          | "start" => some (.check .wordStart, after)
          | "end" => some (.check .wordEnd, after)
          | "start-half" => some (.check .wordStartHalf, after)
          | "end-half" => some (.check .wordEndHalf, after)
          | _ => if name.isEmpty then plain else none
      | _ => plain
  | _ => plain

/-- Reads an escape after its backslash.  Letters and digits that have no
meaning cannot be escaped, and neither can characters outside ASCII. -/
def read? (flags : PatternFlags) : Text → Option (Escape × Text)
  | [] => none
  | c :: rest =>
      match c with
      | 'd' => some (.set .decimalDigit, rest)
      | 'D' => some (.set (.complement .decimalDigit), rest)
      | 's' => some (.set .blank, rest)
      | 'S' => some (.set (.complement .blank), rest)
      | 'w' => some (.set .word, rest)
      | 'W' => some (.set (.complement .word), rest)
      | 'p' => readProperty? flags false rest
      | 'P' => readProperty? flags true rest
      | 'x' => readHex? 2 rest
      | 'u' => readHex? 4 rest
      | 'U' => readHex? 8 rest
      | 'a' => some (.char '\x07', rest)
      | 'f' => some (.char '\x0c', rest)
      | 't' => some (.char '\t', rest)
      | 'n' => some (.char '\n', rest)
      | 'r' => some (.char '\r', rest)
      | 'v' => some (.char '\x0b', rest)
      | 'A' => some (.check .textStart, rest)
      | 'z' => some (.check .textEnd, rest)
      | 'b' => readBoundary? rest
      | 'B' => some (.check .noWordBoundary, rest)
      | '<' => some (.check .wordStart, rest)
      | '>' => some (.check .wordEnd, rest)
      | _ => if c.toNat < 128 ∧ !c.isAlphanum then some (.char c, rest) else none

end Escape

end ModalEditor
