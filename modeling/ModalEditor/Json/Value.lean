import ModalEditor.Json.Numeral

namespace ModalEditor

/-!
# JSON documents

A document is read into a value in which faults stay where they were found.  So
whoever looks at the parts of a value in their order meets the first fault
first, and parts that nobody needs can be passed over with fewer demands.
-/

/-- A value as far as it could be read. -/
inductive JsonValue where
  | null
  | boolean (b : Bool)
  | number (numeral : Numeral)
  /-- A number in which the document ends. -/
  | cutNumber
  | string (quoted : Quoted)
  /-- A list, and why it does not end, unless it does. -/
  | list (items : List JsonValue) (fault : Option JsonFault)
  /-- A record, and why it does not end, unless it does. -/
  | record (entries : List (Quoted × JsonValue)) (fault : Option JsonFault)
  | broken (fault : JsonFault)
  deriving Repr, Inhabited

namespace JsonValue

/-- The characters that may stand between the parts of a document. -/
def isBlank (c : Char) : Bool :=
  c == ' ' || c == '\t' || c == '\n' || c == '\r'

/-- A text from its first character that is not blank. -/
def skipBlanks (text : Text) : Text := text.dropWhile isBlank

/-- Reads the letters of a word of which the first was read. -/
def readWord (value : JsonValue) : Text → Text → JsonValue × Text
  | [], text => (value, text)
  | _ :: _, [] => (.broken .ended, [])
  | letter :: letters, c :: rest =>
      if c = letter then readWord value letters rest else (.broken .malformed, rest)

/-- Reads a number. -/
def readNumber (text : Text) : JsonValue × Text :=
  match Numeral.read text with
  | .ok (numeral, rest) => (.number numeral, rest)
  | .error .ended => (.cutNumber, [])
  | .error fault => (.broken fault, text)

/-- Reads a value that is neither a list nor a record. -/
def readPlain : Text → JsonValue × Text
  | [] => (.broken .ended, [])
  | '"' :: rest =>
      let (quoted, rest) := Quoted.read rest
      (.string quoted, rest)
  | 'n' :: rest => readWord .null ['u', 'l', 'l'] rest
  | 't' :: rest => readWord (.boolean true) ['r', 'u', 'e'] rest
  | 'f' :: rest => readWord (.boolean false) ['a', 'l', 's', 'e'] rest
  | c :: rest =>
      if c = '-' || Numeral.isDigit c then readNumber (c :: rest)
      else (.broken .malformed, c :: rest)

/-- What follows a part of a list or a record that `close` ends: whether a comma
does, and the fault if neither does. -/
def readSeparator (close : Char) (text : Text) : Bool × Option JsonFault × Text :=
  match skipBlanks text with
  | [] => (false, some .ended, [])
  | c :: rest =>
      if c = ',' then (true, none, rest)
      else (false, if c = close then none else some .malformed, rest)

mutual

/-- The value at the start of a text, and the text after it. -/
def readValue : Nat → Text → JsonValue × Text
  | 0, text => (.broken .malformed, text)
  | fuel + 1, text =>
      match skipBlanks text with
      | '[' :: rest =>
          match skipBlanks rest with
          | ']' :: rest => (.list [] none, rest)
          | [] => (.list [] (some .ended), [])
          | rest =>
              let (items, fault, rest) := readItems fuel rest
              (.list items fault, rest)
      | '{' :: rest =>
          match skipBlanks rest with
          | '}' :: rest => (.record [] none, rest)
          | rest =>
              let (entries, fault, rest) := readEntries fuel rest
              (.record entries fault, rest)
      | rest => readPlain rest

/-- The items of a list, of which there is one more. -/
def readItems : Nat → Text → List JsonValue × Option JsonFault × Text
  | 0, text => ([], some .malformed, text)
  | fuel + 1, text =>
      let (item, rest) := readValue fuel text
      match readSeparator ']' rest with
      | (true, _, rest) =>
          let (items, fault, rest) := readItems fuel rest
          (item :: items, fault, rest)
      | (false, fault, rest) => ([item], fault, rest)

/-- The entries of a record, of which there is one more. -/
def readEntries : Nat → Text → List (Quoted × JsonValue) × Option JsonFault × Text
  | 0, text => ([], some .malformed, text)
  | fuel + 1, text =>
      match skipBlanks text with
      | '"' :: rest =>
          let (key, rest) := Quoted.read rest
          match skipBlanks rest with
          | ':' :: rest =>
              let (value, rest) := readValue fuel rest
              match readSeparator '}' rest with
              | (true, _, rest) =>
                  let (entries, fault, rest) := readEntries fuel rest
                  ((key, value) :: entries, fault, rest)
              | (false, fault, rest) => ([(key, value)], fault, rest)
          | rest => ([(key, .broken (JsonFault.missing rest))], none, rest)
      | rest => ([], some (JsonFault.missing rest), rest)

end

/-- The value at the start of a document, and the text after it.  Every two
steps of reading pass over a character. -/
def read (document : Text) : JsonValue × Text :=
  readValue (2 * document.length + 2) document

mutual

/-- The first fault of a value that is passed over.  Such a value needs no
partners for its surrogates, and no bounds for its numbers. -/
def skippedFault? : JsonValue → Option JsonFault
  | .null | .boolean _ | .number _ => none
  | .cutNumber => some .malformed
  | .string quoted => quoted.fault
  | .list items fault => (skippedFaultIn? items).or fault
  | .record entries fault => (skippedFaultAmong? entries).or fault
  | .broken fault => some fault

/-- The first fault of items that are passed over. -/
def skippedFaultIn? : List JsonValue → Option JsonFault
  | [] => none
  | item :: items => (skippedFault? item).or (skippedFaultIn? items)

/-- The first fault of entries that are passed over. -/
def skippedFaultAmong? : List (Quoted × JsonValue) → Option JsonFault
  | [] => none
  | (key, value) :: entries =>
      (key.fault.or (skippedFault? value)).or (skippedFaultAmong? entries)

end

/-- Why a value is refused that is of another kind than what is asked for. -/
def refusal : JsonValue → JsonFault
  | .null | .boolean _ | .list .. | .record .. => .unsuitable
  | .number numeral => if numeral.overflows then .malformed else .unsuitable
  | .cutNumber => .ended
  | .string quoted =>
      match quoted.text with
      | .ok _ => .unsuitable
      | .error fault => fault
  | .broken fault => fault

/-- Asks for a natural number below 2 ^ 64. -/
def natural : JsonValue → Except JsonFault Nat
  | .number numeral =>
      match numeral.natural? with
      | some n => .ok n
      | none => .error (JsonValue.number numeral).refusal
  | value => .error value.refusal

/-- Asks for a truth value. -/
def truth : JsonValue → Except JsonFault Bool
  | .boolean b => .ok b
  | value => .error value.refusal

end JsonValue

/-- A field of a structure: its name, and how a value is stored in it. -/
structure JsonField (σ : Type) where
  name : String
  store : JsonValue → σ → Except JsonFault σ

namespace JsonField

/-- A field that holds a value of one kind. -/
def holding {σ α : Type} (name : String) (ask : JsonValue → Except JsonFault α)
    (put : α → σ → σ) : JsonField σ :=
  ⟨name, fun value whole => (put · whole) <$> ask value⟩

/-- Stores entries in the fields that they name.  Entries that name no field are
passed over; a field of `stored` may not be named again. -/
def storeEntries {σ : Type} (fields : List (JsonField σ)) :
    List String → σ → List (Quoted × JsonValue) → Except JsonFault σ
  | _, whole, [] => .ok whole
  | stored, whole, (key, value) :: entries => do
      let name := String.ofList (← key.text)
      match fields.find? fun field => field.name == name with
      | none =>
          match value.skippedFault? with
          | some fault => .error fault
          | none => storeEntries fields stored whole entries
      | some field =>
          if stored.contains name then .error .unsuitable
          else storeEntries fields (name :: stored) (← field.store value whole) entries

/-- Stores items in fields in their order.  There may be fewer items than
fields, but not more. -/
def storeItems {σ : Type} : List (JsonField σ) → σ → List JsonValue → Except JsonFault σ
  | _, whole, [] => .ok whole
  | [], _, _ :: _ => .error .malformed
  | field :: fields, whole, item :: items => do
      storeItems fields (← field.store item whole) items

end JsonField

/-- Asks for a structure with some fields, given as a record or as a list.
Fields that are not given stay as they are in `whole`. -/
def JsonValue.structured {σ : Type} (fields : List (JsonField σ)) (whole : σ) :
    JsonValue → Except JsonFault σ
  | .record entries fault => do
      let filled ← JsonField.storeEntries fields [] whole entries
      fault.elim (.ok filled) .error
  | .list items fault => do
      let filled ← JsonField.storeItems fields whole items
      fault.elim (.ok filled) .error
  | value => .error value.refusal

end ModalEditor
