import ModalEditor.Text.Basic

namespace ModalEditor

/-!
# Keys and key scripts

A key script is a text that spells a sequence of keys.  A character spells
itself, and a name in angle brackets spells a key that has no character, such
as `<Esc>` or `<C-r>`.  Brackets around anything else are plain characters.
-/

/-- One key press. -/
inductive Key where
  | char (c : Char)
  | escape
  | enter
  | backspace
  /-- A character typed with Control held. -/
  | ctrl (c : Char)
  deriving DecidableEq, Repr, Inhabited

namespace Key

/-- The names of keys, in lowercase. -/
def names : List (Text × Key) :=
  [(['e', 's', 'c'], .escape),
   (['c', 'r'], .enter),
   (['e', 'n', 't', 'e', 'r'], .enter),
   (['r', 'e', 't', 'u', 'r', 'n'], .enter),
   (['b', 's'], .backspace),
   (['l', 't'], .char '<'),
   (['s', 'p', 'a', 'c', 'e'], .char ' ')]

/-- The key with a name, whatever the case of its ASCII letters.  Besides the
listed names there is one for each character typed with Control. -/
def ofName? (name : Text) : Option Key :=
  let lower := name.map Char.toLower
  match names.lookup lower, lower with
  | some key, _ => some key
  | none, ['c', '-', letter] => some (.ctrl letter)
  | none, _ => none

/-- The characters before the first closing bracket, if there is one. -/
def bracketedName? : Text → Option Text
  | [] => none
  | c :: rest => if c = '>' then some [] else (bracketedName? rest).map (c :: ·)

/-- The key that a bracketed name right after an opening bracket spells, with
the number of characters of the name and its closing bracket. -/
def named? (rest : Text) : Option (Key × Nat) :=
  match bracketedName? rest with
  | none => none
  | some name => (ofName? name).map fun key => (key, name.length + 1)

/-- The key that a character spells by itself. -/
def ofChar (c : Char) : Key :=
  if c = '\n' then .enter else if c = '\x1b' then .escape else .char c

/-- Reads a script whose first `skip` characters belong to a name that was
read before. -/
def parseAfter : Nat → Text → List Key
  | _, [] => []
  | skip + 1, _ :: rest => parseAfter skip rest
  | 0, c :: rest =>
      match if c = '<' then named? rest else none with
      | some (key, width) => key :: parseAfter width rest
      | none => ofChar c :: parseAfter 0 rest

/-- The keys that a script spells. -/
def parseScript (script : Text) : List Key :=
  parseAfter 0 script

end Key

end ModalEditor
