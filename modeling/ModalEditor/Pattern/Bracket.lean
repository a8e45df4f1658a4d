import ModalEditor.Pattern.Escape

namespace ModalEditor

/-!
# Sets in square brackets

A set in square brackets holds characters, ranges, escapes, named ASCII classes
and other sets.  Sets in it can be intersected with `&&`, subtracted with `--`
and compared with `~~`; these operators bind weaker than putting items side by
side, and they group to the left.
-/

namespace Bracket

/-- The operators between sets. -/
inductive Operation where
  | intersection
  | difference
  | symmetricDifference
  deriving DecidableEq, Repr, Inhabited

/-- The operator that two equal characters stand for. -/
def Operation.ofChar? : Char → Option Operation
  | '&' => some .intersection
  | '-' => some .difference
  | '~' => some .symmetricDifference
  | _ => none

/-- Joins two sets. -/
def Operation.apply : Operation → CharSet → CharSet → CharSet
  | .intersection, first, second => .intersection first second
  | .difference, first, second => CharSet.difference first second
  | .symmetricDifference, first, second => CharSet.symmetricDifference first second

/-- What was read of a set: the left side of an operator, if there was one, and
the items read after it. -/
structure Partial where
  left : Option (Operation × CharSet)
  items : CharSet
  deriving DecidableEq, Repr, Inhabited

namespace Partial

/-- Nothing read. -/
def start : Partial := ⟨none, .empty⟩

/-- One more item. -/
def push (read : Partial) (item : CharSet) : Partial :=
  { read with items := .union read.items item }

/-- The set read so far. -/
def set (read : Partial) (ignoreCase : Bool) : CharSet :=
  match read.left with
  | none => read.items
  | some (operation, left) =>
      operation.apply (CharSet.caselessIf ignoreCase left)
        (CharSet.caselessIf ignoreCase read.items)

/-- Reads on after an operator. -/
def operate (read : Partial) (ignoreCase : Bool) (operation : Operation) : Partial :=
  ⟨some (operation, read.set ignoreCase), .empty⟩

end Partial

/-- The set of the characters in some ranges. -/
def ofRanges (ranges : List (Char × Char)) : CharSet :=
  ranges.foldl (fun set (first, last) => .union set (.range first last)) .empty

/-- The ASCII classes that can be named between colons. -/
def asciiClasses : List (String × List (Char × Char)) :=
  [("alnum", [('0', '9'), ('A', 'Z'), ('a', 'z')]),
   ("alpha", [('A', 'Z'), ('a', 'z')]),
   ("ascii", [('\x00', '\x7f')]),
   ("blank", [('\t', '\t'), (' ', ' ')]),
   ("cntrl", [('\x00', '\x1f'), ('\x7f', '\x7f')]),
   ("digit", [('0', '9')]),
   ("graph", [('!', '~')]),
   ("lower", [('a', 'z')]),
   ("print", [(' ', '~')]),
   ("punct", [('!', '/'), (':', '@'), ('[', '\x60'), ('\x7b', '~')]),
   ("space", [('\t', '\r'), (' ', ' ')]),
   ("upper", [('A', 'Z')]),
   ("word", [('0', '9'), ('A', 'Z'), ('_', '_'), ('a', 'z')]),
   ("xdigit", [('0', '9'), ('A', 'F'), ('a', 'f')])]

/-- Reads a named ASCII class after its opening bracket. -/
def readAsciiClass? : Text → Option (CharSet × Text)
  | ':' :: text =>
      let negated := text.head? = some '^'
      let text := if negated then text.drop 1 else text
      match Escape.splitAt? ':' text with
      | some (name, ']' :: rest) =>
          (asciiClasses.lookup (String.ofList name)).map fun ranges =>
            (CharSet.complementIf negated (ofRanges ranges), rest)
      | _ => none
  | _ => none

/-- Reads a character or an escape. -/
def readItem? (flags : PatternFlags) : Text → Option (Escape × Text)
  | [] => none
  | '\\' :: rest => Escape.read? flags rest
  | c :: rest => some (.char c, rest)

/-- The set that an item stands for by itself. -/
def itemSet? : Escape → Option CharSet
  | .char c => some (CharSet.single c)
  | .set set => some set
  | .check _ => none

/-- Reads a range, or an item that is none. -/
def readRange? (flags : PatternFlags) (text : Text) : Option (CharSet × Text) :=
  match readItem? flags text with
  | none => none
  | some (first, rest) =>
      let rest := flags.skip rest
      let alone := (itemSet? first).map fun set => (set, rest)
      match rest with
      | '-' :: after =>
          match flags.skip after with
          | ']' :: _ | '-' :: _ => alone
          | after =>
              match first, readItem? flags after with
              | .char a, some (.char b, rest) =>
                  if a ≤ b then some (.range a b, rest) else none
              | _, _ => none
      | _ => alone

/-- How a set starts: whether it is negated, and the hyphens and the closing
bracket that stand for themselves there. -/
def readStart (flags : PatternFlags) (text : Text) : Bool × Partial × Text :=
  let text := flags.skip text
  let negated := text.head? = some '^'
  let text := flags.skip (if negated then text.drop 1 else text)
  let afterHyphens := text.dropWhile (· == '-')
  if afterHyphens.length < text.length then
    (negated, Partial.start.push (CharSet.single '-'), afterHyphens)
  else if text.head? = some ']' then
    (negated, Partial.start.push (CharSet.single ']'), text.drop 1)
  else (negated, Partial.start, text)

/-- Reads a set up to its closing bracket.  Sets nested deeper than `fuel` are
not read. -/
def readItems? (flags : PatternFlags) :
    Nat → Partial → Text → Option (CharSet × Text)
  | 0, _, _ => none
  | fuel + 1, read, text =>
      match flags.skip text with
      | [] => none
      | ']' :: rest => some (read.set flags.ignoreCase, rest)
      | '[' :: rest =>
          match readAsciiClass? rest with
          | some (set, rest) => readItems? flags fuel (read.push set) rest
          | none =>
              let (negated, start, rest) := readStart flags rest
              match readItems? flags fuel start rest with
              | none => none
              | some (set, rest) =>
                  let set :=
                    CharSet.complementIf negated (CharSet.caselessIf flags.ignoreCase set)
                  readItems? flags fuel (read.push set) rest
      | c :: rest =>
          match if rest.head? = some c then Operation.ofChar? c else none with
          | some operation =>
              readItems? flags fuel (read.operate flags.ignoreCase operation) (rest.drop 1)
          | none =>
              match readRange? flags (c :: rest) with
              | none => none
              | some (set, rest) => readItems? flags fuel (read.push set) rest

/-- Reads a set after its opening bracket. -/
def read? (flags : PatternFlags) (text : Text) : Option (CharSet × Text) :=
  let (negated, start, rest) := readStart flags text
  (readItems? flags (text.length + 1) start rest).map fun (set, rest) =>
    (CharSet.complementIf negated (CharSet.caselessIf flags.ignoreCase set), rest)

end Bracket

end ModalEditor
