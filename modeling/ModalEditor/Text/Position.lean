import ModalEditor.Text.Basic

namespace ModalEditor

/-!
# Offsets, points and positions

A place in a text is named in two ways: by an offset from the start, and by a
row with a column in it.  `Position` carries both.  Offsets and columns of a
position count characters; `bytePointAt` is the same conversion counted in
bytes.  All conversions clamp: an offset past the end means the end, a line
past the end means the last line, a column past the end of its line means that
end.
-/

/-- A row and a column in it, both from zero. -/
structure Point where
  row : Nat
  column : Nat
  deriving DecidableEq, Repr, Inhabited

namespace Point

/-- The first place of a text. -/
def origin : Point := ⟨0, 0⟩

/-- The place after one more character that takes `width` columns. -/
def step (width : Nat) (p : Point) (c : Char) : Point :=
  if c = lineFeed then ⟨p.row + 1, 0⟩ else ⟨p.row, p.column + width⟩

end Point

/-- The point of a character offset, counting characters. -/
def pointAt (text : Text) (offset : Nat) : Point :=
  (text.take offset).foldl (Point.step 1) Point.origin

/-- Moves a point over the first `count` bytes of a text.  The bytes of a
character that is cut short count as columns. -/
def Point.afterBytes (p : Point) : Text → Nat → Point
  | [], _ => p
  | c :: rest, count =>
      if count < c.utf8Size then ⟨p.row, p.column + count⟩
      else (p.step c.utf8Size c).afterBytes rest (count - c.utf8Size)

/-- The point of a byte offset, counting the column in bytes. -/
def bytePointAt (text : Text) (offset : Nat) : Point :=
  Point.origin.afterBytes text offset

/-- Byte offset at which a character offset lies, at most the length. -/
def byteOffset (text : Text) (offset : Nat) : Nat :=
  byteLength (text.take offset)

/-- Number of characters that start before a byte offset. -/
def charOffset : Text → Nat → Nat
  | [], _ => 0
  | c :: rest, bytes =>
      if bytes = 0 then 0 else 1 + charOffset rest (bytes - c.utf8Size)

/-- Number of characters before a line, each line feed included. -/
def lineStart : List Text → Nat → Nat
  | [], _ => 0
  | _ :: _, 0 => 0
  | text :: rest, line + 1 => text.length + 1 + lineStart rest line

/-- Character offset of a line and a column, both clamped. -/
def offsetAt (lines : List Text) (line column : Nat) : Nat :=
  if lines.isEmpty then 0
  else
    let line := min line (lastLine lines)
    lineStart lines line + min column (lineLength lines line)

/-- A place in a text: its line, its column and its offset, in characters.
The three belong together only for the text the position was taken in. -/
structure Position where
  line : Nat
  column : Nat
  offset : Nat
  deriving DecidableEq, Repr, Inhabited

namespace Position

/-- The start of every text. -/
def origin : Position := ⟨0, 0, 0⟩

/-- The position of a character offset. -/
def ofOffset (text : Text) (offset : Nat) : Position :=
  let point := pointAt text offset
  ⟨point.row, point.column, min offset text.length⟩

/-- The position of a line and a column. -/
def ofLineColumn (lines : List Text) (line column : Nat) : Position :=
  let line := min line (lastLine lines)
  let column := min column (lineLength lines line)
  ⟨line, column, offsetAt lines line column⟩

/-- Walks down the lines from number `line`, with `remaining` characters left
to pass, to the line that holds the place looked for.  Past the last line the
result is the end of the text. -/
def walkLines (all : List Text) (offset : Nat) : List Text → Nat → Nat → Position
  | [], _, _ =>
      let line := lastLine all
      let column := lineLength all line
      ⟨line, column, offsetAt all line column⟩
  | text :: rest, line, remaining =>
      if remaining ≤ text.length then ⟨line, remaining, offset⟩
      else walkLines all offset rest (line + 1) (remaining - (text.length + 1))

/-- The position of a character offset in a text given by its lines. -/
def ofOffsetInLines (lines : List Text) (offset : Nat) : Position :=
  walkLines lines offset lines 0 offset

end Position

end ModalEditor
