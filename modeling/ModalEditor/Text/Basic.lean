namespace ModalEditor

/-!
# Text as a sequence of characters

A text is the list of its characters.  Only the line feed separates lines, so
`splitLines` and `joinLines` are inverse to each other, and no other control
character breaks a line.  Lengths are counted in characters; `byteLength`
counts the bytes of the UTF-8 form, which is what incremental parsing and the
undo history measure by.
-/

/-- The characters of a buffer, a query or a register, in order. -/
abbrev Text := List Char

/-- The character that separates lines. -/
def lineFeed : Char := '\n'

/-- Number of bytes in the UTF-8 form of a text. -/
def byteLength : Text → Nat
  | [] => 0
  | c :: rest => c.utf8Size + byteLength rest

@[simp]
theorem byteLength_nil : byteLength [] = 0 := rfl

@[simp]
theorem byteLength_cons (c : Char) (text : Text) :
    byteLength (c :: text) = c.utf8Size + byteLength text := rfl

@[simp]
theorem byteLength_append (first second : Text) :
    byteLength (first ++ second) = byteLength first + byteLength second := by
  induction first with
  | nil => simp
  | cons c first ih => simp [ih, Nat.add_assoc]

/-- The lines between the line feeds.  There is always at least one, and a
trailing line feed leaves an empty last line. -/
def splitLines : Text → List Text
  | [] => [[]]
  | c :: rest =>
      if c = lineFeed then [] :: splitLines rest
      else
        match splitLines rest with
        | [] => [[c]]
        | line :: lines => (c :: line) :: lines

/-- The text whose lines are the given ones. -/
def joinLines : List Text → Text
  | [] => []
  | [line] => line
  | line :: next :: lines => line ++ lineFeed :: joinLines (next :: lines)

theorem splitLines_ne_nil (text : Text) : splitLines text ≠ [] := by
  cases text with
  | nil => simp [splitLines]
  | cons c rest =>
      simp only [splitLines]
      split
      · simp
      · split <;> simp

theorem joinLines_cons_cons (line : Text) {lines : List Text} (h : lines ≠ []) :
    joinLines (line :: lines) = line ++ lineFeed :: joinLines lines := by
  cases lines with
  | nil => exact absurd rfl h
  | cons next lines => rfl

/-- Splitting into lines loses nothing. -/
@[simp]
theorem joinLines_splitLines (text : Text) : joinLines (splitLines text) = text := by
  induction text with
  | nil => rfl
  | cons c rest ih =>
      simp only [splitLines]
      by_cases hFeed : c = lineFeed
      · rw [if_pos hFeed, joinLines_cons_cons _ (splitLines_ne_nil rest), ih, hFeed]
        rfl
      · rw [if_neg hFeed]
        cases hLines : splitLines rest with
        | nil => exact absurd hLines (splitLines_ne_nil rest)
        | cons line lines =>
            rw [hLines] at ih
            cases lines with
            | nil => simpa [joinLines] using ih
            | cons next lines => simpa [joinLines] using ih

/-- Index of the last line, zero when there is none. -/
def lastLine (lines : List Text) : Nat :=
  lines.length - 1

/-- The line with the given number, empty when there is none. -/
def lineAt (lines : List Text) (line : Nat) : Text :=
  lines.getD line []

/-- Length in characters of a line, zero when there is none. -/
def lineLength (lines : List Text) (line : Nat) : Nat :=
  (lineAt lines line).length

/-- Each line followed by a line feed, the form in which whole lines are kept
in a register. -/
def wholeLinesText (lines : List Text) : Text :=
  joinLines lines ++ [lineFeed]

end ModalEditor
