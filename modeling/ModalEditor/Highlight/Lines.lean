import ModalEditor.Highlight.Node
import ModalEditor.Text.Position
import ModalEditor.Viewport

namespace ModalEditor

/-!
# Highlighted lines

A line is highlighted in spans of columns, counted in characters.  A token that
goes over several lines gives each of them the part that lies on it.
-/

/-- The columns from `startColumn` up to `stopColumn` of a line. -/
structure TokenSpan where
  startColumn : Nat
  stopColumn : Nat
  kind : TokenKind
  deriving DecidableEq, Repr, Inhabited

/-- The spans of one line. -/
structure LineTokens where
  line : Nat
  spans : List TokenSpan
  deriving DecidableEq, Repr, Inhabited

namespace LineTokens

/-- The kind of the token at a column. -/
def kindAt (tokens : LineTokens) (column : Nat) : Option TokenKind :=
  (tokens.spans.find? fun span =>
    span.startColumn ≤ column && column < span.stopColumn).map (·.kind)

end LineTokens

/-- A line of a source: its number, the byte at which it starts, and its
characters. -/
structure SourceLine where
  number : Nat
  startByte : Nat
  text : Text
  deriving DecidableEq, Repr, Inhabited

namespace SourceLine

/-- The byte after the last of the line. -/
def stopByte (line : SourceLine) : Nat :=
  line.startByte + byteLength line.text

/-- The part of a token that lies on the line, if any does. -/
def span? (line : SourceLine) (token : Token) : Option TokenSpan :=
  let first := max token.node.startByte line.startByte - line.startByte
  let stop := min token.node.stopByte line.stopByte - line.startByte
  if token.node.startRow ≤ line.number && line.number ≤ token.node.stopRow && first < stop then
    some ⟨charOffset line.text first, charOffset line.text stop, token.kind⟩
  else none

/-- The spans of the line, from left to right. -/
def tokens (line : SourceLine) (tokens : List Token) : LineTokens :=
  ⟨line.number,
    (tokens.filterMap line.span?).mergeSort fun a b => a.startColumn ≤ b.startColumn⟩

end SourceLine

/-- The lines of a source, numbered from `number` on, the first of which starts
at a byte. -/
def sourceLinesFrom (number startByte : Nat) : List Text → List SourceLine
  | [] => []
  | text :: rest =>
      ⟨number, startByte, text⟩ ::
        sourceLinesFrom (number + 1) (startByte + byteLength text + 1) rest

/-- The lines of a source. -/
def sourceLines (source : Text) : List SourceLine :=
  sourceLinesFrom 0 0 (splitLines source)

/-- The lines of a range, highlighted by the tokens of a tree of the source.
Only the part of the tree that these lines cover is looked at.  Without a tree
the lines have no spans. -/
def highlightLines (palette : Palette) (tree : Option Node) (source : Text)
    (range : LineRange) : List LineTokens :=
  let lines := (sourceLines source).filter fun line => range.contains line.number
  match lines.head?, lines.getLast?, tree with
  | some first, some last, some root =>
      let tokens := root.tokens palette first.startByte last.stopByte Placement.root
      lines.map fun line => line.tokens tokens
  | _, _, _ => lines.map fun line => line.tokens []

end ModalEditor
