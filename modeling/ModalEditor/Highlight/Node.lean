import ModalEditor.Highlight.Token

namespace ModalEditor

/-!
# Syntax trees

A parser hands over a tree of nodes.  Each covers a stretch of bytes of the
text it was made from, and knows in which rows it starts and ends.  The tokens
of a tree are its outermost classified nodes, in order.
-/

/-- A node of a syntax tree. -/
structure Node where
  kind : String
  /-- The field that the node fills in the node around it. -/
  field : Option String
  startByte : Nat
  stopByte : Nat
  startRow : Nat
  stopRow : Nat
  children : List Node
  deriving Repr, Inhabited

namespace Node

/-- Whether a node shares a byte with the stretch from `start` to `stop`. -/
def touches (node : Node) (start stop : Nat) : Bool :=
  node.stopByte > start && node.startByte < stop

/-- The place of a node among its siblings, after those that fill the fields
`filled`. -/
def placement (node : Node) (parent : Option String) (filled : List String) : Placement :=
  ⟨parent, node.field.filter fun field => !filled.contains field⟩

end Node

/-- A node that is a token. -/
structure Token where
  node : Node
  kind : TokenKind
  deriving Repr, Inhabited

mutual

/-- The tokens of a tree that share a byte with a stretch.  Nodes inside a token
are not looked at. -/
def Node.tokens (palette : Palette) (start stop : Nat) (place : Placement) : Node → List Token
  | ⟨kind, field, startByte, stopByte, startRow, stopRow, children⟩ =>
      if stopByte > start && startByte < stop then
        match palette.classify kind place with
        | some token =>
            [⟨⟨kind, field, startByte, stopByte, startRow, stopRow, children⟩, token⟩]
        | none => Node.tokensAmong palette start stop kind [] children
      else []

/-- The tokens of the children of a node of kind `parent`, after children that
fill the fields `filled`. -/
def Node.tokensAmong (palette : Palette) (start stop : Nat) (parent : String)
    (filled : List String) : List Node → List Token
  | [] => []
  | node :: siblings =>
      Node.tokens palette start stop (node.placement (some parent) filled) node ++
        Node.tokensAmong palette start stop parent (node.field.toList ++ filled) siblings

end

end ModalEditor
