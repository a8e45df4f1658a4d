import ModalEditor.Proofs.Highlight.Lines
import ModalEditor.Proofs.Text.PointShift

namespace ModalEditor

/-!
# The outermost token around a character

A node of a tree is named by its path, the numbers of the children that lead to it from the
root.  The nodes around it are those at the beginnings of the path.  Of the classified nodes
that hold some bytes, the outermost is the one with no classified node around it.

Walking through a tree, stopping at each classified node, finds exactly these, provided that
what is around a node holds its bytes too.  When siblings are in order and do not overlap,
neither do the tokens.
-/

namespace Node

/-- Whether a node holds all bytes from `first` up to `stop`. -/
def Covers (node : Node) (first stop : Nat) : Prop :=
  node.startByte ≤ first ∧ stop ≤ node.stopByte

/-- Whether the bytes and rows of a node are places of a source that name each other. -/
structure FitsIn (node : Node) (source : Text) : Prop where
  startByte : isBoundary source node.startByte = true
  stopByte : isBoundary source node.stopByte = true
  startRow : node.startRow = (bytePointAt source node.startByte).row
  stopRow : node.stopRow = (bytePointAt source node.stopByte).row

instance (node : Node) (source : Text) : Decidable (node.FitsIn source) :=
  decidable_of_iff
    (isBoundary source node.startByte = true ∧ isBoundary source node.stopByte = true ∧
      node.startRow = (bytePointAt source node.startByte).row ∧
      node.stopRow = (bytePointAt source node.stopByte).row)
    ⟨fun ⟨first, stop, firstRow, stopRow⟩ => ⟨first, stop, firstRow, stopRow⟩,
      fun ⟨first, stop, firstRow, stopRow⟩ => ⟨first, stop, firstRow, stopRow⟩⟩

/-- What a parser guarantees of the tree of a source: all nodes fit in the source, children
lie inside the node around them, and siblings are in order and do not overlap. -/
inductive IsTreeOf (source : Text) : Node → Prop where
  | intro {node : Node} (fits : node.FitsIn source)
      (inside : ∀ child ∈ node.children,
        node.startByte ≤ child.startByte ∧ child.stopByte ≤ node.stopByte)
      (ordered : node.children.Pairwise fun a b => a.stopByte ≤ b.startByte)
      (children : ∀ child ∈ node.children, child.IsTreeOf source) : node.IsTreeOf source

theorem IsTreeOf.isNested {source : Text} {node : Node} (h : node.IsTreeOf source) :
    node.IsNested := by
  induction h with
  | intro _ inside _ _ ih => exact .intro inside ih

/-- Of the fields filled before it only matters which they are. -/
theorem placement_congr {filled others : List String} (h : ∀ field, field ∈ filled ↔ field ∈ others)
    (node : Node) (parent : Option String) :
    node.placement parent filled = node.placement parent others := by
  have hSame (field : String) : filled.contains field = others.contains field := by
    rw [Bool.eq_iff_iff, List.contains_iff_mem, List.contains_iff_mem, h]
  simp only [placement, hSame]

end Node

/-- A node and the place where it stands. -/
structure PlacedNode where
  node : Node
  place : Placement

namespace PlacedNode

/-- The root of a tree. -/
def ofRoot (root : Node) : PlacedNode := ⟨root, Placement.root⟩

/-- The kind of token that a node is, if it is classified. -/
def kind? (palette : Palette) (placed : PlacedNode) : Option TokenKind :=
  palette.classify placed.node.kind placed.place

/-- The child with a number.  The siblings before it have filled their fields. -/
def child? (placed : PlacedNode) (i : Nat) : Option PlacedNode :=
  placed.node.children[i]?.map fun child =>
    ⟨child, child.placement (some placed.node.kind)
      ((placed.node.children.take i).filterMap Node.field)⟩

/-- The node at the end of a path. -/
def at? (placed : PlacedNode) : List Nat → Option PlacedNode
  | [] => some placed
  | i :: path => (placed.child? i).bind fun child => child.at? path

/-- Whether the node at the end of a path has no classified node around it. -/
def IsOutermost (placed : PlacedNode) (palette : Palette) (path : List Nat) : Prop :=
  ∀ n < path.length, ∀ outer, placed.at? (path.take n) = some outer →
    outer.kind? palette = none

/-- Whether the outermost classified node around the bytes from `first` up to `stop` is a
token of a kind. -/
def ShowsAt (placed : PlacedNode) (palette : Palette) (first stop : Nat) (kind : TokenKind) :
    Prop :=
  ∃ path inner, placed.at? path = some inner ∧ placed.IsOutermost palette path ∧
    inner.node.Covers first stop ∧ inner.kind? palette = some kind

variable {palette : Palette} {placed inner child : PlacedNode} {path : List Nat} {i : Nat}
  {first stop : Nat} {kind : TokenKind}

theorem mem_children_of_child? (h : placed.child? i = some child) :
    child.node ∈ placed.node.children := by
  obtain ⟨node, hNode, rfl⟩ := Option.map_eq_some_iff.mp h
  exact List.mem_of_getElem? hNode

/-- What holds the bytes of a node holds those of a node inside it. -/
theorem covers_of_at? (hNested : placed.node.IsNested) (h : placed.at? path = some inner)
    (hCovers : inner.node.Covers first stop) : placed.node.Covers first stop := by
  induction path generalizing placed with
  | nil =>
      cases h
      exact hCovers
  | cons i path ih =>
      obtain ⟨child, hChild, hInner⟩ := Option.bind_eq_some_iff.mp h
      have hMem := mem_children_of_child? hChild
      obtain ⟨inside, nested⟩ := hNested
      obtain ⟨hStart, hStop⟩ := ih (nested child.node hMem) hInner
      obtain ⟨hFirst, hLast⟩ := inside child.node hMem
      exact ⟨Nat.le_trans hFirst hStart, Nat.le_trans hStop hLast⟩

theorem isOutermost_cons_iff :
    placed.IsOutermost palette (i :: path) ↔
      placed.kind? palette = none ∧
        ∀ child, placed.child? i = some child → child.IsOutermost palette path := by
  constructor
  · intro h
    refine ⟨h 0 (Nat.succ_pos _) placed rfl, fun child hChild n hn outer hOuter => ?_⟩
    refine h (n + 1) (Nat.succ_lt_succ hn) outer ?_
    rw [List.take_succ_cons, at?, hChild]
    exact hOuter
  · rintro ⟨hNone, hChildren⟩ n hn outer hOuter
    cases n with
    | zero =>
        cases hOuter
        exact hNone
    | succ n =>
        obtain ⟨child, hChild, hInner⟩ := Option.bind_eq_some_iff.mp hOuter
        exact hChildren child hChild n (Nat.lt_of_succ_lt_succ hn) outer hInner

/-- A classified node is the outermost one of those inside it. -/
theorem showsAt_iff_of_kind?_eq_some {other : TokenKind} (h : placed.kind? palette = some other) :
    placed.ShowsAt palette first stop kind ↔
      placed.node.Covers first stop ∧ other = kind := by
  constructor
  · rintro ⟨path, inner, hInner, hOutermost, hCovers, hKind⟩
    cases path with
    | nil =>
        cases hInner
        exact ⟨hCovers, Option.some.inj (h.symm.trans hKind)⟩
    | cons i path =>
        have hNone := (isOutermost_cons_iff.mp hOutermost).1
        rw [h] at hNone
        cases hNone
  · rintro ⟨hCovers, rfl⟩
    exact ⟨[], placed, rfl, fun n hn => absurd hn (Nat.not_lt_zero n), hCovers, h⟩

/-- Through a node that is not classified one of its children shows. -/
theorem showsAt_iff_of_kind?_eq_none (h : placed.kind? palette = none) :
    placed.ShowsAt palette first stop kind ↔
      ∃ i child, placed.child? i = some child ∧ child.ShowsAt palette first stop kind := by
  constructor
  · rintro ⟨path, inner, hInner, hOutermost, hCovers, hKind⟩
    cases path with
    | nil =>
        cases hInner
        rw [h] at hKind
        cases hKind
    | cons i path =>
        obtain ⟨child, hChild, hPath⟩ := Option.bind_eq_some_iff.mp hInner
        have hRest := (isOutermost_cons_iff.mp hOutermost).2 child hChild
        exact ⟨i, child, hChild, path, inner, hPath, hRest, hCovers, hKind⟩
  · rintro ⟨i, child, hChild, path, inner, hPath, hOutermost, hCovers, hKind⟩
    refine ⟨i :: path, inner, by rw [at?, hChild]; exact hPath, ?_, hCovers, hKind⟩
    refine isOutermost_cons_iff.mpr ⟨h, fun other hOther => ?_⟩
    obtain rfl : child = other := Option.some.inj (hChild.symm.trans hOther)
    exact hOutermost

/-- Around bytes that some classified node holds there is an outermost one. -/
theorem exists_showsAt (hNested : placed.node.IsNested) (h : placed.at? path = some inner)
    (hCovers : inner.node.Covers first stop) (hKind : inner.kind? palette = some kind) :
    ∃ outermost, placed.ShowsAt palette first stop outermost := by
  induction path generalizing placed with
  | nil =>
      cases h
      exact ⟨kind, (showsAt_iff_of_kind?_eq_some hKind).mpr ⟨hCovers, rfl⟩⟩
  | cons i path ih =>
      have hAround := covers_of_at? hNested h hCovers
      cases hPlaced : placed.kind? palette with
      | some other => exact ⟨other, (showsAt_iff_of_kind?_eq_some hPlaced).mpr ⟨hAround, rfl⟩⟩
      | none =>
          obtain ⟨child, hChild, hInner⟩ := Option.bind_eq_some_iff.mp h
          obtain ⟨-, nested⟩ := hNested
          obtain ⟨outermost, hShows⟩ :=
            ih (nested child.node (mem_children_of_child? hChild)) hInner
          exact ⟨outermost, (showsAt_iff_of_kind?_eq_none hPlaced).mpr ⟨i, child, hChild, hShows⟩⟩

/-- Nothing shows at bytes around which nothing is classified. -/
theorem forall_not_showsAt_iff (hNested : placed.node.IsNested) :
    (∀ kind, ¬placed.ShowsAt palette first stop kind) ↔
      ∀ path inner, placed.at? path = some inner → inner.node.Covers first stop →
        inner.kind? palette = none := by
  constructor
  · intro hNothing path inner hInner hCovers
    cases hKind : inner.kind? palette with
    | none => rfl
    | some kind =>
        obtain ⟨outermost, hShows⟩ := exists_showsAt hNested hInner hCovers hKind
        exact absurd hShows (hNothing outermost)
  · rintro hNone kind ⟨path, inner, hInner, -, hCovers, hKind⟩
    rw [hNone path inner hInner hCovers] at hKind
    cases hKind

end PlacedNode

namespace Node

variable {palette : Palette} {start stop : Nat}

/-- The tokens among children are those of each child at its place. -/
theorem mem_tokensAmong_iff {parent : String} {filled : List String} {children : List Node}
    {token : Token} :
    token ∈ tokensAmong palette start stop parent filled children ↔
      ∃ (i : Nat) (child : Node), children[i]? = some child ∧
        token ∈ child.tokens palette start stop
          (child.placement (some parent) (filled ++ (children.take i).filterMap Node.field)) := by
  induction children generalizing filled with
  | nil => simp [tokensAmong]
  | cons node siblings ih =>
      have hPlace (i : Nat) (child : Node) :
          child.placement (some parent)
              (filled ++ ((node :: siblings).take (i + 1)).filterMap Node.field) =
            child.placement (some parent)
              ((node.field.toList ++ filled) ++ (siblings.take i).filterMap Node.field) := by
        refine placement_congr (fun field => ?_) child (some parent)
        cases hField : node.field <;> simp [hField, or_left_comm]
      rw [tokensAmong, List.mem_append, ih]
      constructor
      · rintro (hNode | ⟨i, child, hChild, hToken⟩)
        · exact ⟨0, node, rfl, by simpa using hNode⟩
        · exact ⟨i + 1, child, hChild, (hPlace i child).symm ▸ hToken⟩
      · rintro ⟨i, child, hChild, hToken⟩
        cases i with
        | zero =>
            cases hChild
            exact Or.inl (by simpa using hToken)
        | succ i => exact Or.inr ⟨i, child, hChild, hPlace i child ▸ hToken⟩

/-- The tokens that hold some bytes are what shows there. -/
theorem exists_mem_tokens_iff {node : Node} (hNested : node.IsNested) {first last : Nat}
    (hStart : start ≤ first) (hOrder : first < last) (hStop : last ≤ stop) (place : Placement)
    (kind : TokenKind) :
    (∃ token ∈ node.tokens palette start stop place,
        token.node.Covers first last ∧ token.kind = kind) ↔
      (⟨node, place⟩ : PlacedNode).ShowsAt palette first last kind := by
  induction hNested generalizing place with
  | @intro node inside nested ih =>
      have hNode : node.IsNested := .intro inside nested
      cases hTouches : node.touches start stop with
      | false =>
          -- A node without a byte in the stretch does not hold these, nor does anything in it.
          rw [tokens_of_touches_eq_false hTouches]
          constructor
          · rintro ⟨token, hToken, -⟩
            cases hToken
          · rintro ⟨path, inner, hInner, -, hCovers, -⟩
            obtain ⟨hFirst, hLast⟩ := PlacedNode.covers_of_at? hNode hInner hCovers
            have hTrue : node.touches start stop = true := by
              simp only [touches, Bool.and_eq_true, decide_eq_true_eq] at *
              omega
            rw [hTouches] at hTrue
            cases hTrue
      | true =>
          rw [tokens_eq, if_pos hTouches]
          cases hKind : palette.classify node.kind place with
          | some other =>
              have hPlaced : (⟨node, place⟩ : PlacedNode).kind? palette = some other := hKind
              rw [PlacedNode.showsAt_iff_of_kind?_eq_some hPlaced]
              simp
          | none =>
              have hPlaced : (⟨node, place⟩ : PlacedNode).kind? palette = none := hKind
              rw [PlacedNode.showsAt_iff_of_kind?_eq_none hPlaced]
              constructor
              · rintro ⟨token, hToken, hCovers⟩
                obtain ⟨i, child, hChild, hInner⟩ := mem_tokensAmong_iff.mp hToken
                have hShows := (ih child (List.mem_of_getElem? hChild) _).mp
                  ⟨token, hInner, hCovers⟩
                exact ⟨i, _, by rw [PlacedNode.child?, hChild]; rfl, hShows⟩
              · rintro ⟨i, placed, hPlaced, hShows⟩
                obtain ⟨child, hChild, rfl⟩ := Option.map_eq_some_iff.mp hPlaced
                obtain ⟨token, hToken, hCovers⟩ :=
                  (ih child (List.mem_of_getElem? hChild) _).mpr hShows
                exact ⟨token, mem_tokensAmong_iff.mpr ⟨i, child, hChild, hToken⟩, hCovers⟩

/-- The tokens of a tree fit in its source. -/
theorem IsTreeOf.fitsIn_of_mem_tokens {source : Text} {node : Node} (h : node.IsTreeOf source)
    {place : Placement} {token : Token} (hToken : token ∈ node.tokens palette start stop place) :
    token.node.FitsIn source := by
  induction h generalizing place with
  | intro fits _ _ _ ih =>
      rw [tokens_eq] at hToken
      split at hToken
      · split at hToken
        · obtain rfl := List.mem_singleton.mp hToken
          exact fits
        · obtain ⟨child, hChild, place, hInner⟩ := exists_of_mem_tokensAmong hToken
          exact ih child hChild hInner
      · cases hToken

/-- The tokens among siblings in order are in order. -/
theorem pairwise_tokensAmong {children : List Node} (hNested : ∀ child ∈ children, child.IsNested)
    (hOrdered : children.Pairwise fun a b => a.stopByte ≤ b.startByte)
    (hChildren : ∀ child ∈ children, ∀ place,
      (child.tokens palette start stop place).Pairwise
        fun a b => a.node.stopByte ≤ b.node.startByte)
    (parent : String) (filled : List String) :
    (tokensAmong palette start stop parent filled children).Pairwise
      fun a b => a.node.stopByte ≤ b.node.startByte := by
  induction children generalizing filled with
  | nil =>
      rw [tokensAmong]
      exact List.Pairwise.nil
  | cons child siblings ih =>
      obtain ⟨hFirst, hRest⟩ := List.pairwise_cons.mp hOrdered
      rw [tokensAmong, List.pairwise_append]
      refine ⟨hChildren child List.mem_cons_self _, ?_, fun a ha b hb => ?_⟩
      · exact ih (fun other hOther => hNested other (List.mem_cons_of_mem child hOther)) hRest
          (fun other hOther => hChildren other (List.mem_cons_of_mem child hOther)) _
      · -- Each lies inside its own sibling.
        obtain ⟨sibling, hSibling, place, hInner⟩ := exists_of_mem_tokensAmong hb
        have hBefore := (hNested child List.mem_cons_self).inside_of_mem_tokens ha
        have hAfter := (hNested sibling (List.mem_cons_of_mem child hSibling)).inside_of_mem_tokens
          hInner
        have hOrder := hFirst sibling hSibling
        omega

/-- The tokens of a tree are in order and do not overlap. -/
theorem IsTreeOf.pairwise_tokens {source : Text} {node : Node} (h : node.IsTreeOf source)
    (place : Placement) :
    (node.tokens palette start stop place).Pairwise
      fun a b => a.node.stopByte ≤ b.node.startByte := by
  induction h generalizing place with
  | @intro node fits inside ordered children ih =>
      rw [tokens_eq]
      split
      · split
        · exact List.pairwise_singleton _ _
        · exact pairwise_tokensAmong (fun child hChild => (children child hChild).isNested)
            ordered ih node.kind []
      · exact List.Pairwise.nil

end Node

end ModalEditor
