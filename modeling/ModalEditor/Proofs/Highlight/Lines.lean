import ModalEditor.Highlight.State
import ModalEditor.Proofs.Viewport

namespace ModalEditor

/-!
# Highlighting some lines and highlighting all of them

Only the part of a tree is looked at that shares a byte with the lines asked for.
Nothing is lost by that when the bytes of every node lie inside those of the node
around it: a part that is skipped has no byte on any of these lines, and neither has
anything inside it.  So the lines of a range are highlighted as they are among all
lines, whatever the range is.
-/

namespace Node

/-- Whether the bytes of every node of a tree lie inside those of the node around
it. -/
inductive IsNested : Node → Prop where
  | intro {node : Node}
      (inside : ∀ child ∈ node.children,
        node.startByte ≤ child.startByte ∧ child.stopByte ≤ node.stopByte)
      (nested : ∀ child ∈ node.children, child.IsNested) : node.IsNested

variable {palette : Palette} {start stop : Nat}

theorem tokens_eq (palette : Palette) (start stop : Nat) (place : Placement) (node : Node) :
    node.tokens palette start stop place =
      if node.touches start stop then
        match palette.classify node.kind place with
        | some kind => [⟨node, kind⟩]
        | none => tokensAmong palette start stop node.kind [] node.children
      else [] := by
  cases node
  rw [tokens]
  rfl

theorem tokens_of_touches_eq_false {node : Node} (h : node.touches start stop = false)
    (place : Placement) : node.tokens palette start stop place = [] := by
  rw [tokens_eq, h]
  rfl

/-- A token among children is a token of one of them. -/
theorem exists_of_mem_tokensAmong {parent : String} {filled : List String}
    {children : List Node} {token : Token}
    (h : token ∈ tokensAmong palette start stop parent filled children) :
    ∃ child ∈ children, ∃ place, token ∈ child.tokens palette start stop place := by
  induction children generalizing filled with
  | nil =>
      rw [tokensAmong] at h
      cases h
  | cons node siblings ih =>
      rw [tokensAmong, List.mem_append] at h
      rcases h with hNode | hSiblings
      · exact ⟨node, List.mem_cons_self, _, hNode⟩
      · obtain ⟨child, hChild, place, hToken⟩ := ih hSiblings
        exact ⟨child, List.mem_cons_of_mem node hChild, place, hToken⟩

/-- The tokens of a node lie inside it. -/
theorem IsNested.inside_of_mem_tokens {node : Node} (h : node.IsNested) {place : Placement}
    {token : Token} (hToken : token ∈ node.tokens palette start stop place) :
    node.startByte ≤ token.node.startByte ∧ token.node.stopByte ≤ node.stopByte := by
  induction h generalizing place with
  | @intro node inside nested ih =>
      rw [tokens_eq] at hToken
      split at hToken
      · split at hToken
        · obtain rfl := List.mem_singleton.mp hToken
          exact ⟨Nat.le_refl _, Nat.le_refl _⟩
        · obtain ⟨child, hChild, place, hInner⟩ := exists_of_mem_tokensAmong hToken
          have hInside := inside child hChild
          have hBounds := ih child hChild hInner
          omega
      · cases hToken

end Node

namespace SourceLine

variable {line : SourceLine} {palette : Palette} {start stop otherStart otherStop : Nat}

/-- A token without a byte on the line has no part on it. -/
theorem span?_eq_none {token : Token}
    (h : token.node.stopByte ≤ line.startByte ∨ line.stopByte ≤ token.node.startByte) :
    line.span? token = none := by
  have hEmpty : ¬max token.node.startByte line.startByte - line.startByte <
      min token.node.stopByte line.stopByte - line.startByte := by
    omega
  simp [span?, hEmpty]

/-- Whether a stretch of bytes holds the whole line. -/
def LiesIn (line : SourceLine) (start stop : Nat) : Prop :=
  start ≤ line.startByte ∧ line.stopByte ≤ stop

/-- A node that shares no byte with a stretch around the line has no token with a part
on it, whatever stretch these tokens are looked for in. -/
theorem filterMap_span?_eq_nil {node : Node} (hNested : node.IsNested)
    (hLine : line.LiesIn start stop) (hTouches : node.touches start stop = false)
    (place : Placement) :
    (node.tokens palette otherStart otherStop place).filterMap line.span? = [] := by
  rw [List.filterMap_eq_nil_iff]
  intro token hToken
  obtain ⟨hStart, hStop⟩ := hNested.inside_of_mem_tokens hToken
  obtain ⟨hFirst, hLast⟩ := hLine
  have hOutside : node.stopByte ≤ start ∨ stop ≤ node.startByte := by
    simpa [Node.touches, Nat.not_lt, Classical.or_iff_not_imp_left] using hTouches
  refine span?_eq_none ?_
  omega

/-- Where each child has the same parts on the line in two stretches, so have all
together. -/
theorem filterMap_span?_tokensAmong_eq {children : List Node}
    (h : ∀ child ∈ children, ∀ place,
      (child.tokens palette start stop place).filterMap line.span? =
        (child.tokens palette otherStart otherStop place).filterMap line.span?)
    (parent : String) (filled : List String) :
    (Node.tokensAmong palette start stop parent filled children).filterMap line.span? =
      (Node.tokensAmong palette otherStart otherStop parent filled children).filterMap
        line.span? := by
  induction children generalizing filled with
  | nil => rw [Node.tokensAmong, Node.tokensAmong]
  | cons child siblings ih =>
      have hSiblings := ih fun other hOther => h other (List.mem_cons_of_mem child hOther)
      rw [Node.tokensAmong, Node.tokensAmong, List.filterMap_append, List.filterMap_append,
        h child List.mem_cons_self, hSiblings]

/-- Which stretch around the line the tokens are looked for in makes no difference to
their parts on the line. -/
theorem filterMap_span?_tokens_eq {node : Node} (hNested : node.IsNested)
    (hLine : line.LiesIn start stop) (hOther : line.LiesIn otherStart otherStop)
    (place : Placement) :
    (node.tokens palette start stop place).filterMap line.span? =
      (node.tokens palette otherStart otherStop place).filterMap line.span? := by
  induction hNested generalizing place with
  | @intro node inside nested ih =>
      have hNode : node.IsNested := .intro inside nested
      cases hTouches : node.touches start stop with
      | false =>
          rw [Node.tokens_of_touches_eq_false hTouches,
            filterMap_span?_eq_nil hNode hLine hTouches]
          rfl
      | true =>
          cases hOtherTouches : node.touches otherStart otherStop with
          | false =>
              rw [Node.tokens_of_touches_eq_false hOtherTouches,
                filterMap_span?_eq_nil hNode hOther hOtherTouches]
              rfl
          | true =>
              rw [Node.tokens_eq, Node.tokens_eq, if_pos hTouches, if_pos hOtherTouches]
              cases palette.classify node.kind place with
              | some kind => rfl
              | none => exact filterMap_span?_tokensAmong_eq ih node.kind []

theorem tokens_eq_of_liesIn {node : Node} (hNested : node.IsNested)
    (hLine : line.LiesIn start stop) (hOther : line.LiesIn otherStart otherStop)
    (place : Placement) :
    line.tokens (node.tokens palette start stop place) =
      line.tokens (node.tokens palette otherStart otherStop place) := by
  unfold SourceLine.tokens
  rw [filterMap_span?_tokens_eq hNested hLine hOther]

end SourceLine

/-! ## The lines of a source -/

theorem sourceLinesFrom_bounds {number startByte : Nat} {texts : List Text} {line : SourceLine}
    (h : line ∈ sourceLinesFrom number startByte texts) :
    number ≤ line.number ∧ line.number < number + texts.length ∧
      startByte ≤ line.startByte ∧ line.stopByte ≤ startByte + byteLength (joinLines texts) := by
  induction texts generalizing number startByte with
  | nil => cases h
  | cons text rest ih =>
      rw [sourceLinesFrom] at h
      rcases List.mem_cons.mp h with rfl | hRest
      · refine ⟨Nat.le_refl _, by simp, Nat.le_refl _, ?_⟩
        show startByte + byteLength text ≤ _
        cases rest with
        | nil => exact Nat.le_refl _
        | cons next rest =>
            rw [joinLines_cons_cons text (List.cons_ne_nil next rest), byteLength_append]
            omega
      · obtain ⟨hNumber, hCount, hStart, hStop⟩ := ih hRest
        cases rest with
        | nil => cases hRest
        | cons next rest =>
            rw [joinLines_cons_cons text (List.cons_ne_nil next rest), byteLength_append,
              byteLength_cons, show lineFeed.utf8Size = 1 from rfl]
            rw [List.length_cons]
            omega

/-- A line ends before the next one starts. -/
theorem pairwise_sourceLinesFrom (number startByte : Nat) (texts : List Text) :
    (sourceLinesFrom number startByte texts).Pairwise fun a b => a.stopByte ≤ b.startByte := by
  induction texts generalizing number startByte with
  | nil => exact List.Pairwise.nil
  | cons text rest ih =>
      rw [sourceLinesFrom, List.pairwise_cons]
      refine ⟨fun line hLine => ?_, ih _ _⟩
      obtain ⟨-, -, hStart, -⟩ := sourceLinesFrom_bounds hLine
      show startByte + byteLength text ≤ line.startByte
      omega

/-- Lines in order lie between the start of the first and the end of the last. -/
theorem SourceLine.liesIn_of_mem {lines : List SourceLine}
    (hOrder : lines.Pairwise fun a b => a.stopByte ≤ b.startByte) {first last line : SourceLine}
    (hFirst : lines.head? = some first) (hLast : lines.getLast? = some last)
    (hLine : line ∈ lines) : line.LiesIn first.startByte last.stopByte := by
  have hExtent (line : SourceLine) : line.startByte ≤ line.stopByte := Nat.le_add_right _ _
  constructor
  · obtain ⟨rest, rfl⟩ := List.head?_eq_some_iff.mp hFirst
    rcases List.mem_cons.mp hLine with rfl | hRest
    · exact Nat.le_refl _
    · exact Nat.le_trans (hExtent first) ((List.pairwise_cons.mp hOrder).1 line hRest)
  · obtain ⟨before, rfl⟩ := List.getLast?_eq_some_iff.mp hLast
    rcases List.mem_append.mp hLine with hBefore | hSelf
    · have hStop := (List.pairwise_append.mp hOrder).2.2 line hBefore last List.mem_cons_self
      exact Nat.le_trans hStop (hExtent last)
    · obtain rfl := List.mem_singleton.mp hSelf
      exact Nat.le_refl _

theorem SourceLine.liesIn_source {source : Text} {line : SourceLine}
    (h : line ∈ sourceLines source) : line.LiesIn 0 (byteLength source) := by
  obtain ⟨-, -, hStart, hStop⟩ := sourceLinesFrom_bounds h
  rw [joinLines_splitLines, Nat.zero_add] at hStop
  exact ⟨hStart, hStop⟩

/-- All tokens of a tree of a source. -/
def allTokens (palette : Palette) (tree : Option Node) (source : Text) : List Token :=
  tree.elim [] fun root => root.tokens palette 0 (byteLength source) Placement.root

/-- Looking only at the part of the tree that the lines cover does not change what is
found on them. -/
theorem highlightLines_eq_map {tree : Option Node} (hNested : ∀ root ∈ tree, root.IsNested)
    (palette : Palette) (source : Text) (range : LineRange) :
    highlightLines palette tree source range =
      ((sourceLines source).filter fun line => range.contains line.number).map fun line =>
        line.tokens (allTokens palette tree source) := by
  unfold highlightLines
  have hOrder := (pairwise_sourceLinesFrom 0 0 (splitLines source)).filter
    fun line => range.contains line.number
  have hSource (line : SourceLine)
      (hLine : line ∈ (sourceLines source).filter fun line => range.contains line.number) :
      line.LiesIn 0 (byteLength source) :=
    SourceLine.liesIn_source (List.mem_filter.mp hLine).1
  change ((sourceLines source).filter _).Pairwise _ at hOrder
  generalize (sourceLines source).filter (fun line => range.contains line.number) = lines
    at hOrder hSource ⊢
  cases tree with
  | none =>
      dsimp only
      split
      next hRoot => cases hRoot
      next => rfl
  | some root =>
      dsimp only
      split
      next first last other hFirst hLast hRoot =>
        cases hRoot
        refine List.map_congr_left fun line hLine => ?_
        exact SourceLine.tokens_eq_of_liesIn (hNested root rfl)
          (SourceLine.liesIn_of_mem hOrder hFirst hLast hLine) (hSource line hLine) _
      next hNone =>
        -- Without a first line there is no line at all.
        cases lines with
        | nil => rfl
        | cons first rest =>
            exact absurd rfl (hNone first _ root rfl List.getLast?_cons)

theorem contains_whole {source : Text} {line : SourceLine} (h : line ∈ sourceLines source) :
    (LineRange.whole (splitLines source).length).contains line.number = true := by
  obtain ⟨-, hNumber, -, -⟩ := sourceLinesFrom_bounds h
  rw [LineRange.contains_iff]
  exact ⟨Nat.zero_le _, by simp only [LineRange.whole]; omega⟩

/-- The lines of a range are highlighted exactly as they are among all lines, with the
same spans in the same order, for every language, every source, every range and every
tree in which the bytes of a node lie inside those of the node around it. -/
theorem Highlighting.lines_eq_filter_whole (state : Highlighting)
    (hNested : ∀ root ∈ state.tree, root.IsNested) (source : Text) (range : LineRange) :
    state.lines source range =
      (state.lines source (LineRange.whole (splitLines source).length)).filter fun tokens =>
        range.startLine ≤ tokens.line ∧ tokens.line ≤ range.endLine := by
  have hAll : (sourceLines source).filter (fun line =>
      (LineRange.whole (splitLines source).length).contains line.number) = sourceLines source :=
    List.filter_eq_self.mpr fun line hLine => contains_whole hLine
  unfold Highlighting.lines
  rw [highlightLines_eq_map hNested, highlightLines_eq_map hNested, hAll, List.filter_map]
  congr 1
  refine List.filter_congr fun line _ => ?_
  simp [LineRange.contains, SourceLine.tokens]

/-- A comment that goes on to the second line, with a keyword after it and another one on
the third. -/
def commentTree : Node :=
  ⟨"source_file", none, 0, 14, 0, 2,
    [⟨"block_comment", none, 0, 7, 0, 1, []⟩, ⟨"fn", none, 8, 10, 1, 1, []⟩,
      ⟨"let", none, 11, 14, 2, 2, []⟩]⟩

theorem commentTree_isNested : commentTree.IsNested := by
  refine .intro (by decide) fun child hChild => ?_
  have hLeaf : child.children = [] := by
    revert child
    decide
  exact .intro (by simp [hLeaf]) (by simp [hLeaf])

/-- The second line alone shows the end of the comment and the keyword after it, as it
does among all lines. -/
theorem Highlighting.second_line_eq_filter_whole :
    let state : Highlighting := ⟨.rust, some commentTree⟩
    let source : Text := ['/', '*', 'é', '\n', '*', '/', ' ', 'f', 'n', '\n', 'l', 'e', 't']
    (∀ root ∈ state.tree, root.IsNested) ∧
      state.lines source ⟨1, 1, 3⟩ = [⟨1, [⟨0, 2, .comment⟩, ⟨3, 5, .keyword⟩]⟩] ∧
      state.lines source ⟨1, 1, 3⟩ = (state.lines source (LineRange.whole 3)).filter fun tokens =>
        1 ≤ tokens.line ∧ tokens.line ≤ 1 := by
  intro state source
  have hNested : ∀ root ∈ state.tree, root.IsNested := by
    rintro root ⟨⟩
    exact commentTree_isNested
  have hSorted : [(⟨0, 2, .comment⟩ : TokenSpan), ⟨3, 5, .keyword⟩].Pairwise
      fun a b => decide (a.startColumn ≤ b.startColumn) = true := by
    decide
  refine ⟨hNested, ?_, Highlighting.lines_eq_filter_whole state hNested source ⟨1, 1, 3⟩⟩
  exact congrArg (fun spans => [(⟨1, spans⟩ : LineTokens)]) (List.mergeSort_of_pairwise hSorted)

end ModalEditor
