import ModalEditor.Proofs.Highlight.Columns

namespace ModalEditor

/-!
# What the spans of a line show

The tokens of a tree are in order and do not overlap, so neither do their parts on a line, and
sorting these has nothing to do.  Each column is in one part at most.  Looking it up finds the
token that holds its character: the outermost classified node there.
-/

namespace LineTokens

/-- Looking up a column finds the span that holds it, whichever comes first. -/
theorem kindAt_eq_some_iff {tokens : LineTokens}
    (hApart : tokens.spans.Pairwise fun a b => a.stopColumn ≤ b.startColumn) {column : Nat}
    {kind : TokenKind} :
    tokens.kindAt column = some kind ↔
      ∃ span ∈ tokens.spans, span.startColumn ≤ column ∧ column < span.stopColumn ∧
        span.kind = kind := by
  obtain ⟨line, spans⟩ := tokens
  induction spans with
  | nil => simp [kindAt]
  | cons span spans ih =>
      obtain ⟨hFirst, hRest⟩ := List.pairwise_cons.mp hApart
      have hLater := ih hRest
      rw [kindAt] at hLater ⊢
      by_cases hHolds : span.startColumn ≤ column ∧ column < span.stopColumn
      · rw [List.find?_cons_of_pos (by simpa using hHolds), Option.map_some, Option.some.injEq]
        constructor
        · rintro rfl
          exact ⟨span, List.mem_cons_self, hHolds.1, hHolds.2, rfl⟩
        · rintro ⟨other, hOther, hStart, -, rfl⟩
          rcases List.mem_cons.mp hOther with rfl | hOther
          · rfl
          · -- The spans after one that holds the column start after the column.
            have hAfter := hFirst other hOther
            omega
      · rw [List.find?_cons_of_neg (by simpa using hHolds), hLater]
        constructor
        · rintro ⟨other, hOther, hOtherHolds⟩
          exact ⟨other, List.mem_cons_of_mem span hOther, hOtherHolds⟩
        · rintro ⟨other, hOther, hStart, hStop, hKind⟩
          rcases List.mem_cons.mp hOther with rfl | hOther
          · exact absurd ⟨hStart, hStop⟩ hHolds
          · exact ⟨other, hOther, hStart, hStop, hKind⟩

end LineTokens

/-- The byte where a column of a line starts. -/
def columnByte (source : Text) (line column : Nat) : Nat :=
  byteOffset source (lineStart (splitLines source) line + column)

/-- Whether the spans of a line show what is on it: in order and without overlap, they lie on
the line, and at each column is the outermost classified node around the character, if any
node around it is classified. -/
structure LineTokens.Shows (tokens : LineTokens) (palette : Palette) (root : Node)
    (source : Text) : Prop where
  nonempty : ∀ span ∈ tokens.spans, span.startColumn < span.stopColumn
  inside : ∀ span ∈ tokens.spans,
    span.stopColumn ≤ lineLength (splitLines source) tokens.line
  sorted : tokens.spans.Pairwise fun a b => a.startColumn < b.startColumn
  disjoint : tokens.spans.Pairwise fun a b => a.stopColumn ≤ b.startColumn
  kindAt_eq_some_iff : ∀ column < lineLength (splitLines source) tokens.line, ∀ kind,
    tokens.kindAt column = some kind ↔
      (PlacedNode.ofRoot root).ShowsAt palette (columnByte source tokens.line column)
        (columnByte source tokens.line (column + 1)) kind
  kindAt_eq_none_iff : ∀ column < lineLength (splitLines source) tokens.line,
    tokens.kindAt column = none ↔
      ∀ path inner, (PlacedNode.ofRoot root).at? path = some inner →
        inner.node.Covers (columnByte source tokens.line column)
          (columnByte source tokens.line (column + 1)) →
        inner.kind? palette = none

namespace SourceLine

variable {source before after : Text} {line : SourceLine} {tokens : List Token}

/-- The parts of tokens that do not overlap do not overlap. -/
theorem IsBetween.pairwise_filterMap_span? (h : line.IsBetween source before after)
    (hFits : ∀ token ∈ tokens, token.node.FitsIn source)
    (hOrder : tokens.Pairwise fun a b => a.node.stopByte ≤ b.node.startByte) :
    (tokens.filterMap line.span?).Pairwise fun a b => a.stopColumn ≤ b.startColumn := by
  rw [List.pairwise_filterMap]
  refine hOrder.imp_of_mem fun ha hb hOrder first hFirst second hSecond => ?_
  have hLeft := h.isPart_of_span?_eq_some (hFits _ ha) hFirst
  have hRight := h.isPart_of_span?_eq_some (hFits _ hb) hSecond
  have hStart : second.startColumn ≤ line.text.length :=
    Nat.le_trans (Nat.le_of_lt hRight.nonempty) hRight.inside
  rw [← byteAt_le_byteAt_iff hLeft.inside hStart, hLeft.stop, hRight.start]
  omega

theorem IsBetween.isPart_of_mem_filterMap (h : line.IsBetween source before after)
    (hFits : ∀ token ∈ tokens, token.node.FitsIn source) {span : TokenSpan}
    (hSpan : span ∈ tokens.filterMap line.span?) : ∃ token ∈ tokens, line.IsPart token span := by
  obtain ⟨token, hToken, hPart⟩ := List.mem_filterMap.mp hSpan
  exact ⟨token, hToken, h.isPart_of_span?_eq_some (hFits token hToken) hPart⟩

/-- The parts of tokens in order are in order. -/
theorem IsBetween.sorted_filterMap_span? (h : line.IsBetween source before after)
    (hFits : ∀ token ∈ tokens, token.node.FitsIn source)
    (hOrder : tokens.Pairwise fun a b => a.node.stopByte ≤ b.node.startByte) :
    (tokens.filterMap line.span?).Pairwise fun a b => a.startColumn < b.startColumn := by
  refine (h.pairwise_filterMap_span? hFits hOrder).imp_of_mem fun hSpan _ hApart => ?_
  obtain ⟨token, -, hPart⟩ := h.isPart_of_mem_filterMap hFits hSpan
  exact Nat.lt_of_lt_of_le hPart.nonempty hApart

theorem IsBetween.spans_tokens (h : line.IsBetween source before after)
    (hFits : ∀ token ∈ tokens, token.node.FitsIn source)
    (hOrder : tokens.Pairwise fun a b => a.node.stopByte ≤ b.node.startByte) :
    (line.tokens tokens).spans = tokens.filterMap line.span? := by
  refine List.mergeSort_of_pairwise ?_
  refine (h.sorted_filterMap_span? hFits hOrder).imp fun hLess => ?_
  exact decide_eq_true (Nat.le_of_lt hLess)

/-- A column shows the token that holds its character. -/
theorem IsBetween.kindAt_eq_some_iff (h : line.IsBetween source before after)
    (hFits : ∀ token ∈ tokens, token.node.FitsIn source)
    (hOrder : tokens.Pairwise fun a b => a.node.stopByte ≤ b.node.startByte) {column : Nat}
    (hColumn : column < line.text.length) {kind : TokenKind} :
    (line.tokens tokens).kindAt column = some kind ↔
      ∃ token ∈ tokens,
        token.node.Covers (line.byteAt column) (line.byteAt (column + 1)) ∧ token.kind = kind := by
  have hSpans := h.spans_tokens hFits hOrder
  have hApart := h.pairwise_filterMap_span? hFits hOrder
  rw [← hSpans] at hApart
  rw [LineTokens.kindAt_eq_some_iff hApart, hSpans]
  constructor
  · rintro ⟨span, hSpan, hHolds⟩
    obtain ⟨token, hToken, hPart⟩ := List.mem_filterMap.mp hSpan
    exact ⟨token, hToken, (h.exists_span?_iff (hFits token hToken) hColumn).mp
      ⟨span, hPart, hHolds⟩⟩
  · rintro ⟨token, hToken, hCovers⟩
    obtain ⟨span, hPart, hHolds⟩ := (h.exists_span?_iff (hFits token hToken) hColumn).mpr hCovers
    exact ⟨span, List.mem_filterMap.mpr ⟨token, hToken, hPart⟩, hHolds⟩

theorem fitsIn_of_mem_allTokens {root : Node} (hTree : root.IsTreeOf source) (palette : Palette) :
    ∀ token ∈ allTokens palette (some root) source, token.node.FitsIn source :=
  fun _ hToken => hTree.fitsIn_of_mem_tokens hToken

theorem pairwise_allTokens {root : Node} (hTree : root.IsTreeOf source) (palette : Palette) :
    (allTokens palette (some root) source).Pairwise
      fun a b => a.node.stopByte ≤ b.node.startByte :=
  hTree.pairwise_tokens Placement.root

/-- A column shows the outermost classified node around its character. -/
theorem IsBetween.kindAt_eq_some_iff_showsAt (h : line.IsBetween source before after)
    (hLine : line ∈ sourceLines source) {root : Node} (hTree : root.IsTreeOf source)
    (palette : Palette) {column : Nat} (hColumn : column < line.text.length) {kind : TokenKind} :
    (line.tokens (allTokens palette (some root) source)).kindAt column = some kind ↔
      (PlacedNode.ofRoot root).ShowsAt palette (columnByte source line.number column)
        (columnByte source line.number (column + 1)) kind := by
  obtain ⟨-, hNext, hStop⟩ := byteAt_bounds hColumn
  have hEnd : line.byteAt (column + 1) ≤ byteLength source :=
    Nat.le_trans hStop (liesIn_source hLine).2
  have hFits := fitsIn_of_mem_allTokens hTree palette
  rw [h.kindAt_eq_some_iff hFits (pairwise_allTokens hTree palette) hColumn, columnByte,
    columnByte, h.byteOffset_eq (Nat.le_of_lt hColumn), h.byteOffset_eq hColumn]
  exact Node.exists_mem_tokens_iff hTree.isNested (Nat.zero_le _) hNext hEnd Placement.root kind

/-- A line of a source shows what is on it. -/
theorem shows_tokens {root : Node} (hTree : root.IsTreeOf source)
    (hLine : line ∈ sourceLines source) (palette : Palette) :
    (line.tokens (allTokens palette (some root) source)).Shows palette root source := by
  obtain ⟨before, after, hBetween⟩ := exists_isBetween hLine
  have hFits := fitsIn_of_mem_allTokens hTree palette
  have hOrder := pairwise_allTokens hTree palette
  have hSpans := hBetween.spans_tokens hFits hOrder
  have hLength : lineLength (splitLines source) line.number = line.text.length := by
    rw [lineLength, ← hBetween.text]
  have hPart (span : TokenSpan)
      (hSpan : span ∈ (line.tokens (allTokens palette (some root) source)).spans) :
      ∃ token ∈ allTokens palette (some root) source, line.IsPart token span :=
    hBetween.isPart_of_mem_filterMap hFits (hSpans ▸ hSpan)
  refine ⟨fun span hSpan => ?_, fun span hSpan => ?_, ?_, ?_, fun column hColumn kind => ?_,
    fun column hColumn => ?_⟩
  · obtain ⟨token, -, hPart⟩ := hPart span hSpan
    exact hPart.nonempty
  · obtain ⟨token, -, hPart⟩ := hPart span hSpan
    exact Nat.le_trans hPart.inside (Nat.le_of_eq hLength.symm)
  · rw [hSpans]
    exact hBetween.sorted_filterMap_span? hFits hOrder
  · rw [hSpans]
    exact hBetween.pairwise_filterMap_span? hFits hOrder
  · exact hBetween.kindAt_eq_some_iff_showsAt hLine hTree palette
      (Nat.lt_of_lt_of_eq hColumn hLength)
  · rw [← PlacedNode.forall_not_showsAt_iff hTree.isNested, Option.eq_none_iff_forall_ne_some]
    exact forall_congr' fun kind => not_congr (hBetween.kindAt_eq_some_iff_showsAt hLine hTree
      palette (Nat.lt_of_lt_of_eq hColumn hLength))

end SourceLine

/-- Highlighting gives the lines of a range one by one, and each shows what is on it, for every
language, every source, every range and every tree of the source. -/
theorem Highlighting.spans_show_outermost_tokens (language : Language) (root : Node)
    (source : Text) (range : LineRange) (hTree : root.IsTreeOf source) :
    let lines := Highlighting.lines ⟨language, some root⟩ source range
    lines.map (·.line) = (List.range (splitLines source).length).filter range.contains ∧
      ∀ tokens ∈ lines, tokens.Shows language.palette root source := by
  intro lines
  have hLines : lines =
      ((sourceLines source).filter fun line => range.contains line.number).map fun line =>
        line.tokens (allTokens language.palette (some root) source) := by
    refine highlightLines_eq_map ?_ language.palette source range
    rintro other ⟨⟩
    exact hTree.isNested
  rw [hLines]
  constructor
  · have hNumbers := map_number_sourceLinesFrom 0 0 (splitLines source)
    rw [List.map_map, List.range_eq_range', ← hNumbers, List.filter_map]
    rfl
  · intro tokens hTokens
    obtain ⟨line, hLine, rfl⟩ := List.mem_map.mp hTokens
    exact SourceLine.shows_tokens hTree (List.mem_filter.mp hLine).1 language.palette

/-- A source with an attribute that goes on to the second line and ends in a string there. -/
def attributeSource : Text :=
  ['#', '[', 'a', '=', '"', 'é', '\n', '"', ']', 'f', 'n']

/-- Its tree.  The string is classified, and so is the attribute around it. -/
def attributeTree : Node :=
  let string : Node := ⟨"string_literal", some "value", 4, 9, 0, 1, []⟩
  let content : Node := ⟨"attribute", none, 2, 9, 0, 1, [string]⟩
  let item : Node := ⟨"attribute_item", none, 0, 10, 0, 1, [content]⟩
  let keyword : Node := ⟨"fn", none, 10, 12, 1, 1, []⟩
  ⟨"source_file", none, 0, 12, 0, 1, [item, keyword]⟩

theorem attributeTree_isTreeOf : attributeTree.IsTreeOf attributeSource := by
  refine .intro (by decide) (by decide) (by decide) ?_
  refine List.forall_mem_cons.mpr ⟨?item, List.forall_mem_singleton.mpr ?keyword⟩
  case keyword => exact .intro (by decide) (by decide) (by decide) (List.forall_mem_nil _)
  case item =>
    refine .intro (by decide) (by decide) (by decide) (List.forall_mem_singleton.mpr ?_)
    refine .intro (by decide) (by decide) (by decide) (List.forall_mem_singleton.mpr ?_)
    exact .intro (by decide) (by decide) (by decide) (List.forall_mem_nil _)

/-- On the second line the end of the attribute shows in place of the string inside it, and then
the keyword. -/
theorem Highlighting.spans_show_attribute_around_string :
    attributeTree.IsTreeOf attributeSource ∧
      Highlighting.lines ⟨.rust, some attributeTree⟩ attributeSource ⟨1, 1, 2⟩ =
        [⟨1, [⟨0, 2, .attribute⟩, ⟨2, 4, .keyword⟩]⟩] ∧
      (⟨1, [⟨0, 2, .attribute⟩, ⟨2, 4, .keyword⟩]⟩ : LineTokens).Shows .rust attributeTree
        attributeSource := by
  have hSorted : [(⟨0, 2, .attribute⟩ : TokenSpan), ⟨2, 4, .keyword⟩].Pairwise
      fun a b => decide (a.startColumn ≤ b.startColumn) = true := by
    decide
  have hLines : Highlighting.lines ⟨.rust, some attributeTree⟩ attributeSource ⟨1, 1, 2⟩ =
      [⟨1, [⟨0, 2, .attribute⟩, ⟨2, 4, .keyword⟩]⟩] :=
    congrArg (fun spans => [(⟨1, spans⟩ : LineTokens)]) (List.mergeSort_of_pairwise hSorted)
  refine ⟨attributeTree_isTreeOf, hLines, ?_⟩
  obtain ⟨-, hShows⟩ := Highlighting.spans_show_outermost_tokens .rust attributeTree
    attributeSource ⟨1, 1, 2⟩ attributeTree_isTreeOf
  exact hShows _ (by rw [hLines]; exact List.mem_cons_self)

end ModalEditor
