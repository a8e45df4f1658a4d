import ModalEditor.Proofs.Highlight.Outermost
import ModalEditor.Proofs.Text.Offsets

namespace ModalEditor

/-!
# The columns of a line and the bytes of its source

A line stands between a text before it, with a line feed for each line above, and a text after
it.  So its columns stand for places of the source, in the same order, and every place of the
source on the line is at a column.

The span of a token is the part of it on the line.  The ends of a token are places of the
source, hence columns, unless they lie on other lines: the token then goes up to the end of
this one.  So a column is in the span exactly if its character is in the token.
-/

/-! ## Lines in their source -/

/-- The bytes of the lines above and their line feeds come before a line. -/
theorem getElem?_sourceLinesFrom (number startByte : Nat) (texts : List Text) (i : Nat) :
    (sourceLinesFrom number startByte texts)[i]? = texts[i]?.map fun text =>
      ⟨number + i, startByte + byteLength ((texts.take i).flatMap (· ++ [lineFeed])), text⟩ := by
  induction texts generalizing number startByte i with
  | nil => rfl
  | cons text rest ih =>
      cases i with
      | zero => rfl
      | succ i =>
          rw [sourceLinesFrom, List.getElem?_cons_succ, List.getElem?_cons_succ, ih]
          simp only [List.take_succ_cons, List.flatMap_cons, byteLength_append, byteLength_cons,
            byteLength_nil, show lineFeed.utf8Size = 1 from rfl, Nat.add_assoc, Nat.add_comm 1]

theorem map_number_sourceLinesFrom (number startByte : Nat) (texts : List Text) :
    (sourceLinesFrom number startByte texts).map SourceLine.number =
      List.range' number texts.length := by
  induction texts generalizing number startByte with
  | nil => rfl
  | cons text rest ih =>
      rw [sourceLinesFrom, List.map_cons, ih]
      rfl

theorem count_lineFeed_above {above : List Text} (h : ∀ line ∈ above, lineFeed ∉ line) :
    (above.flatMap (· ++ [lineFeed])).count lineFeed = above.length := by
  induction above with
  | nil => rfl
  | cons line above ih =>
      have hLine := List.count_eq_zero_of_not_mem (h line List.mem_cons_self)
      have hRest := ih fun other hOther => h other (List.mem_cons_of_mem line hOther)
      rw [List.flatMap_cons, List.count_append, List.count_append, hLine, hRest]
      simp [Nat.add_comm]

/-- What comes before a line and after it in its source. -/
structure SourceLine.IsBetween (line : SourceLine) (source before after : Text) : Prop where
  source_eq : source = before ++ (line.text ++ after)
  startByte : byteLength before = line.startByte
  lineStart_eq : before.length = lineStart (splitLines source) line.number
  text : line.text = lineAt (splitLines source) line.number
  feedsBefore : before.count lineFeed = line.number
  noFeed : lineFeed ∉ line.text

theorem SourceLine.exists_isBetween {source : Text} {line : SourceLine}
    (h : line ∈ sourceLines source) : ∃ before after, line.IsBetween source before after := by
  obtain ⟨i, hi⟩ := List.mem_iff_getElem?.mp h
  rw [sourceLines, getElem?_sourceLinesFrom, Option.map_eq_some_iff] at hi
  obtain ⟨text, hText, rfl⟩ := hi
  obtain ⟨hLength, hAt⟩ := List.getElem?_eq_some_iff.mp hText
  have hLines : splitLines source =
      (splitLines source).take i ++ text :: (splitLines source).drop (i + 1) := by
    rw [← hAt, List.getElem_cons_drop, List.take_append_drop]
  have hAbove : ((splitLines source).take i).length = i := List.length_take_of_le (by omega)
  have hNoFeed := (areLines_splitLines source).noFeed
  refine ⟨((splitLines source).take i).flatMap (· ++ [lineFeed]),
    ((splitLines source).drop (i + 1)).flatMap (lineFeed :: ·), ?_, ?_, ?_, ?_, ?_, ?_⟩
  · have hJoined := congrArg joinLines hLines
    rwa [joinLines_splitLines, joinLines_append_left _ (List.cons_ne_nil _ _), joinLines_cons]
      at hJoined
  · exact (Nat.zero_add _).symm
  · have hStart := lineStart_append_length ((splitLines source).take i)
      (List.cons_ne_nil text ((splitLines source).drop (i + 1)))
    rw [hAbove, ← hLines] at hStart
    rw [Nat.zero_add]
    exact hStart.symm
  · rw [Nat.zero_add, lineAt_eq_getElem hLength, hAt]
  · rw [count_lineFeed_above fun line hLine => hNoFeed line (List.mem_of_mem_take hLine), hAbove,
      Nat.zero_add]
  · exact hNoFeed text (List.mem_of_getElem? hText)

namespace SourceLine

variable {source before after : Text} {line : SourceLine} {token : Token} {column : Nat}

/-- Where the character in a column starts.  For the column after the last it is where the line
ends. -/
def byteAt (line : SourceLine) (column : Nat) : Nat :=
  line.startByte + byteLength (line.text.take column)

theorem IsBetween.byteOffset_eq (h : line.IsBetween source before after)
    (hColumn : column ≤ line.text.length) :
    byteOffset source (lineStart (splitLines source) line.number + column) =
      line.byteAt column := by
  rw [byteOffset, ← h.lineStart_eq, byteAt, ← h.startByte]
  conv_lhs => rw [h.source_eq]
  rw [List.take_length_add_append, List.take_append_of_le_length hColumn, byteLength_append]

@[simp]
theorem byteAt_zero : line.byteAt 0 = line.startByte := rfl

@[simp]
theorem byteAt_length : line.byteAt line.text.length = line.stopByte := by
  rw [byteAt, List.take_length, stopByte]

theorem byteAt_lt_byteAt {first second : Nat} (hOrder : first < second)
    (hSecond : second ≤ line.text.length) : line.byteAt first < line.byteAt second := by
  have hFirst : first < line.text.length := Nat.lt_of_lt_of_le hOrder hSecond
  have hSize := (line.text[first]).utf8Size_pos
  have hPrefix : line.text.take (first + 1) <+: line.text.take second :=
    List.take_prefix_take_left hOrder
  have hBytes := byteLength_le_of_prefix hPrefix
  rw [List.take_succ_eq_append_getElem hFirst, byteLength_append, byteLength_cons,
    byteLength_nil] at hBytes
  rw [byteAt, byteAt]
  omega

/-- Columns are in the order of their bytes. -/
theorem byteAt_le_byteAt_iff {first second : Nat} (hFirst : first ≤ line.text.length)
    (hSecond : second ≤ line.text.length) :
    line.byteAt first ≤ line.byteAt second ↔ first ≤ second := by
  constructor
  · intro h
    exact Nat.le_of_not_lt fun hMore => Nat.not_lt.mpr h (byteAt_lt_byteAt hMore hFirst)
  · intro h
    rcases Nat.eq_or_lt_of_le h with rfl | hLess
    · exact Nat.le_refl _
    · exact Nat.le_of_lt (byteAt_lt_byteAt hLess hSecond)

/-- A character of the line has its bytes on the line. -/
theorem byteAt_bounds (hColumn : column < line.text.length) :
    line.startByte ≤ line.byteAt column ∧ line.byteAt column < line.byteAt (column + 1) ∧
      line.byteAt (column + 1) ≤ line.stopByte := by
  refine ⟨?_, byteAt_lt_byteAt (Nat.lt_succ_self column) hColumn, ?_⟩
  · rw [← byteAt_zero]
    exact (byteAt_le_byteAt_iff (Nat.zero_le _) (Nat.le_of_lt hColumn)).mpr (Nat.zero_le _)
  · rw [← byteAt_length]
    exact (byteAt_le_byteAt_iff hColumn (Nat.le_refl _)).mpr hColumn

theorem charOffset_byteAt (hColumn : column ≤ line.text.length) :
    charOffset line.text (line.byteAt column - line.startByte) = column := by
  have hOffset := charOffset_append_byteLength (line.text.take column) (line.text.drop column)
  rw [List.take_append_drop, List.length_take_of_le hColumn] at hOffset
  rw [byteAt, Nat.add_sub_cancel_left, hOffset]

/-- A boundary of the source on the line is at one of its columns. -/
theorem IsBetween.exists_byteAt (h : line.IsBetween source before after) {offset : Nat}
    (hBoundary : isBoundary source offset = true) (hStart : line.startByte ≤ offset)
    (hStop : offset ≤ line.stopByte) : ∃ column ≤ line.text.length, offset = line.byteAt column := by
  obtain ⟨first, rest, hText, rfl⟩ := isBoundary_iff.mp hBoundary
  rw [← h.startByte] at hStart
  obtain ⟨middle, rfl⟩ := prefix_of_byteLength_le ⟨line.text ++ after, h.source_eq.symm⟩
    ⟨rest, hText.symm⟩ hStart
  rw [stopByte, ← h.startByte, byteLength_append] at hStop
  have hRest : line.text ++ after = middle ++ rest := by
    have hBoth := h.source_eq.symm.trans hText
    rwa [List.append_assoc, List.append_cancel_left_eq] at hBoth
  obtain ⟨more, hMore⟩ := prefix_of_byteLength_le ⟨rest, hRest.symm⟩
    (List.prefix_append line.text after) (by omega)
  refine ⟨middle.length, ?_, ?_⟩
  · rw [← hMore, List.length_append]
    exact Nat.le_add_right _ _
  · rw [byteAt, ← h.startByte, byteLength_append, ← hMore, List.take_left]

/-- A place of the source before the end of the line, or the start of the line if that comes
later, is at one of its columns. -/
theorem IsBetween.exists_byteAt_max (h : line.IsBetween source before after) {offset : Nat}
    (hBoundary : isBoundary source offset = true) (hStop : offset ≤ line.stopByte) :
    ∃ column ≤ line.text.length, line.byteAt column = max offset line.startByte := by
  rcases Nat.le_total line.startByte offset with hStart | hStart
  · obtain ⟨column, hColumn, rfl⟩ := h.exists_byteAt hBoundary hStart hStop
    exact ⟨column, hColumn, (Nat.max_eq_left hStart).symm⟩
  · exact ⟨0, Nat.zero_le _, (Nat.max_eq_right hStart).symm⟩

theorem IsBetween.exists_byteAt_min (h : line.IsBetween source before after) {offset : Nat}
    (hBoundary : isBoundary source offset = true) (hStart : line.startByte ≤ offset) :
    ∃ column ≤ line.text.length, line.byteAt column = min offset line.stopByte := by
  rcases Nat.le_total offset line.stopByte with hStop | hStop
  · obtain ⟨column, hColumn, rfl⟩ := h.exists_byteAt hBoundary hStart hStop
    exact ⟨column, hColumn, (Nat.min_eq_left hStop).symm⟩
  · exact ⟨line.text.length, Nat.le_refl _, byteAt_length.trans (Nat.min_eq_right hStop).symm⟩

theorem IsBetween.row_startByte (h : line.IsBetween source before after) :
    (bytePointAt source line.startByte).row = line.number := by
  rw [← h.startByte, h.source_eq, bytePointAt_row_append, h.feedsBefore]

theorem IsBetween.row_stopByte (h : line.IsBetween source before after) :
    (bytePointAt source line.stopByte).row = line.number := by
  have hStop : line.stopByte = byteLength (before ++ line.text) := by
    rw [stopByte, byteLength_append, h.startByte]
  rw [hStop, h.source_eq, ← List.append_assoc, bytePointAt_row_append, List.count_append,
    List.count_eq_zero_of_not_mem h.noFeed, h.feedsBefore, Nat.add_zero]

/-! ## The part of a token on a line -/

/-- A token with a byte on the line has its rows around it. -/
theorem IsBetween.span?_eq (h : line.IsBetween source before after)
    (hFits : token.node.FitsIn source) :
    line.span? token =
      if max token.node.startByte line.startByte < min token.node.stopByte line.stopByte then
        some ⟨charOffset line.text (max token.node.startByte line.startByte - line.startByte),
          charOffset line.text (min token.node.stopByte line.stopByte - line.startByte),
          token.kind⟩
      else none := by
  have hFirst : max token.node.startByte line.startByte - line.startByte <
      min token.node.stopByte line.stopByte - line.startByte ↔
        max token.node.startByte line.startByte < min token.node.stopByte line.stopByte := by
    omega
  simp only [span?, hFirst]
  by_cases hBytes :
      max token.node.startByte line.startByte < min token.node.stopByte line.stopByte
  · have hStartRow := bytePointAt_row_le
      (show token.node.startByte ≤ line.stopByte by omega) source
    have hStopRow := bytePointAt_row_le
      (show line.startByte ≤ token.node.stopByte by omega) source
    rw [h.row_stopByte, ← hFits.startRow] at hStartRow
    rw [h.row_startByte, ← hFits.stopRow] at hStopRow
    simp [hBytes, hStartRow, hStopRow]
  · simp [hBytes]

/-- Whether a span is the part of a token that lies on the line: its columns are those of the
bytes that the two share. -/
structure IsPart (line : SourceLine) (token : Token) (span : TokenSpan) : Prop where
  nonempty : span.startColumn < span.stopColumn
  inside : span.stopColumn ≤ line.text.length
  start : line.byteAt span.startColumn = max token.node.startByte line.startByte
  stop : line.byteAt span.stopColumn = min token.node.stopByte line.stopByte
  kind : span.kind = token.kind

theorem IsBetween.isPart_of_span?_eq_some (h : line.IsBetween source before after)
    (hFits : token.node.FitsIn source) {span : TokenSpan} (hSpan : line.span? token = some span) :
    line.IsPart token span := by
  rw [h.span?_eq hFits] at hSpan
  split at hSpan
  case isTrue hBytes =>
    obtain ⟨start, hStart, hFirst⟩ := h.exists_byteAt_max hFits.startByte (by omega)
    obtain ⟨stop, hStop, hLast⟩ := h.exists_byteAt_min hFits.stopByte (by omega)
    rw [← hFirst, ← hLast, charOffset_byteAt hStart, charOffset_byteAt hStop] at hSpan
    obtain rfl := Option.some.inj hSpan
    have hOrder : start < stop := by
      rw [← hFirst, ← hLast] at hBytes
      exact Nat.lt_of_not_le fun hLe =>
        Nat.not_le.mpr hBytes ((byteAt_le_byteAt_iff hStop hStart).mpr hLe)
    exact ⟨hOrder, hStop, hFirst, hLast, rfl⟩
  case isFalse => cases hSpan

/-- A token holds a character of the line exactly if its part holds the column. -/
theorem IsPart.covers_iff {span : TokenSpan} (h : line.IsPart token span)
    (hColumn : column < line.text.length) :
    token.node.Covers (line.byteAt column) (line.byteAt (column + 1)) ↔
      span.startColumn ≤ column ∧ column < span.stopColumn := by
  have hNonempty := h.nonempty
  have hInside := h.inside
  have hNext : column + 1 ≤ line.text.length := hColumn
  have hBounds := byteAt_bounds hColumn
  rw [← byteAt_le_byteAt_iff (by omega) (Nat.le_of_lt hColumn), Nat.lt_iff_add_one_le,
    ← byteAt_le_byteAt_iff hNext hInside, h.start, h.stop, Node.Covers]
  omega

theorem IsBetween.exists_span?_iff (h : line.IsBetween source before after)
    (hFits : token.node.FitsIn source) (hColumn : column < line.text.length) {kind : TokenKind} :
    (∃ span, line.span? token = some span ∧
        span.startColumn ≤ column ∧ column < span.stopColumn ∧ span.kind = kind) ↔
      token.node.Covers (line.byteAt column) (line.byteAt (column + 1)) ∧ token.kind = kind := by
  constructor
  · rintro ⟨span, hSpan, hStart, hStop, rfl⟩
    have hPart := h.isPart_of_span?_eq_some hFits hSpan
    exact ⟨(hPart.covers_iff hColumn).mpr ⟨hStart, hStop⟩, hPart.kind.symm⟩
  · rintro ⟨hCovers, rfl⟩
    cases hSpan : line.span? token with
    | none =>
        have hBounds := byteAt_bounds hColumn
        obtain ⟨hFirst, hLast⟩ := hCovers
        rw [h.span?_eq hFits, if_pos (by omega)] at hSpan
        cases hSpan
    | some span =>
        have hPart := h.isPart_of_span?_eq_some hFits hSpan
        obtain ⟨hStart, hStop⟩ := (hPart.covers_iff hColumn).mp hCovers
        exact ⟨span, rfl, hStart, hStop, hPart.kind⟩

end SourceLine

end ModalEditor
