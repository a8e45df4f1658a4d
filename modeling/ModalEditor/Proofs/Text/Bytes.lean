import ModalEditor.Text.Basic

namespace ModalEditor

/-!
# The bytes of a text

Offsets in bytes cut a text only where a character ends.  In the UTF-8 form these
are the places before a byte that can start a character, and the end.  A text is
determined by its bytes, so texts whose bytes agree up to such a place agree in
the characters before it.
-/

/-- The UTF-8 form of a text. -/
def utf8Bytes (text : Text) : List UInt8 :=
  text.flatMap String.utf8EncodeChar

@[simp]
theorem utf8Bytes_nil : utf8Bytes [] = [] := rfl

@[simp]
theorem utf8Bytes_cons (c : Char) (text : Text) :
    utf8Bytes (c :: text) = String.utf8EncodeChar c ++ utf8Bytes text := rfl

@[simp]
theorem utf8Bytes_append (first second : Text) :
    utf8Bytes (first ++ second) = utf8Bytes first ++ utf8Bytes second :=
  List.flatMap_append

@[simp]
theorem length_utf8Bytes (text : Text) : (utf8Bytes text).length = byteLength text := by
  induction text with
  | nil => rfl
  | cons c text ih => simp [ih]

theorem utf8Bytes_injective : Function.Injective utf8Bytes := by
  intro first second h
  have hEncoded : first.utf8Encode = second.utf8Encode := congrArg List.toByteArray h
  have hDecoded := congrArg ByteArray.utf8Decode? hEncoded
  rw [List.utf8Decode?_utf8Encode, List.utf8Decode?_utf8Encode] at hDecoded
  simpa using hDecoded

/-! ## Where characters end -/

/-- Whether a byte offset lies at the end of a text or before the first byte of a
character. -/
def isBoundary (text : Text) (offset : Nat) : Bool :=
  offset == byteLength text ||
    (utf8Bytes text)[offset]?.any fun byte => decide byte.IsUTF8FirstByte

/-- Only the first byte of a character starts one. -/
theorem isBoundary_cons_iff {c : Char} {text : Text} {offset : Nat} :
    isBoundary (c :: text) offset = true ↔
      offset = 0 ∨ ∃ rest, offset = c.utf8Size + rest ∧ isBoundary text rest = true := by
  have hSize := c.utf8Size_pos
  have hLength := String.length_utf8EncodeChar c
  by_cases hInside : offset < c.utf8Size
  · have hIndex : offset < (String.utf8EncodeChar c).length := by omega
    have hByte : (utf8Bytes (c :: text))[offset]? = some (String.utf8EncodeChar c)[offset] := by
      rw [utf8Bytes_cons, List.getElem?_append_left hIndex, List.getElem?_eq_getElem hIndex]
    have hEnd : offset ≠ byteLength (c :: text) := by
      rw [byteLength_cons]
      omega
    simp only [isBoundary, hByte, beq_eq_false_iff_ne.mpr hEnd, Bool.false_or, Option.any_some,
      decide_eq_true_eq, UInt8.isUTF8FirstByte_getElem_utf8EncodeChar]
    constructor
    · exact Or.inl
    · rintro (hZero | ⟨rest, hRest, -⟩)
      · exact hZero
      · omega
  · obtain ⟨rest, rfl⟩ : ∃ rest, offset = c.utf8Size + rest := ⟨offset - c.utf8Size, by omega⟩
    have hByte : (utf8Bytes (c :: text))[c.utf8Size + rest]? = (utf8Bytes text)[rest]? := by
      rw [utf8Bytes_cons, List.getElem?_append_right (by omega), hLength, Nat.add_sub_cancel_left]
    have hEnd : (c.utf8Size + rest == byteLength (c :: text)) = (rest == byteLength text) := by
      rw [Bool.eq_iff_iff, beq_iff_eq, beq_iff_eq, byteLength_cons, Nat.add_left_cancel_iff]
    have hSame : isBoundary (c :: text) (c.utf8Size + rest) = isBoundary text rest := by
      rw [isBoundary, isBoundary, hByte, hEnd]
    rw [hSame]
    constructor
    · intro hBoundary
      exact Or.inr ⟨rest, rfl, hBoundary⟩
    · rintro (hZero | ⟨other, hOther, hBoundary⟩)
      · omega
      · rwa [Nat.add_left_cancel hOther]

/-- The boundaries of a text are the places where it can be cut in two. -/
theorem isBoundary_iff {text : Text} {offset : Nat} :
    isBoundary text offset = true ↔
      ∃ before after, text = before ++ after ∧ byteLength before = offset := by
  induction text generalizing offset with
  | nil =>
      constructor
      · intro hBoundary
        have hZero : offset = 0 := by simpa [isBoundary] using hBoundary
        exact ⟨[], [], rfl, hZero.symm⟩
      · rintro ⟨before, after, hText, rfl⟩
        obtain ⟨rfl, rfl⟩ := List.append_eq_nil_iff.mp hText.symm
        rfl
  | cons c text ih =>
      rw [isBoundary_cons_iff]
      constructor
      · rintro (rfl | ⟨rest, rfl, hRest⟩)
        · exact ⟨[], c :: text, rfl, rfl⟩
        · obtain ⟨before, after, rfl, rfl⟩ := ih.mp hRest
          exact ⟨c :: before, after, rfl, rfl⟩
      · rintro ⟨before, after, hText, rfl⟩
        cases before with
        | nil => exact Or.inl rfl
        | cons d before =>
            obtain ⟨rfl, rfl⟩ := List.cons.inj hText
            exact Or.inr ⟨byteLength before, rfl, ih.mpr ⟨before, after, rfl, rfl⟩⟩

theorem isBoundary_of_append {text before after : Text} (h : text = before ++ after) :
    isBoundary text (byteLength before) = true :=
  isBoundary_iff.mpr ⟨before, after, h, rfl⟩

theorem isBoundary_sub_of_append {text before after : Text} (h : text = before ++ after) :
    isBoundary text (byteLength text - byteLength after) = true := by
  have hBefore : byteLength text - byteLength after = byteLength before := by
    rw [h, byteLength_append, Nat.add_sub_cancel]
  rw [hBefore]
  exact isBoundary_of_append h

/-- The bytes before and after a cut are those of the two parts. -/
theorem take_utf8Bytes_append (before after : Text) :
    (utf8Bytes (before ++ after)).take (byteLength before) = utf8Bytes before := by
  rw [utf8Bytes_append, ← length_utf8Bytes, List.take_left]

theorem drop_utf8Bytes_append (before after : Text) :
    (utf8Bytes (before ++ after)).drop (byteLength before) = utf8Bytes after := by
  rw [utf8Bytes_append, ← length_utf8Bytes, List.drop_left]

theorem take_reverse_utf8Bytes_append (before after : Text) :
    (utf8Bytes (before ++ after)).reverse.take (byteLength after) =
      (utf8Bytes after).reverse := by
  rw [utf8Bytes_append, List.reverse_append, ← length_utf8Bytes, ← List.length_reverse,
    List.take_left]

theorem byteLength_le_of_prefix {first second : Text} (h : first <+: second) :
    byteLength first ≤ byteLength second := by
  obtain ⟨rest, rfl⟩ := h
  rw [byteLength_append]
  exact Nat.le_add_right _ _

theorem byteLength_le_of_suffix {first second : Text} (h : first <:+ second) :
    byteLength first ≤ byteLength second := by
  obtain ⟨rest, rfl⟩ := h
  rw [byteLength_append]
  exact Nat.le_add_left _ _

/-- Of two texts at the start of a third, the one with fewer bytes is at the start of
the other. -/
theorem prefix_of_byteLength_le {first second text : Text} (hFirst : first <+: text)
    (hSecond : second <+: text) (hLength : byteLength first ≤ byteLength second) :
    first <+: second := by
  rcases List.prefix_or_prefix_of_prefix hFirst hSecond with h | ⟨rest, rfl⟩
  · exact h
  · cases rest with
    | nil => exact ⟨[], by rw [List.append_nil, List.append_nil]⟩
    | cons c rest =>
        have hSize := c.utf8Size_pos
        rw [byteLength_append, byteLength_cons] at hLength
        omega

/-- What is left of a text after something at its start ends with all that stands
behind a later place. -/
theorem suffix_drop_of_byteLength_le {first before after : Text}
    (hFirst : first <+: before ++ after) (hLength : byteLength first ≤ byteLength before) :
    after <:+ (before ++ after).drop first.length := by
  obtain ⟨middle, rfl⟩ :=
    prefix_of_byteLength_le hFirst (List.prefix_append before after) hLength
  rw [List.append_assoc, List.drop_left]
  exact List.suffix_append middle after

end ModalEditor
