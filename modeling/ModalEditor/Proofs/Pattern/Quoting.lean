import ModalEditor.Proofs.Pattern.Ends
import ModalEditor.Pattern.Reader

namespace ModalEditor

/-!
# Quoting texts

To search for a text as it is, the characters that mean something in a pattern are quoted by a
backslash.  Whatever the text, the result can be read as a pattern, and that pattern is a row
of single characters: it matches where the text stands and nowhere else, and it matches all of
it.
-/

namespace Pattern

/-- The characters that mean something in a pattern, somewhere at least. -/
def metaCharacters : List Char :=
  ['\\', '.', '+', '*', '?', '(', ')', '|', '[', ']', '{', '}', '^', '$', '#', '&', '-', '~']

/-- The pattern that spells a text: each of these characters has a backslash in front. -/
def quote (text : Text) : Text :=
  text.flatMap fun c => if metaCharacters.contains c then ['\\', c] else [c]

/-- Pieces in a row. -/
def row : List Pattern → Pattern
  | [] => .empty
  | [piece] => piece
  | piece :: next :: rest => .sequence piece (row (next :: rest))

variable {flags : PatternFlags} {c : Char} {text rest : Text}

/-! ## Reading a quoted text -/

theorem skip_of_not_verbose (h : flags.verbose = false) (text : Text) :
    flags.skip text = text := by
  rw [PatternFlags.skip, h]
  rfl

/-- A quoted character is read as itself. -/
theorem readPiece?_quoted (h : metaCharacters.contains c = true) (rest : Text) :
    readPiece? flags ('\\' :: c :: rest) = some (.one (flags.charSet c), rest) := by
  have hMem : c ∈ metaCharacters := List.contains_iff_mem.mp h
  simp only [metaCharacters, List.mem_cons, List.not_mem_nil, or_false] at hMem
  rcases hMem with rfl | rfl | rfl | rfl | rfl | rfl | rfl | rfl | rfl | rfl | rfl | rfl | rfl |
    rfl | rfl | rfl | rfl | rfl <;> rfl

/-- Reads a piece, where nothing of the structure around pieces begins. -/
theorem readBranches?_piece (hFlags : flags.verbose = false) {piece : Pattern}
    (hHead : c ≠ ')' ∧ c ≠ '|' ∧ c ≠ '(') (hBounds : readBounds? (c :: text) = none)
    (hPiece : readPiece? flags (c :: text) = some (piece, rest)) (names : List Text) (fuel : Nat)
    (read : Branches) :
    readBranches? flags names (fuel + 1) read (c :: text) =
      readBranches? flags names fuel (read.push piece) rest := by
  obtain ⟨hClose, hBar, hOpen⟩ := hHead
  rw [readBranches?]
  simp only [skip_of_not_verbose hFlags]
  split
  next hText => cases hText
  next hText => exact absurd (List.cons.inj hText).1 hClose
  next hText => exact absurd (List.cons.inj hText).1 hBar
  next hText => exact absurd (List.cons.inj hText).1 hOpen
  next => rw [hBounds, hPiece]

/-- A character that means nothing is a piece by itself. -/
theorem readPiece?_plain (h : metaCharacters.contains c = false) (rest : Text) :
    readPiece? flags (c :: rest) = some (.one (flags.charSet c), rest) := by
  rw [readPiece?]
  all_goals
    rintro rfl
    cases h

/-- It does not repeat what stands before it. -/
theorem readBounds?_plain (h : metaCharacters.contains c = false) (rest : Text) :
    readBounds? (c :: rest) = none := by
  rw [readBounds?]
  all_goals
    rintro _ hText
    obtain ⟨rfl, -⟩ := List.cons.inj hText
    cases h

theorem readBranches?_quote_cons (hFlags : flags.verbose = false) (c : Char) (rest : Text)
    (names : List Text) (fuel : Nat) (read : Branches) :
    readBranches? flags names (fuel + 1) read (quote (c :: rest)) =
      readBranches? flags names fuel (read.push (.one (flags.charSet c))) (quote rest) := by
  rw [quote, List.flatMap_cons]
  cases hMeta : metaCharacters.contains c with
  | true =>
      exact readBranches?_piece hFlags (by decide) rfl (readPiece?_quoted hMeta (quote rest)) _ _ _
  | false =>
      refine readBranches?_piece hFlags ⟨?_, ?_, ?_⟩ (readBounds?_plain hMeta _)
        (readPiece?_plain hMeta _) _ _ _
      all_goals
        rintro rfl
        cases hMeta

theorem length_le_length_quote (text : Text) : text.length ≤ (quote text).length := by
  induction text with
  | nil => exact Nat.zero_le _
  | cons c text ih =>
      have hOne : 1 ≤ (if metaCharacters.contains c then ['\\', c] else [c]).length := by
        split <;> simp
      rw [quote] at ih
      rw [quote, List.flatMap_cons, List.length_append, List.length_cons]
      omega

/-- Reading a quoted text yields a piece for each of its characters. -/
theorem readBranches?_quote (hFlags : flags.verbose = false) (names : List Text) {fuel : Nat}
    (hFuel : text.length < fuel) (pieces : List Pattern) (canRepeat : Bool) :
    readBranches? flags names fuel ⟨none, pieces, canRepeat⟩ (quote text) =
      some (Branches.pattern ⟨none, (text.map fun c => .one (flags.charSet c)).reverse ++ pieces,
        canRepeat⟩, names, []) := by
  induction text generalizing fuel pieces canRepeat with
  | nil =>
      cases fuel with
      | zero => cases hFuel
      | succ fuel =>
          rw [readBranches?]
          simp only [skip_of_not_verbose hFlags]
          rfl
  | cons c text ih =>
      cases fuel with
      | zero => cases hFuel
      | succ fuel =>
          rw [readBranches?_quote_cons hFlags, Branches.push,
            ih (Nat.lt_of_succ_lt_succ hFuel)]
          simp [Branches.pattern]

theorem pattern_of_pieces (pieces : List Pattern) (canRepeat : Bool) :
    Branches.pattern ⟨none, pieces.reverse, canRepeat⟩ = row pieces := by
  induction pieces with
  | nil => rfl
  | cons piece pieces ih =>
      cases pieces with
      | nil => rfl
      | cons next rest =>
          rw [row, ← ih]
          obtain ⟨last, before, hPieces⟩ : ∃ last before, (next :: rest).reverse = last :: before :=
            List.exists_cons_of_ne_nil (by simp)
          simp only [Branches.pattern, List.reverse_cons (a := piece), hPieces]
          simp

/-- A quoted text can be read, as a row of its characters. -/
theorem read?_quote (hFlags : flags.verbose = false) (text : Text) :
    read? flags (quote text) = some (row (text.map fun c => .one (flags.charSet c))) := by
  have hRead := readBranches?_quote hFlags [] (Nat.lt_succ_of_le (length_le_length_quote text))
    [] false
  rw [List.append_nil, pattern_of_pieces] at hRead
  rw [read?, Branches.start, hRead]

end Pattern

/-! ## Matching a row of characters -/

/-- The place after characters of some sets in turn. -/
def Spot.follow? : List CharSet → Spot → Option Spot
  | [], spot => some spot
  | set :: sets, spot => (spot.next? set).bind (follow? sets)

namespace Pattern

theorem stepAll_toList (step : Spot → List Spot) (next : Spot → Option Spot)
    (h : ∀ spot, step spot = (next spot).toList) (here : Option Spot) :
    stepAll step here.toList = (here.bind next).toList := by
  cases here with
  | none => rfl
  | some spot =>
      rw [stepAll, Option.toList_some, List.flatMap_singleton, h]
      cases hNext : next spot with
      | none => simp [hNext, distinctSpots]
      | some later => simp [hNext, distinctSpots]

/-- A row of characters matches in one way at most. -/
theorem ends_row (sets : List CharSet) (spot : Spot) :
    (row (sets.map .one)).ends spot = (spot.follow? sets).toList := by
  induction sets generalizing spot with
  | nil => rfl
  | cons set sets ih =>
      cases sets with
      | nil =>
          rw [List.map_singleton, row, ends, Spot.follow?]
          cases spot.next? set <;> rfl
      | cons next rest => exact stepAll_toList _ _ ih (spot.next? set)

theorem ends_literal (ignoreCase : Bool) (text : Text) (spot : Spot) :
    (literal ignoreCase text).ends spot =
      (spot.follow? (text.map fun c => CharSet.caselessIf ignoreCase (.single c))).toList := by
  induction text generalizing spot with
  | nil => rfl
  | cons c text ih => exact stepAll_toList _ _ ih (spot.next? _)

/-- Reading a quoted text leads to a pattern that matches what the literal one does. -/
theorem exists_read?_quote (flags : PatternFlags) (hFlags : flags.verbose = false)
    (text : Text) :
    ∃ pattern, read? flags (quote text) = some pattern ∧
      ∀ spot, pattern.ends spot = (literal flags.ignoreCase text).ends spot := by
  refine ⟨_, read?_quote hFlags text, fun spot => ?_⟩
  rw [ends_literal, ← ends_row, List.map_map]
  rfl

/-! ## Matching a text -/

theorem contains_single_iff {d : Char} : (CharSet.single c).contains d = true ↔ d = c := by
  rw [CharSet.single, CharSet.contains, Bool.and_eq_true, decide_eq_true_eq, decide_eq_true_eq]
  constructor
  · rintro ⟨hLess, hGreater⟩
    exact Char.le_antisymm hGreater hLess
  · rintro rfl
    exact ⟨Char.le_refl _, Char.le_refl _⟩

/-- With regard to case, a row of characters is followed where the text stands. -/
theorem follow?_single (text : Text) (spot : Spot) :
    (spot.follow? (text.map CharSet.single)).map (·.offset) =
      if text <+: spot.rest then some (spot.offset + text.length) else none := by
  induction text generalizing spot with
  | nil => simp [Spot.follow?]
  | cons c text ih =>
      rw [List.map_cons, Spot.follow?, Spot.next?]
      cases hRest : spot.rest with
      | nil => simp
      | cons d rest =>
          by_cases hSame : d = c
          · have hIn := contains_single_iff.mpr hSame
            simp only [hIn, if_true, Option.bind_some, ih]
            subst hSame
            simp [Nat.add_assoc, Nat.add_comm 1]
          · have hOut : (CharSet.single c).contains d = false := by
              rw [Bool.eq_false_iff, ne_eq, contains_single_iff]
              exact hSame
            simp [hOut, Ne.symm hSame]

/-- The literal pattern of a text, with regard to case, matches where the text stands. -/
theorem firstEnd?_literal (text : Text) (spot : Spot) :
    (literal false text).firstEnd? spot =
      if text <+: spot.rest then some (spot.offset + text.length) else none := by
  rw [← follow?_single, firstEnd?, ends_literal, Option.head?_toList]
  rfl

end Pattern

end ModalEditor
