import ModalEditor.Highlight.State
import ModalEditor.Proofs.Text.ChangedRegion

namespace ModalEditor

/-!
# Whose tree it is

Two things are said of keeping a tree up to date.  After every call the tree is that of
the text of the call in the language of the buffer, and the kind that the call reports
is the true one.  The first needs a parser that keeps the promise of incremental
parsing; the second does not depend on the parser.

A parser is also told which grammar to use, and it keeps the last one that it accepted.
That this is always the grammar of the language, wherever the language has a tree, is
shown at the end.
-/

namespace ChangedRegion

variable {region : ChangedRegion} {old new : Text}

/-- What an incremental parser has to be told of a change: a region that is exact, and
the points of its ends, with columns in bytes. -/
structure Describes (region : ChangedRegion) (old new : Text) : Prop where
  isExact : region.IsExact old new
  startPoint : region.startPoint = bytePointAt old region.start
  oldEndPoint : region.oldEndPoint = bytePointAt old region.oldEnd
  newEndPoint : region.newEndPoint = bytePointAt new region.newEnd

theorem between_eq_none_iff : between old new = .ok none ↔ old = new := by
  refine ⟨fun h => ?_, fun h => h ▸ between_self old⟩
  by_contra hDiffer
  obtain ⟨region, hRegion, -⟩ := between_of_ne hDiffer
  rw [hRegion] at h
  cases h

theorem describes_of_between (h : between old new = .ok (some region)) :
    region.Describes old new := by
  unfold between at h
  split at h
  · cases h
  dsimp only at h
  split at h
  · cases h
  · simp only [Except.ok.injEq, Option.some.injEq] at h
    have hOldEnd := Difference.byteLength_head_removed old new
    have hNewEnd := Difference.byteLength_head_added old new
    rw [← Difference.byteLength_tail] at hOldEnd hNewEnd
    have hAround : region.IsAround (Difference.between old new).head
        (Difference.between old new).removed (Difference.between old new).added := by
      rw [← h]
      exact ⟨rfl, hOldEnd.symm, hNewEnd.symm⟩
    have hExact := hAround.isExact (Difference.between old new).tail
    rw [Difference.head_removed_tail, Difference.head_added_tail] at hExact
    rw [← h] at hExact ⊢
    exact ⟨hExact, rfl, rfl, rfl⟩

end ChangedRegion

namespace Parser

/-- The promise of incremental parsing.  A parser that is given the tree of a text and is
told how the text changed makes the tree of the new text. -/
def IsFaithful (parser : Parser) : Prop :=
  ∀ language old new region, ChangedRegion.Describes region old new →
    parser.reparse language (parser.parse language old) region new = parser.parse language new

/-- The tree of a source in a language, if the language is parsed at all. -/
def tree? (parser : Parser) (language : Language) (source : Text) : Option Node :=
  if language.isParsed then some (parser.parse language source) else none

end Parser

/-- Whether a kind says truly what became of an old text in a language. -/
structure ReparseKind.IsTrue (kind : ReparseKind) (language : Language) (old new : Text) :
    Prop where
  skipped : kind = .skipped ↔ language = .plainText
  unchanged : language.isParsed = true → (kind = .unchanged ↔ new = old)
  incremental : language.isParsed = true → (kind = .incremental ↔
    ∃ region, ChangedRegion.between old new = .ok (some region) ∧ region.complexity = .simple)
  full : language.isParsed = true → (kind = .full ↔
    ∃ region, ChangedRegion.between old new = .ok (some region) ∧ region.complexity = .complex)

namespace Language

theorem isParsed_eq_false_iff {language : Language} :
    language.isParsed = false ↔ language = .plainText := by
  simp [isParsed]

end Language

namespace Highlighting

variable {parser : Parser} {state : Highlighting} {source old new : Text}

/-- Whether the tree is that of a source in the language. -/
def IsOf (state : Highlighting) (parser : Parser) (source : Text) : Prop :=
  state.tree = parser.tree? state.language source

theorem isOf_fresh (parser : Parser) (source : Text) : fresh.IsOf parser source := rfl

theorem isOf_parse (parser : Parser) (state : Highlighting) (source : Text) :
    (state.parse parser source).1.IsOf parser source := by
  unfold IsOf parse Parser.tree?
  cases hParsed : state.language.isParsed with
  | true => simp [hParsed]
  | false => simp [hParsed]

@[simp]
theorem parse_language (parser : Parser) (state : Highlighting) (source : Text) :
    (state.parse parser source).1.language = state.language := by
  unfold parse
  split <;> rfl

@[simp]
theorem resync_language (parser : Parser) (state : Highlighting) (old new : Text) :
    (state.resync parser old new).1.language = state.language := by
  unfold resync
  split
  · rfl
  · split
    · rfl
    · split
      · rfl
      · exact parse_language parser state new
    · exact parse_language parser state new

/-- Bringing the tree of a text up to date with another text makes the tree of that
text. -/
theorem IsOf.resync (hFaithful : parser.IsFaithful) (h : state.IsOf parser old) (new : Text) :
    (state.resync parser old new).1.IsOf parser new := by
  unfold Highlighting.resync
  cases hParsed : state.language.isParsed with
  | false =>
      unfold IsOf Parser.tree? at h ⊢
      simpa [hParsed] using h
  | true =>
      have hTree : state.tree = some (parser.parse state.language old) := by
        rw [h, Parser.tree?, if_pos hParsed]
      rw [Bool.not_true, if_neg Bool.false_ne_true]
      split
      next hSame _ =>
        rwa [← ChangedRegion.between_eq_none_iff.mp hSame]
      next region tree hRegion hOld =>
        split
        next =>
          obtain rfl : parser.parse state.language old = tree :=
            Option.some.inj (hTree.symm.trans hOld)
          have hReparsed := hFaithful state.language old new region
            (ChangedRegion.describes_of_between hRegion)
          unfold IsOf Parser.tree?
          rw [if_pos hParsed, hReparsed]
        next => exact isOf_parse parser state new
      next => exact isOf_parse parser state new

/-- The kind is the true one wherever a parsed language has a tree. -/
theorem isTrue_resync (hTree : state.language.isParsed = true → state.tree.isSome = true)
    (parser : Parser) (old new : Text) :
    (state.resync parser old new).2.IsTrue state.language old new := by
  unfold Highlighting.resync
  cases hParsed : state.language.isParsed with
  | false =>
      have hPlain := Language.isParsed_eq_false_iff.mp hParsed
      refine ⟨by simpa using hPlain, ?_, ?_, ?_⟩ <;> simp [hPlain, Language.isParsed]
  | true =>
      have hLanguage : state.language ≠ .plainText := fun hPlain => by
        rw [hPlain] at hParsed
        cases hParsed
      obtain ⟨tree, hSome⟩ := Option.isSome_iff_exists.mp (hTree hParsed)
      rw [Bool.not_true, if_neg Bool.false_ne_true, hSome]
      by_cases hSame : old = new
      · subst hSame
        rw [ChangedRegion.between_self]
        constructor <;> simp [hLanguage, ChangedRegion.between_self]
      · obtain ⟨region, hRegion, -⟩ := ChangedRegion.between_of_ne hSame
        rw [hRegion]
        dsimp only
        have hOther : new ≠ old := Ne.symm hSame
        cases hComplexity : region.complexity with
        | simple =>
            rw [if_pos rfl]
            constructor <;> simp [hLanguage, hOther, hRegion, hComplexity]
        | complex =>
            rw [if_neg (by decide), parse, if_pos hParsed]
            constructor <;> simp [hLanguage, hOther, hRegion, hComplexity]

end Highlighting

/-! ## The grammar that the parser holds -/

/-- One call on what is kept for a buffer. -/
inductive HighlightCall where
  | setLanguage (language : Language)
  | parse (source : Text)
  | resync (old new : Text)

/-- The highlighting after a call. -/
def Highlighting.call (parser : Parser) (state : Highlighting) : HighlightCall → Highlighting
  | .setLanguage language => state.setLanguage parser language
  | .parse source => (state.parse parser source).1
  | .resync old new => (state.resync parser old new).1

/-- What is kept for one buffer when the parser holds a grammar of its own. -/
structure Highlighter where
  /-- The grammar that the parser accepted last. -/
  grammar : Option Language
  shown : Highlighting

namespace Highlighter

/-- Plain text, and a parser without a grammar. -/
def fresh : Highlighter := ⟨none, .fresh⟩

/-- Switches the language and drops the tree.  The parser takes the grammar of the
language if there is one.  A grammar that it does not accept leaves plain text, and the
parser with the grammar that it had. -/
def setLanguage (parser : Parser) (highlighter : Highlighter) (language : Language) :
    Highlighter :=
  if highlighter.shown.language = language then highlighter
  else if language.hasGrammar then
    if parser.accepts language then ⟨some language, ⟨language, none⟩⟩
    else ⟨highlighter.grammar, ⟨.plainText, none⟩⟩
  else ⟨highlighter.grammar, ⟨language, none⟩⟩

/-- Parses a text with the grammar that the parser holds. -/
def parse (parser : Parser) (highlighter : Highlighter) (source : Text) :
    Highlighter × ReparseKind :=
  let ⟨grammar, language, _⟩ := highlighter
  if language.isParsed then
    (⟨grammar, language, grammar.map (parser.parse · source)⟩, .full)
  else (⟨grammar, language, none⟩, .skipped)

/-- Brings the tree of the old text up to date with the new one, with the grammar that
the parser holds. -/
def resync (parser : Parser) (highlighter : Highlighter) (old new : Text) :
    Highlighter × ReparseKind :=
  let ⟨grammar, language, tree⟩ := highlighter
  if !language.isParsed then (highlighter, .skipped)
  else
    match ChangedRegion.between old new, tree with
    | .ok none, some _ => (highlighter, .unchanged)
    | .ok (some region), some tree =>
        if region.complexity = .simple then
          (⟨grammar, language, grammar.map (parser.reparse · tree region new)⟩, .incremental)
        else highlighter.parse parser new
    | _, _ => highlighter.parse parser new

/-- The state after a call. -/
def call (parser : Parser) (highlighter : Highlighter) : HighlightCall → Highlighter
  | .setLanguage language => highlighter.setLanguage parser language
  | .parse source => (highlighter.parse parser source).1
  | .resync old new => (highlighter.resync parser old new).1

/-- Whether the grammar is that of the language, if texts of the language are parsed. -/
def Fits (highlighter : Highlighter) : Prop :=
  highlighter.shown.language.isParsed = true →
    highlighter.grammar = some highlighter.shown.language

variable {highlighter : Highlighter}

theorem fits_fresh : fresh.Fits := by
  intro hParsed
  cases hParsed

theorem setLanguage_shown (parser : Parser) (highlighter : Highlighter) (language : Language) :
    (highlighter.setLanguage parser language).shown =
      highlighter.shown.setLanguage parser language := by
  unfold setLanguage Highlighting.setLanguage
  split
  · rfl
  · cases language.hasGrammar with
    | false => rfl
    | true => cases parser.accepts language <;> rfl

/-- Whatever the parser accepts, it holds the grammar of the language that is parsed. -/
theorem Fits.setLanguage (h : highlighter.Fits) (parser : Parser) (language : Language) :
    (highlighter.setLanguage parser language).Fits := by
  unfold Highlighter.setLanguage
  split
  · exact h
  · split
    · split
      · exact fun _ => rfl
      · exact fun hParsed => by cases hParsed
    next hGrammar => exact fun hParsed => absurd hParsed hGrammar

/-- Where the grammar fits, a text is parsed in the language. -/
theorem Fits.parse_eq (h : highlighter.Fits) (parser : Parser) (source : Text) :
    highlighter.parse parser source =
      (⟨highlighter.grammar, (highlighter.shown.parse parser source).1⟩,
        (highlighter.shown.parse parser source).2) := by
  obtain ⟨grammar, language, tree⟩ := highlighter
  unfold parse Highlighting.parse
  dsimp only
  split
  next hParsed =>
    obtain rfl : grammar = some language := h hParsed
    rfl
  next => rfl

theorem Fits.resync_eq (h : highlighter.Fits) (parser : Parser) (old new : Text) :
    highlighter.resync parser old new =
      (⟨highlighter.grammar, (highlighter.shown.resync parser old new).1⟩,
        (highlighter.shown.resync parser old new).2) := by
  have hParse := h.parse_eq parser new
  obtain ⟨grammar, language, tree⟩ := highlighter
  unfold resync Highlighting.resync
  dsimp only at hParse ⊢
  cases hParsed : language.isParsed with
  | false => rfl
  | true =>
      obtain rfl : grammar = some language := h hParsed
      rw [Bool.not_true, if_neg Bool.false_ne_true, if_neg Bool.false_ne_true]
      cases ChangedRegion.between old new with
      | error _ => exact hParse
      | ok change =>
          cases change with
          | none =>
              cases tree with
              | none => exact hParse
              | some tree => rfl
          | some region =>
              cases tree with
              | none => exact hParse
              | some tree =>
                  dsimp only
                  split
                  · rfl
                  · exact hParse

/-- A call keeps the grammar fitting, and it shows what it shows without one. -/
theorem Fits.call (h : highlighter.Fits) (parser : Parser) (call : HighlightCall) :
    (highlighter.call parser call).Fits ∧
      (highlighter.call parser call).shown = highlighter.shown.call parser call := by
  cases call with
  | setLanguage language =>
      exact ⟨h.setLanguage parser language, setLanguage_shown parser highlighter language⟩
  | parse source =>
      simp only [Highlighter.call, Highlighting.call, h.parse_eq, and_true]
      rw [Fits, Highlighting.parse_language]
      exact h
  | resync old new =>
      simp only [Highlighter.call, Highlighting.call, h.resync_eq, and_true]
      rw [Fits, Highlighting.resync_language]
      exact h

theorem Fits.calls (h : highlighter.Fits) (parser : Parser) (calls : List HighlightCall) :
    (calls.foldl (Highlighter.call parser) highlighter).Fits ∧
      (calls.foldl (Highlighter.call parser) highlighter).shown =
        calls.foldl (Highlighting.call parser) highlighter.shown := by
  induction calls generalizing highlighter with
  | nil => exact ⟨h, rfl⟩
  | cons call calls ih =>
      obtain ⟨hFits, hShown⟩ := h.call parser call
      rw [List.foldl_cons, List.foldl_cons, ← hShown]
      exact ih hFits

end Highlighter

end ModalEditor
