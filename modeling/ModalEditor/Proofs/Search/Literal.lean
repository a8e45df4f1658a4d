import ModalEditor.Proofs.Search.Library

namespace ModalEditor

/-!
# Searching for a text as it is

A search that takes its query literally quotes it, has the result read as a pattern, and
searches for that.  With regard to case it finds the occurrences of the query, from left to
right, each behind the one before.  It is of no account what characters the query has, whether
it goes over several lines or whether occurrences overlap.

Two promises of a library lead to this.  Matches are found from left to right, each from the
first place on that the pattern matches at, and a quoted text matches where that text stands.
-/

/-- Where an occurrence of a query at a place of a text ends, if there is one. -/
def occurrence? (query text : Text) (place : Nat) : Option Nat :=
  if query <+: text.drop place then some (place + query.length) else none

namespace PatternLibrary

variable {Compiled : Type}

/-- What a library promises about the order in which it finds matches: those with characters
follow each other, where `stop?` tells the end that a pattern prefers from a place. -/
def IsLeftmost (lib : PatternLibrary Compiled) (stop? : Compiled → Text → Nat → Option Nat) :
    Prop :=
  ∀ compiled text, ∃ found, Match.Successive (stop? compiled text) 0 found ∧
    (lib.stretches compiled text).filter (!·.isEmpty) = found.map (Match.toStretch text)

/-- What a library promises about quoted texts: they can be read, and what was read matches
where the text stands. -/
def QuotesLiterally (lib : PatternLibrary Compiled)
    (stop? : Compiled → Text → Nat → Option Nat) : Prop :=
  ∀ query, ∃ compiled, lib.compile? false true (lib.quote query) = some compiled ∧
    ∀ text place, stop? compiled text place = occurrence? query text place

end PatternLibrary

namespace Match

variable {stop? : Nat → Option Nat} {place : Nat} {found : List Match} {query text : Text}

theorem Successive.stop_eq (h : Successive stop? place found) :
    ∀ m ∈ found, m.start < m.stop ∧ stop? m.start = some m.stop := by
  induction h with
  | none => exact List.forall_mem_nil _
  | next hPlace hFirst hStop hTakes hRest ih =>
      exact List.forall_mem_cons.mpr ⟨⟨hTakes, hStop⟩, ih⟩

/-- Occurrences of a query are in the text. -/
theorem Successive.bounds (h : Successive (occurrence? query text) place found) :
    ∀ m ∈ found, m.start ≤ m.stop ∧ m.stop ≤ text.length := by
  intro m hm
  obtain ⟨hTakes, hStop⟩ := h.stop_eq m hm
  rw [occurrence?] at hStop
  split at hStop
  next hPrefix =>
    have hLength := hPrefix.length_le
    rw [List.length_drop] at hLength
    have hEnd := Option.some.inj hStop
    omega
  next => cases hStop

end Match

namespace PatternLibrary

variable {Compiled : Type} {lib : PatternLibrary Compiled}
  {stop? : Compiled → Text → Nat → Option Nat} {search : Search}

/-- The matches of a query that is taken literally are its successive occurrences. -/
theorem successive_taken (hLeftmost : lib.IsLeftmost stop?) (hQuotes : lib.QuotesLiterally stop?)
    (hQuery : search.query ≠ []) (hCase : search.caseSensitive = true)
    (hLiteral : search.usesPattern = false) (text : Text) :
    Match.Successive (occurrence? search.query text) 0
      ((lib.taken search text).map (Stretch.toMatch text)) := by
  obtain ⟨compiled, hCompiled, hStop⟩ := hQuotes search.query
  obtain ⟨found, hFound, hStretches⟩ := hLeftmost compiled text
  rw [funext (hStop text)] at hFound
  have hPattern : lib.pattern? search = some compiled := by
    rw [pattern?, hCase, hLiteral]
    exact hCompiled
  have hTaken : lib.taken search text = found.map (Match.toStretch text) := by
    rw [taken, if_neg (by simpa using hQuery), hPattern]
    exact hStretches
  rw [hTaken, Match.map_toMatch_map_toStretch hFound.bounds]
  exact hFound

end PatternLibrary

namespace Pattern

theorem isLeftmost_library : library.IsLeftmost stopAt? :=
  fun pattern text => ⟨pattern.findAll text, successive_findAll pattern text,
    filter_stretches pattern text⟩

theorem quotesLiterally_library : library.QuotesLiterally stopAt? := by
  intro query
  obtain ⟨pattern, hRead, hEnds⟩ := exists_read?_quote (.forSearch true) rfl query
  refine ⟨pattern, hRead, fun text place => ?_⟩
  rw [stopAt?, firstEnd?, hEnds]
  exact firstEnd?_literal query (Spot.at text place)

end Pattern

namespace Search

/-- After calls of which the last one searches a text, a query that is taken literally and with
regard to case has been found at its occurrences, from left to right, each at the first place
behind the one before.  With any library that finds matches from left to right and quotes texts
as promised, no step fails and the matches are just these.  The patterns that queries are read
as are such a library. -/
theorem literal_matches_are_occurrences (calls : List SearchCall) (last : SearchCall)
    (text : Text) (hText : last.text? = some text) :
    let search := SearchCall.run (calls ++ [last])
    search.query ≠ [] → search.caseSensitive = true → search.usesPattern = false →
      (∀ list, Match.Successive (occurrence? search.query text) 0 list ↔ list = search.found) ∧
      (∀ (Compiled : Type) (lib : PatternLibrary Compiled)
        (stop? : Compiled → Text → Nat → Option Nat),
        lib.IsOrderly → lib.IsLeftmost stop? → lib.QuotesLiterally stop? →
        ∃ found, lib.run (calls ++ [last]) = .ok { search with found } ∧
          ∀ list, Match.Successive (occurrence? search.query text) 0 list ↔ list = found) ∧
      Pattern.library.IsOrderly ∧ Pattern.library.IsLeftmost Pattern.stopAt? ∧
        Pattern.library.QuotesLiterally Pattern.stopAt? ∧
        Pattern.library.run (calls ++ [last]) = .ok search := by
  intro search hQuery hCase hLiteral
  have hLibrary {Compiled : Type} {lib : PatternLibrary Compiled}
      {stop? : Compiled → Text → Nat → Option Nat} (hLeftmost : lib.IsLeftmost stop?)
      (hQuotes : lib.QuotesLiterally stop?) (list : List Match) :
      Match.Successive (occurrence? search.query text) 0 list ↔
        list = (lib.taken search text).map (Stretch.toMatch text) := by
    have hTaken := PatternLibrary.successive_taken hLeftmost hQuotes hQuery hCase hLiteral text
    constructor
    · exact fun hList => hList.unique hTaken
    · rintro rfl
      exact hTaken
  have hRun := Pattern.run_library (calls ++ [last])
  refine ⟨fun list => ?_, fun Compiled lib stop? hOrderly hLeftmost hQuotes => ?_,
    Pattern.isOrderly_library, Pattern.isLeftmost_library, Pattern.quotesLiterally_library, hRun⟩
  · have hFound := PatternLibrary.run_concat_eq Pattern.isOrderly_library calls hText
    rw [hRun, Except.ok.injEq] at hFound
    rw [show search.found = _ from congrArg Search.found hFound]
    exact hLibrary Pattern.isLeftmost_library Pattern.quotesLiterally_library list
  · exact ⟨_, PatternLibrary.run_concat_eq hOrderly calls hText, hLibrary hLeftmost hQuotes⟩

/-- A query over two lines, with characters that mean something in a pattern, whose occurrences
overlap.  The one in the middle is passed over. -/
theorem overlapping_occurrences_are_passed_over :
    let calls : List SearchCall := [.setQuery ['.'] ['a'], .setCaseSensitive true]
    let query : Text := ['.', '\n', '.']
    let text : Text := ['é', '.', '\n', '.', '\n', '.', '\n', '.', 'a', '\n', 'a']
    let search := SearchCall.run (calls ++ [.setQuery query text])
    search.found = [⟨1, 4⟩, ⟨5, 8⟩] ∧
      Match.Successive (occurrence? query text) 0 [⟨1, 4⟩, ⟨5, 8⟩] ∧
      ∃ found, Pattern.library.run (calls ++ [.setQuery query text]) = .ok { search with found } ∧
        Match.Successive (occurrence? query text) 0 found := by
  intro calls query text search
  obtain ⟨hFound, hEvery, hOrderly, hLeftmost, hQuotes, -⟩ :=
    literal_matches_are_occurrences calls (.setQuery query text) text rfl (by decide) rfl rfl
  have hMatches : [⟨1, 4⟩, ⟨5, 8⟩] = search.found := by decide
  obtain ⟨found, hRun, hSame⟩ :=
    hEvery Pattern Pattern.library Pattern.stopAt? hOrderly hLeftmost hQuotes
  exact ⟨hMatches.symm, (hFound _).mpr hMatches, found, hRun, (hSame found).mpr rfl⟩

end Search

end ModalEditor
