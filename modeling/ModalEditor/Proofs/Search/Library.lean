import Mathlib.Data.List.Forall2
import ModalEditor.Proofs.Pattern.Iteration
import ModalEditor.Proofs.Pattern.Quoting
import ModalEditor.Proofs.Search.Stretches
import ModalEditor.Search.Basic

namespace ModalEditor

/-!
# Searching with a library of patterns

A library of patterns tells in bytes where its matches are, and some of them have no
characters.  A search leaves these out and counts the characters in one pass: it goes on from
each end to the next, and cuts the text there.

How the library finds matches is its own affair.  They come in order, none of them starts
before the one before it ends, and they never cut a character.  So no cut fails, and each match
of the search is the same part of the text as the match of the library that it comes from.
-/

/-- What a library of patterns offers. -/
structure PatternLibrary (Compiled : Type) where
  /-- The pattern that spells a text. -/
  quote : Text → Text
  /-- Reads a pattern, with or without regard to case and line by line or not. -/
  compile? : (ignoreCase multiLine : Bool) → Text → Option Compiled
  /-- All matches of a pattern in a text. -/
  stretches : Compiled → Text → List Stretch

/-- What a library promises: whatever the pattern and the text, the matches come in order
without overlapping and cut no character. -/
def PatternLibrary.IsOrderly {Compiled : Type} (lib : PatternLibrary Compiled) : Prop :=
  ∀ compiled text, Stretch.Orderly text (lib.stretches compiled text)

/-! ## Searching -/

namespace PatternLibrary

variable {Compiled : Type}

open Checked

/-- The pattern to search for. -/
def pattern? (lib : PatternLibrary Compiled) (search : Search) : Option Compiled :=
  let pattern := if search.usesPattern then search.query else lib.quote search.query
  lib.compile? (!search.caseSensitive) true pattern

/-- Searches a text for the query. -/
def findAll (lib : PatternLibrary Compiled) (search : Search) (text : Text) : Checked Search :=
  if search.query.isEmpty then pure { search with found := [] }
  else
    match lib.pattern? search with
    | none => pure { search with found := [] }
    | some compiled => do
        let last ← (lib.stretches compiled text).foldlM (Tally.collect text) (⟨0, 0⟩, [])
        pure { search with found := last.2 }

def setQuery (lib : PatternLibrary Compiled) (search : Search) (query text : Text) :
    Checked Search :=
  lib.findAll { search with query } text

def refresh (lib : PatternLibrary Compiled) (search : Search) (text : Text) : Checked Search :=
  if search.isActive then lib.findAll search text else pure search

/-- The matches of the query that have characters, as the library has them. -/
def taken (lib : PatternLibrary Compiled) (search : Search) (text : Text) : List Stretch :=
  if search.query.isEmpty then []
  else (lib.pattern? search).elim [] fun compiled =>
    (lib.stretches compiled text).filter (!·.isEmpty)

end PatternLibrary

/-- What can be asked of a search. -/
inductive SearchCall where
  | setQuery (query text : Text)
  | refresh (text : Text)
  | clear
  | setCaseSensitive (value : Bool)
  | setUsesPattern (value : Bool)

namespace SearchCall

/-- The text that a call searches. -/
def text? : SearchCall → Option Text
  | .setQuery _ text | .refresh text => some text
  | .clear | .setCaseSensitive _ | .setUsesPattern _ => none

/-- What a call makes of a search. -/
def apply (search : Search) : SearchCall → Search
  | .setQuery query text => search.setQuery query text
  | .refresh text => search.refresh text
  | .clear => search.clear
  | .setCaseSensitive caseSensitive => { search with caseSensitive }
  | .setUsesPattern usesPattern => { search with usesPattern }

/-- What calls make of a new search. -/
def run (calls : List SearchCall) : Search :=
  calls.foldl apply (Search.ofOptions false false)

end SearchCall

namespace PatternLibrary

variable {Compiled : Type}

/-- What a call makes of a search with a library. -/
def apply (lib : PatternLibrary Compiled) (search : Search) : SearchCall → Checked Search
  | .setQuery query text => lib.setQuery search query text
  | .refresh text => lib.refresh search text
  | call => pure (call.apply search)

/-- What calls make of a new search with a library. -/
def run (lib : PatternLibrary Compiled) (calls : List SearchCall) : Checked Search :=
  calls.foldlM lib.apply (Search.ofOptions false false)

end PatternLibrary

/-! ## Searching with a library -/

namespace PatternLibrary

open Checked

variable {Compiled : Type} {lib : PatternLibrary Compiled} {search : Search} {text : Text}

theorem orderly_taken (h : lib.IsOrderly) (search : Search) (text : Text) :
    Stretch.Orderly text (lib.taken search text) := by
  rw [taken]
  split
  · exact ⟨List.forall_mem_nil _, List.Pairwise.nil⟩
  · cases lib.pattern? search with
    | none => exact ⟨List.forall_mem_nil _, List.Pairwise.nil⟩
    | some compiled => exact (h compiled text).filter _

theorem isEmpty_of_mem_taken {stretch : Stretch} (h : stretch ∈ lib.taken search text) :
    stretch.isEmpty = false := by
  rw [taken] at h
  split at h
  · cases h
  · cases hPattern : lib.pattern? search with
    | none =>
        rw [hPattern] at h
        cases h
    | some compiled =>
        rw [hPattern] at h
        simpa using (List.mem_filter.mp h).2

/-- No step of a search fails. -/
theorem findAll_eq (h : lib.IsOrderly) (search : Search) (text : Text) :
    lib.findAll search text =
      .ok { search with found := (lib.taken search text).map (Stretch.toMatch text) } := by
  rw [findAll, taken]
  split
  · rfl
  · cases lib.pattern? search with
    | none => rfl
    | some compiled =>
        have hStart : ∀ stretch ∈ lib.stretches compiled text, byteLength [] ≤ stretch.start :=
          fun _ _ => Nat.zero_le _
        obtain ⟨last, hLast⟩ :=
          Tally.foldlM_collect (h compiled text) List.nil_prefix hStart []
        rw [List.nil_append] at hLast
        show ((lib.stretches compiled text).foldlM (Tally.collect text) (Tally.after [], []) >>=
          fun last => pure { search with found := last.2 }) = _
        rw [hLast]
        rfl

/-- Each call can be carried out and changes the query and the flags as asked.  Without a query
there are no matches after it either, and after a call that searches a text they are those in
this text. -/
theorem exists_apply_eq (h : lib.IsOrderly) (search : Search) {found : List Match}
    (hRests : search.query = [] → found = []) (call : SearchCall) :
    ∃ next, lib.apply { search with found } call = .ok { call.apply search with found := next } ∧
      ((call.apply search).query = [] → next = []) ∧
      ∀ text, call.text? = some text →
        next = (lib.taken (call.apply search) text).map (Stretch.toMatch text) := by
  have hQuiet {search : Search} (hQuery : search.query.isEmpty = true) (text : Text) :
      (lib.taken search text).map (Stretch.toMatch text) = [] := by
    rw [taken, if_pos hQuery]
    rfl
  have hNone {search : Search} (text : Text) (hQuery : search.query = []) :=
    hQuiet (List.isEmpty_iff.mpr hQuery) text
  cases call with
  | setQuery query text =>
      refine ⟨_, findAll_eq h _ text, hNone text, fun other hOther => ?_⟩
      obtain rfl := Option.some.inj hOther
      rfl
  | refresh text =>
      rw [SearchCall.apply, Search.refresh, apply, refresh]
      cases hActive : search.isActive with
      | true =>
          refine ⟨_, (if_pos hActive).trans (findAll_eq h _ text), hNone text, ?_⟩
          intro other hOther
          obtain rfl := Option.some.inj hOther
          rfl
      | false =>
          have hQuery : search.query.isEmpty = true := by simpa [Search.isActive] using hActive
          refine ⟨found, if_neg (ne_true_of_eq_false hActive), hRests, fun other _ => ?_⟩
          exact (hRests (List.isEmpty_iff.mp hQuery)).trans (hQuiet hQuery other).symm
  | clear => exact ⟨_, rfl, fun _ => rfl, nofun⟩
  | setCaseSensitive value => exact ⟨_, rfl, hRests, nofun⟩
  | setUsesPattern value => exact ⟨_, rfl, hRests, nofun⟩

theorem exists_run_eq (h : lib.IsOrderly) (calls : List SearchCall) :
    ∃ found, lib.run calls = .ok { SearchCall.run calls with found } ∧
      ((SearchCall.run calls).query = [] → found = []) := by
  have hAll (search : Search) (found : List Match) (hRests : search.query = [] → found = []) :
      ∃ last, calls.foldlM lib.apply { search with found } =
          .ok { calls.foldl SearchCall.apply search with found := last } ∧
        ((calls.foldl SearchCall.apply search).query = [] → last = []) := by
    induction calls generalizing search found with
    | nil => exact ⟨found, rfl, hRests⟩
    | cons call calls ih =>
        obtain ⟨next, hNext, hNextRests, -⟩ := exists_apply_eq h search hRests call
        rw [List.foldlM_cons, List.foldl_cons, hNext]
        exact ih _ next hNextRests
  exact hAll (Search.ofOptions false false) [] fun _ => rfl

/-- After calls of which the last one searches a text, the matches are those in this text. -/
theorem run_concat_eq (h : lib.IsOrderly) (calls : List SearchCall) {last : SearchCall}
    (hText : last.text? = some text) :
    let search := SearchCall.run (calls ++ [last])
    lib.run (calls ++ [last]) =
      .ok { search with found := (lib.taken search text).map (Stretch.toMatch text) } := by
  intro search
  have hSearch : search = last.apply (SearchCall.run calls) := by
    simp only [search, SearchCall.run, List.foldl_append, List.foldl_cons, List.foldl_nil]
  obtain ⟨before, hBefore, hRests⟩ := exists_run_eq h calls
  obtain ⟨found, hFound, -, hCurrent⟩ := exists_apply_eq h (SearchCall.run calls) hRests last
  rw [run] at hBefore
  rw [run, List.foldlM_append, hBefore, ok_bind, List.foldlM_cons, hFound, hSearch,
    ← hCurrent text hText]
  rfl

end PatternLibrary

/-! ## The patterns as a library -/

namespace Pattern

/-- The patterns that queries are read as. -/
def library : PatternLibrary Pattern where
  quote := quote
  compile? ignoreCase multiLine := read? ⟨ignoreCase, multiLine, false, false, false, false⟩
  stretches pattern text := (pattern.findEvery text).map (Match.toStretch text)

variable {text : Text} {m : Match}

theorem bounds_of_mem_findEvery {pattern : Pattern} (h : m ∈ pattern.findEvery text) :
    m.start ≤ m.stop ∧ m.stop ≤ text.length := by
  obtain ⟨-, hOrder, hStop⟩ := bounds_of_mem_everyFrom (Nat.zero_le _) h
  exact ⟨hOrder, by rwa [Nat.zero_add] at hStop⟩

theorem isOrderly_library : library.IsOrderly := by
  intro pattern text
  constructor
  · refine List.forall_mem_map.mpr fun m hm => ?_
    have hOrder := (bounds_of_mem_findEvery hm).1
    exact ⟨byteOffset_le hOrder text, isBoundary_byteOffset _ _, isBoundary_byteOffset _ _⟩
  · refine List.pairwise_map.mpr ?_
    exact (pairwise_everyFrom (Nat.zero_le _)).imp fun hLess => byteOffset_le hLess text

/-- The matches with characters are those that a search finds. -/
theorem filter_stretches (pattern : Pattern) (text : Text) :
    (library.stretches pattern text).filter (!·.isEmpty) =
      (pattern.findAll text).map (Match.toStretch text) := by
  have hKept : ∀ m ∈ pattern.findEvery text,
      (!(m.toStretch text).isEmpty) = decide (m.start < m.stop) := by
    intro m hm
    obtain ⟨hOrder, hStop⟩ := bounds_of_mem_findEvery hm
    rw [Bool.eq_iff_iff, Bool.not_eq_true', Bool.eq_false_iff, ne_eq,
      Match.isEmpty_toStretch_iff hOrder hStop, Nat.not_le, decide_eq_true_eq]
  show ((pattern.findEvery text).map (Match.toStretch text)).filter (!·.isEmpty) = _
  rw [List.filter_map, ← filter_findEvery, ← List.filter_congr hKept]
  rfl

theorem map_toMatch_stretches (pattern : Pattern) (text : Text) :
    ((library.stretches pattern text).filter (!·.isEmpty)).map (Stretch.toMatch text) =
      pattern.findAll text := by
  rw [filter_stretches]
  refine Match.map_toMatch_map_toStretch fun m hm => ?_
  rw [← filter_findEvery] at hm
  exact bounds_of_mem_findEvery (List.mem_filter.mp hm).1

theorem matchesFrom_congr {first second : Pattern} (h : ∀ spot, first.ends spot = second.ends spot)
    (offset : Nat) (previous : Option Char) (skip : Nat) (text : Text) :
    first.matchesFrom offset previous skip text = second.matchesFrom offset previous skip text := by
  induction text generalizing offset previous skip with
  | nil => cases skip <;> rfl
  | cons c text ih =>
      cases skip with
      | succ skip => exact ih _ _ _
      | zero => simp only [matchesFrom, firstEnd?, h, ih]

/-- With these patterns the matches of the library are those of a search. -/
theorem map_toMatch_taken (search : Search) (text : Text) :
    (library.taken search text).map (Stretch.toMatch text) = search.run text := by
  rw [PatternLibrary.taken, Search.run, PatternLibrary.pattern?, Search.pattern?]
  split
  · rfl
  · cases hPattern : search.usesPattern with
    | true =>
        show ((read? (.forSearch search.caseSensitive) search.query).elim [] _).map _ = _
        cases hRead : read? (.forSearch search.caseSensitive) search.query with
        | none => rfl
        | some pattern => exact map_toMatch_stretches pattern text
    | false =>
        obtain ⟨pattern, hRead, hEnds⟩ :=
          exists_read?_quote (.forSearch search.caseSensitive) rfl search.query
        show ((read? (.forSearch search.caseSensitive) (quote search.query)).elim [] _).map _ = _
        rw [hRead]
        exact (map_toMatch_stretches pattern text).trans (matchesFrom_congr hEnds 0 none 0 text)

/-- With these patterns a call does to a search what it does without a library. -/
theorem apply_library (search : Search) (call : SearchCall) :
    library.apply search call = .ok (call.apply search) := by
  have hFound (search : Search) (text : Text) :
      library.findAll search text = .ok { search with found := search.run text } := by
    rw [PatternLibrary.findAll_eq isOrderly_library, map_toMatch_taken]
  cases call with
  | setQuery query text => exact hFound { search with query } text
  | refresh text =>
      rw [PatternLibrary.apply, PatternLibrary.refresh, SearchCall.apply, Search.refresh, hFound]
      split <;> rfl
  | clear => rfl
  | setCaseSensitive value => rfl
  | setUsesPattern value => rfl

theorem run_library (calls : List SearchCall) :
    library.run calls = .ok (SearchCall.run calls) := by
  have hAll (search : Search) :
      calls.foldlM library.apply search = .ok (calls.foldl SearchCall.apply search) := by
    induction calls generalizing search with
    | nil => rfl
    | cons call calls ih =>
        rw [List.foldlM_cons, apply_library]
        exact ih _
  exact hAll _

end Pattern

namespace Search

/-- After calls of which the last one searches a text, the matches are parts of it in order.
With any library whose matches come in order and cut no character, no step fails, and each
match is the same part of the text as the match of the library that has its number when those
without characters are left out.  The patterns that queries are read as are such a library,
and with them the matches are those of the search. -/
theorem matches_are_those_of_library (calls : List SearchCall) (last : SearchCall) (text : Text)
    (hText : last.text? = some text) :
    let search := SearchCall.run (calls ++ [last])
    Match.WellFormed search.found text ∧
      (∀ (Compiled : Type) (lib : PatternLibrary Compiled), lib.IsOrderly →
        ∃ found, lib.run (calls ++ [last]) = .ok { search with found } ∧
          Match.WellFormed found text ∧
          List.Forall₂ (Stretch.IsMatch text) (lib.taken search text) found) ∧
      Pattern.library.IsOrderly ∧ Pattern.library.run (calls ++ [last]) = .ok search := by
  intro search
  have hFormed {Compiled : Type} {lib : PatternLibrary Compiled} (h : lib.IsOrderly) :
      Match.WellFormed ((lib.taken search text).map (Stretch.toMatch text)) text :=
    (PatternLibrary.orderly_taken h search text).wellFormed
      fun _ => PatternLibrary.isEmpty_of_mem_taken
  have hLibrary := Pattern.run_library (calls ++ [last])
  refine ⟨?_, fun Compiled lib h => ?_, Pattern.isOrderly_library, hLibrary⟩
  · have hFound := PatternLibrary.run_concat_eq Pattern.isOrderly_library calls hText
    rw [hLibrary, Except.ok.injEq] at hFound
    rw [show search.found = _ from congrArg Search.found hFound]
    exact hFormed Pattern.isOrderly_library
  · refine ⟨_, PatternLibrary.run_concat_eq h calls hText, hFormed h, ?_⟩
    refine List.forall₂_map_right_iff.mpr (List.forall₂_same.mpr fun stretch hMem => ?_)
    exact ((PatternLibrary.orderly_taken h search text).isPartOf stretch hMem).isMatch_toMatch

/-- Any number of letters of two bytes, none among them, is found again after the text has
changed.  Where there are no such letters the library has matches too, which are left out. -/
theorem matches_without_characters_are_left_out :
    let calls : List SearchCall :=
      [.setCaseSensitive true, .setUsesPattern true, .setQuery ['é', '*'] ['é']]
    let text : Text := ['a', 'é', 'é', '\n', 'b', 'é']
    let search := SearchCall.run (calls ++ [.refresh text])
    ((Pattern.library.pattern? search).map (Pattern.library.stretches · text) =
        some [⟨0, 0⟩, ⟨1, 5⟩, ⟨6, 6⟩, ⟨7, 9⟩]) ∧
      search.found = [⟨1, 3⟩, ⟨5, 6⟩] ∧ Match.WellFormed search.found text ∧
      ∃ found, Pattern.library.run (calls ++ [.refresh text]) = .ok { search with found } ∧
        List.Forall₂ (Stretch.IsMatch text) [⟨1, 5⟩, ⟨7, 9⟩] found := by
  intro calls text search
  obtain ⟨hFormed, hEvery, hOrderly, -⟩ :=
    matches_are_those_of_library calls (.refresh text) text rfl
  obtain ⟨found, hRun, -, hSame⟩ := hEvery Pattern Pattern.library hOrderly
  have hTaken : Pattern.library.taken search text = [⟨1, 5⟩, ⟨7, 9⟩] := by decide
  rw [hTaken] at hSame
  exact ⟨by decide, by decide, hFormed, found, hRun, hSame⟩

end Search

end ModalEditor
