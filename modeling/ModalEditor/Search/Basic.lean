import ModalEditor.Pattern.Reader

namespace ModalEditor

/-!
# Searching a buffer

A search keeps its query and the matches it found.  The query is read as a
pattern or taken literally, with or without regard to case.  A query that is no
pattern finds nothing, and neither does the empty one.
-/

/-- The search of one buffer. -/
structure Search where
  query : Text
  found : List Match
  caseSensitive : Bool
  /-- Whether the query is read as a pattern. -/
  usesPattern : Bool
  deriving DecidableEq, Repr, Inhabited

namespace Search

/-- A search for nothing. -/
def ofOptions (caseSensitive usesPattern : Bool) : Search :=
  ⟨[], [], caseSensitive, usesPattern⟩

/-- Whether there is a query. -/
def isActive (search : Search) : Bool :=
  !search.query.isEmpty

/-- The pattern to search for. -/
def pattern? (search : Search) : Option Pattern :=
  if search.usesPattern then
    Pattern.read? (PatternFlags.forSearch search.caseSensitive) search.query
  else some (Pattern.literal (!search.caseSensitive) search.query)

/-- The matches of the query in a text. -/
def run (search : Search) (text : Text) : List Match :=
  if search.query.isEmpty then []
  else search.pattern?.elim [] fun pattern => pattern.findAll text

/-- Searches for a query. -/
def setQuery (search : Search) (query text : Text) : Search :=
  let search := { search with query }
  { search with found := search.run text }

/-- Searches again, after the text has changed. -/
def refresh (search : Search) (text : Text) : Search :=
  if search.isActive then { search with found := search.run text } else search

/-- Forgets the query. -/
def clear (search : Search) : Search :=
  { search with query := [], found := [] }

/-- The match to go to from an offset. -/
def nextAfter (search : Search) (offset : Nat) : Option Match :=
  Match.nextAfter search.found offset

end Search

end ModalEditor
