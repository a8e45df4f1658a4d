import ModalEditor.Pattern.CharSet
import ModalEditor.Search.Match

namespace ModalEditor

/-!
# Patterns

A pattern describes stretches of text.  From one place it may match stretches
of different lengths, and it prefers some of them to others: the first branch
of an alternative to the second, and more repetitions to fewer, or fewer to
more if it is lazy.  `Pattern.ends` lists where the stretches end, the preferred
first and none twice.  A search takes the preferred one from the first place at
which there is any.
-/

/-- A place in a text: what was passed and what is left. -/
structure Spot where
  offset : Nat
  /-- The character before the place. -/
  previous : Option Char
  rest : Text
  deriving DecidableEq, Repr, Inhabited

namespace Spot

/-- The place after the next character, if that is in a set. -/
def next? (spot : Spot) (set : CharSet) : Option Spot :=
  match spot.rest with
  | [] => none
  | c :: rest => if set.contains c then some ⟨spot.offset + 1, some c, rest⟩ else none

end Spot

/-- A condition on a place. -/
inductive Assertion where
  | textStart
  | textEnd
  | lineStart
  | lineEnd
  /-- The start of a line, where a carriage return also ends lines. -/
  | anyLineStart
  /-- The end of a line, where a carriage return also ends lines. -/
  | anyLineEnd
  | wordBoundary
  | noWordBoundary
  | wordStart
  | wordEnd
  | wordStartHalf
  | wordEndHalf
  deriving DecidableEq, Repr, Inhabited

/-- Whether a condition holds at a place. -/
def Assertion.holds (assertion : Assertion) (spot : Spot) : Bool :=
  let before := spot.previous
  let after := spot.rest.head?
  let wordBefore := before.any CharSet.word.contains
  let wordAfter := after.any CharSet.word.contains
  match assertion with
  | .textStart => before.isNone
  | .textEnd => after.isNone
  | .lineStart => before.all (· == '\n')
  | .lineEnd => after.all (· == '\n')
  | .anyLineStart => before.all (· == '\n') || before == some '\r' && after != some '\n'
  | .anyLineEnd => after.all (· == '\r') || after == some '\n' && before != some '\r'
  | .wordBoundary => wordBefore != wordAfter
  | .noWordBoundary => wordBefore == wordAfter
  | .wordStart => !wordBefore && wordAfter
  | .wordEnd => wordBefore && !wordAfter
  | .wordStartHalf => !wordBefore
  | .wordEndHalf => !wordAfter

/-- A pattern. -/
inductive Pattern where
  | empty
  /-- One character of a set. -/
  | one (set : CharSet)
  | check (assertion : Assertion)
  | sequence (first second : Pattern)
  | either (first second : Pattern)
  /-- At least `min` repetitions, and at most `max` if that is given. -/
  | repetition (body : Pattern) (min : Nat) (max : Option Nat) (greedy : Bool)
  deriving DecidableEq, Repr, Inhabited

/-- The places of a list, each at its first occurrence. -/
def distinctSpots (seen : List Nat) : List Spot → List Spot
  | [] => []
  | spot :: spots =>
      if seen.contains spot.offset then distinctSpots seen spots
      else spot :: distinctSpots (spot.offset :: seen) spots

namespace Pattern

/-- All places that can be reached over characters of a set, nearest first,
over at most `max` characters if that is given. -/
def runSpots (set : CharSet) : Option Nat → Spot → Text → List Spot
  | some 0, spot, _ => [spot]
  | _, spot, [] => [spot]
  | max, spot, c :: rest =>
      if set.contains c then
        spot :: runSpots set (max.map (· - 1)) ⟨spot.offset + 1, some c, rest⟩ rest
      else [spot]

/-- Where repetitions of one character end. -/
def runEnds (set : CharSet) (min : Nat) (max : Option Nat) (greedy : Bool) (spot : Spot) :
    List Spot :=
  let spots := (runSpots set max spot spot.rest).drop min
  if greedy then spots.reverse else spots

/-- Takes a step from each place in turn. -/
def stepAll (step : Spot → List Spot) (spots : List Spot) : List Spot :=
  distinctSpots [] (spots.flatMap step)

/-- Where exactly `count` steps end. -/
def exactly (step : Spot → List Spot) : Nat → Spot → List Spot
  | 0, spot => [spot]
  | count + 1, spot => stepAll (exactly step count) (step spot)

/-- Where at most `count` steps end. -/
def atMost (step : Spot → List Spot) (greedy : Bool) : Nat → Spot → List Spot
  | 0, spot => [spot]
  | count + 1, spot =>
      let further := (step spot).flatMap (atMost step greedy count)
      distinctSpots [] (if greedy then further ++ [spot] else spot :: further)

/-- The places visited so far by a walk, and the ends it found, both with the
latest first. -/
structure Walk where
  visited : List Nat
  ends : List Spot
  deriving Repr, Inhabited

/-- Walks on from a place with any number of steps.  A place is visited once,
and a step that stays where it is leads nowhere.  The place itself is an end,
after those further on or, if lazy, before them. -/
def walk (step : Spot → List Spot) (greedy : Bool) : Nat → Walk → Spot → Walk
  | 0, state, _ => state
  | fuel + 1, state, spot =>
      if state.visited.contains spot.offset then state
      else
        let state := { state with visited := spot.offset :: state.visited }
        let onward (state : Walk) : Walk := (step spot).foldl (walk step greedy fuel) state
        if greedy then
          let state := onward state
          { state with ends := spot :: state.ends }
        else onward { state with ends := spot :: state.ends }

/-- Where one or more steps end.  The first step may stay where it is. -/
def atLeastOnce (step : Spot → List Spot) (greedy : Bool) (spot : Spot) : List Spot :=
  let fuel := spot.rest.length + 1
  let visit (state : Walk) (next : Spot) : Walk :=
    if next.offset = spot.offset then
      if state.visited.contains next.offset then state
      else { visited := next.offset :: state.visited, ends := next :: state.ends }
    else walk step greedy fuel state next
  ((step spot).foldl visit ⟨[], []⟩).ends.reverse

/-- Where repetitions of a step end. -/
def repeatEnds (step : Spot → List Spot) (min : Nat) (max : Option Nat) (greedy : Bool)
    (spot : Spot) : List Spot :=
  match max, min with
  | some max, min => stepAll (atMost step greedy (max - min)) (exactly step min spot)
  | none, 0 =>
      let once := atLeastOnce step greedy spot
      distinctSpots [] (if greedy then once ++ [spot] else spot :: once)
  | none, min + 1 => stepAll (atLeastOnce step greedy) (exactly step min spot)

/-- Where the stretches that a pattern matches from a place end, the preferred
end first. -/
def ends : Pattern → Spot → List Spot
  | .empty, spot => [spot]
  | .one set, spot => (spot.next? set).toList
  | .check assertion, spot => if assertion.holds spot then [spot] else []
  | .sequence first second, spot => stepAll second.ends (first.ends spot)
  | .either first second, spot => distinctSpots [] (first.ends spot ++ second.ends spot)
  | .repetition (.one set) min max greedy, spot => runEnds set min max greedy spot
  | .repetition body min max greedy, spot => repeatEnds body.ends min max greedy spot

/-- Where the stretch that a pattern prefers from a place ends. -/
def firstEnd? (pattern : Pattern) (spot : Spot) : Option Nat :=
  (pattern.ends spot).head?.map (·.offset)

/-- The matches in what is left of a text from a place on, after `skip`
characters that belong to the match before.  Matches follow each other without
overlapping, and those without characters are left out. -/
def matchesFrom (pattern : Pattern) (offset : Nat) (previous : Option Char) :
    Nat → Text → List Match
  | _, [] => []
  | skip + 1, c :: rest => matchesFrom pattern (offset + 1) (some c) skip rest
  | 0, c :: rest =>
      match pattern.firstEnd? ⟨offset, previous, c :: rest⟩ with
      | none => matchesFrom pattern (offset + 1) (some c) 0 rest
      | some stop =>
          if stop > offset then
            ⟨offset, stop⟩ ::
              matchesFrom pattern (offset + 1) (some c) (stop - (offset + 1)) rest
          else matchesFrom pattern (offset + 1) (some c) 0 rest

/-- All matches in a text. -/
def findAll (pattern : Pattern) (text : Text) : List Match :=
  matchesFrom pattern 0 none 0 text

/-- The pattern that matches the characters of a text, one by one. -/
def literal (ignoreCase : Bool) : Text → Pattern
  | [] => .empty
  | c :: rest =>
      .sequence (.one (CharSet.caselessIf ignoreCase (CharSet.single c)))
        (literal ignoreCase rest)

end Pattern

end ModalEditor
