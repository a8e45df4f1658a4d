import ModalEditor.Pattern.Bracket
import ModalEditor.Text.Decimal

namespace ModalEditor

/-!
# Reading patterns

A pattern is written as branches between vertical bars; a branch is a row of
pieces, each of which may be repeated.  `Pattern.read?` has no result for a text
that is no pattern.  Looking around and references to groups are not part of
patterns.
-/

namespace Pattern

/-- How the bracket of a group goes on. -/
inductive GroupStart where
  /-- The flags hold for the rest of the group around. -/
  | flags (flags : PatternFlags)
  | group (flags : PatternFlags) (name : Option Text)
  deriving DecidableEq, Repr, Inhabited

/-- Whether a text can name a group. -/
def isGroupName : Text → Bool
  | [] => false
  | c :: rest =>
      (c == '_' || isAlphabetic c) &&
        rest.all fun c =>
          c == '_' || c == '.' || c == '[' || c == ']' || isAlphanumeric c

/-- Reads the name of a group. -/
def readName? (flags : PatternFlags) (text : Text) : Option (GroupStart × Text) :=
  match Escape.splitAt? '>' text with
  | some (name, rest) =>
      if isGroupName name then some (.group flags (some name), rest) else none
  | none => none

/-- Reads what follows the opening bracket of a group. -/
def readGroupStart? (flags : PatternFlags) : Text → Option (GroupStart × Text)
  | '?' :: '=' :: _ | '?' :: '!' :: _ | '?' :: '<' :: '=' :: _ | '?' :: '<' :: '!' :: _ => none
  | '?' :: 'P' :: '<' :: rest => readName? flags rest
  | '?' :: '<' :: rest => readName? flags rest
  | '?' :: rest =>
      match flags.read? [] false rest with
      | some (flags, _, ':' :: rest) => some (.group flags none, rest)
      | some (flags, seen, ')' :: rest) =>
          if seen.isEmpty then none else some (.flags flags, rest)
      | _ => none
  | rest => some (.group flags none, rest)

/-- How often a piece is repeated. -/
structure Bounds where
  min : Nat
  max : Option Nat
  deriving DecidableEq, Repr, Inhabited

/-- The largest number of repetitions that can be asked for. -/
def maxRepetitions : Nat := UInt32.size - 1

/-- Reads a number of repetitions, blanks around it left out. -/
def readRepetitions? (text : Text) : Option (Nat × Text) :=
  let text := text.dropWhile isBlank
  let digits := text.takeWhile fun c => (digitValue? c).isSome
  let rest := (text.drop digits.length).dropWhile isBlank
  if digits.isEmpty then none
  else ((readDigits? 0 digits).filter (· ≤ maxRepetitions)).map fun n => (n, rest)

/-- Reads bounds in braces, after the opening one. -/
def readBraces? (text : Text) : Option (Bounds × Text) :=
  match readRepetitions? text with
  | some (min, '}' :: rest) => some (⟨min, some min⟩, rest)
  | some (min, ',' :: '}' :: rest) => some (⟨min, none⟩, rest)
  | some (min, ',' :: rest) =>
      match readRepetitions? rest with
      | some (max, '}' :: rest) =>
          if min ≤ max then some (⟨min, some max⟩, rest) else none
      | _ => none
  | _ => none

/-- Reads the bounds of a repetition.  The outer result is none when there is no
repetition, the inner one when it is malformed. -/
def readBounds? : Text → Option (Option (Bounds × Text))
  | '*' :: rest => some (some (⟨0, none⟩, rest))
  | '+' :: rest => some (some (⟨1, none⟩, rest))
  | '?' :: rest => some (some (⟨0, some 1⟩, rest))
  | '{' :: rest => some (readBraces? rest)
  | _ => none

/-- Reads a piece that is neither a group nor a repetition. -/
def readPiece? (flags : PatternFlags) : Text → Option (Pattern × Text)
  | [] => none
  | '[' :: rest => (Bracket.read? flags rest).map fun (set, rest) => (.one set, rest)
  | '\\' :: rest =>
      (Escape.read? flags rest).map fun (escape, rest) =>
        match escape with
        | .char c => (.one (flags.charSet c), rest)
        | .set set => (.one set, rest)
        | .check assertion => (.check assertion, rest)
  | '.' :: rest => some (.one flags.dotSet, rest)
  | '^' :: rest => some (.check flags.startAssertion, rest)
  | '$' :: rest => some (.check flags.endAssertion, rest)
  | c :: rest => some (.one (flags.charSet c), rest)

/-- What was read of a group. -/
structure Branches where
  /-- The finished branches. -/
  finished : Option Pattern
  /-- The pieces of the branch being read, the latest first. -/
  pieces : List Pattern
  /-- Whether the latest piece can be repeated. -/
  canRepeat : Bool
  deriving DecidableEq, Repr, Inhabited

namespace Branches

/-- Nothing read. -/
def start : Branches := ⟨none, [], false⟩

/-- One more piece. -/
def push (read : Branches) (piece : Pattern) : Branches :=
  { read with pieces := piece :: read.pieces, canRepeat := true }

/-- The pattern read so far. -/
def pattern (read : Branches) : Pattern :=
  let branch :=
    match read.pieces with
    | [] => .empty
    | last :: before => before.foldl (fun rest piece => .sequence piece rest) last
  read.finished.elim branch fun before => .either before branch

/-- Repeats the latest piece. -/
def repeatLast? (read : Branches) (bounds : Bounds) (greedy : Bool) : Option Branches :=
  match read.canRepeat, read.pieces with
  | true, piece :: before =>
      some { read with pieces := .repetition piece bounds.min bounds.max greedy :: before }
  | _, _ => none

end Branches

/-- Reads a group up to its closing bracket or the end of the text.  Along with
the pattern it gives the names of all groups so far.  Each step takes up a
character, so that `fuel` steps are enough for a text shorter than that. -/
def readBranches? (flags : PatternFlags) (names : List Text) :
    Nat → Branches → Text → Option (Pattern × List Text × Text)
  | 0, _, _ => none
  | fuel + 1, read, text =>
      let text := flags.skip text
      match text with
      | [] => some (read.pattern, names, [])
      | ')' :: _ => some (read.pattern, names, text)
      | '|' :: rest =>
          readBranches? flags names fuel ⟨some read.pattern, [], false⟩ rest
      | '(' :: rest =>
          match readGroupStart? flags (flags.skip rest) with
          | none => none
          | some (.flags flags, rest) =>
              readBranches? flags names fuel { read with canRepeat := false } rest
          | some (.group inner name, rest) =>
              if name.any names.contains then none
              else
                match readBranches? inner (name.toList ++ names) fuel Branches.start rest with
                | some (group, names, ')' :: rest) =>
                    readBranches? flags names fuel (read.push group) rest
                | _ => none
      | text =>
          match readBounds? text with
          | some none => none
          | some (some (bounds, rest)) =>
              let lazy := rest.head? = some '?'
              match read.repeatLast? bounds (lazy == flags.swapGreed) with
              | none => none
              | some read =>
                  readBranches? flags names fuel read (if lazy then rest.drop 1 else rest)
          | none =>
              match readPiece? flags text with
              | none => none
              | some (piece, rest) => readBranches? flags names fuel (read.push piece) rest

/-- The pattern that a text spells. -/
def read? (flags : PatternFlags) (text : Text) : Option Pattern :=
  match readBranches? flags [] (text.length + 1) Branches.start text with
  | some (pattern, _, []) => some pattern
  | _ => none

end Pattern

end ModalEditor
