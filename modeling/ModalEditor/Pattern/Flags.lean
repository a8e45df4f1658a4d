import ModalEditor.Pattern.Basic

namespace ModalEditor

/-!
# Flags of a pattern

Flags change how the rest of a pattern is read.  A group can set them with
`(?i)`, take them back with `(?-i)`, and a search starts with some of them.
-/

/-- How to read a pattern. -/
structure PatternFlags where
  /-- `i`: letters match in upper and lower case. -/
  ignoreCase : Bool
  /-- `m`: `^` and `$` also match at line feeds. -/
  multiLine : Bool
  /-- `s`: a dot also matches a line feed. -/
  dotAll : Bool
  /-- `U`: repetitions are lazy, and `?` after one makes it greedy. -/
  swapGreed : Bool
  /-- `x`: blanks and comments are not part of the pattern. -/
  verbose : Bool
  /-- `R`: a carriage return also ends lines. -/
  carriageReturn : Bool
  deriving DecidableEq, Repr, Inhabited

namespace PatternFlags

/-- The flags a search starts with: `^` and `$` match at every line. -/
def forSearch (caseSensitive : Bool) : PatternFlags :=
  ⟨!caseSensitive, true, false, false, false, false⟩

/-- Sets or takes back the flag with a letter.  The flag `u` changes nothing. -/
def set? (flags : PatternFlags) (value : Bool) : Char → Option PatternFlags
  | 'i' => some { flags with ignoreCase := value }
  | 'm' => some { flags with multiLine := value }
  | 's' => some { flags with dotAll := value }
  | 'U' => some { flags with swapGreed := value }
  | 'x' => some { flags with verbose := value }
  | 'R' => some { flags with carriageReturn := value }
  | 'u' => some flags
  | _ => none

/-- Reads flags up to the closing bracket or the colon that ends them.  No flag
stands twice, and a minus sign, of which there is at most one, has a flag after
it.  The result tells whether there was any flag. -/
def read? (flags : PatternFlags) (seen : List Char) (negated : Bool) :
    Text → Option (PatternFlags × List Char × Text)
  | [] => none
  | c :: rest =>
      if c = ')' ∨ c = ':' then
        if seen.head? = some '-' then none else some (flags, seen, c :: rest)
      else if seen.contains c then none
      else if c = '-' then flags.read? ('-' :: seen) true rest
      else
        match flags.set? (!negated) c with
        | none => none
        | some flags => flags.read? (c :: seen) negated rest

/-- The condition that `^` stands for. -/
def startAssertion (flags : PatternFlags) : Assertion :=
  if !flags.multiLine then .textStart
  else if flags.carriageReturn then .anyLineStart
  else .lineStart

/-- The condition that `$` stands for. -/
def endAssertion (flags : PatternFlags) : Assertion :=
  if !flags.multiLine then .textEnd
  else if flags.carriageReturn then .anyLineEnd
  else .lineEnd

/-- The characters that a dot stands for. -/
def dotSet (flags : PatternFlags) : CharSet :=
  if flags.dotAll then CharSet.all
  else if flags.carriageReturn then
    .complement (.union (CharSet.single '\n') (CharSet.single '\r'))
  else .complement (CharSet.single '\n')

/-- The set of one character, or of all its forms. -/
def charSet (flags : PatternFlags) (c : Char) : CharSet :=
  CharSet.caselessIf flags.ignoreCase (CharSet.single c)

/-- Leaves out blanks and comments.  A comment ends with its line. -/
def skipVerbose (inComment : Bool) : Text → Text
  | [] => []
  | c :: rest =>
      if inComment then skipVerbose (c != '\n') rest
      else if isBlank c then skipVerbose false rest
      else if c = '#' then skipVerbose true rest
      else c :: rest

/-- Leaves out what is not part of the pattern. -/
def skip (flags : PatternFlags) (text : Text) : Text :=
  if flags.verbose then skipVerbose false text else text

end PatternFlags

end ModalEditor
