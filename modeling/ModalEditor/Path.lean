import ModalEditor.Text.Basic

namespace ModalEditor

/-!
# Paths

A path is a text whose parts stand between slashes.  Empty parts and single dots
lead nowhere else, except that an empty part in front leads to the root.
-/

/-- The path to a file. -/
abbrev Path := Text

namespace Path

/-- The parts of a path between slashes. -/
def parts : Path → List Text
  | [] => [[]]
  | first :: rest =>
      if first = '/' then [] :: parts rest
      else
        match parts rest with
        | [] => [[first]]
        | part :: parts => (first :: part) :: parts

/-- Whether a part of a path leads nowhere else. -/
def isIdle (part : Text) : Bool := part.isEmpty || part == ['.']

/-- The name of the file that a path leads to.  Two dots lead to no file. -/
def fileName? (path : Path) : Option Text :=
  let active := (parts path).filter fun part => !isIdle part
  active.getLast?.filter (· != ['.', '.'])

/-- What follows the last dot of a file name.  A dot in front is part of the
name. -/
def extension? (name : Text) : Option Text :=
  let after := (name.reverse.takeWhile (· != '.')).reverse
  if after.length + 1 < name.length then some after else none

/-- The directories to pass and the name to look up at the end.  The path of a
directory leads to no file. -/
def steps? (path : Path) : Option (List Text × Text) :=
  match (parts path).reverse with
  | [] => none
  | name :: passed =>
      if isIdle name || name == ['.', '.'] then none
      else
        let passed := passed.reverse
        let root := (passed.take 1).filter (·.isEmpty)
        some (root ++ passed.filter fun part => !isIdle part, name)

end Path

end ModalEditor
