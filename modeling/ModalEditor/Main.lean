import ModalEditor.CommandLine.Run

namespace ModalEditor

/-!
# The program

The program looks up the files that its arguments may name, runs the arguments on
them and writes back the files that changed.
-/

/-- The path of a directory, a slash at its end. -/
def directoryPath (directory : List Text) : String :=
  String.ofList (directory.flatMap fun part => part ++ ['/'])

/-- The path of a file. -/
def FileEntry.path (entry : FileEntry) : String :=
  directoryPath entry.directory ++ String.ofList entry.name

/-- Whether a directory exists. -/
def directoryExists (directory : List Text) : IO Bool := do
  try
    discard (IO.FS.realPath (directoryPath directory ++ "."))
    return true
  catch _ => return false

/-- The bytes of a file, if there is one. -/
def readBytes? (path : String) : IO (Option ByteArray) := do
  try return some (← IO.FS.readBinFile path)
  catch _ => return none

/-- Looks up the file that an argument may name, and its directory. -/
def lookUp (files : Files) (argument : String) : IO Files := do
  match Path.steps? argument.toList with
  | none => return files
  | some (directory, _) =>
      if !(← directoryExists directory) then return files
      let files := { files with directories := directory :: files.directories }
      match ← readBytes? argument with
      | none => return files
      | some bytes => return (files.write argument.toList bytes).toOption.getD files

/-- Writes the files that were not there before with the same bytes. -/
def writeBack (before after : Files) : IO Unit := do
  for entry in after.entries do
    let isOld := before.entries.any fun old =>
      old.isAt (entry.directory, entry.name) && old.bytes.data == entry.bytes.data
    if !isOld then
      IO.FS.writeBinFile entry.path entry.bytes

end ModalEditor

open ModalEditor in
/-- Runs the program, and exits with one if it stops early. -/
def main (arguments : List String) : IO UInt32 := do
  let files ← arguments.foldlM lookUp Files.empty
  let ending := runArguments Parser.rootOnly (arguments.map String.toList) files
  writeBack files ending.files
  match ending.result with
  | .error error =>
      IO.eprintln ("Error: " ++ error.message)
      return 1
  | .ok none => return 0
  | .ok (some report) =>
      IO.println report.render
      return 0
