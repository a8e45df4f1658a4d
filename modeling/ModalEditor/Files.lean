import ModalEditor.Path

namespace ModalEditor

/-!
# Files

Files are a map from paths to bytes.  A file can be written wherever its
directory exists.  Texts are kept in UTF-8, and reading back a text that was
written gives the same text.
-/

/-- Why a file operation fails. -/
inductive FileError where
  /-- There is no such file, or no such directory to write it to. -/
  | notFound
  /-- The bytes are not UTF-8. -/
  | invalidData
  /-- There is no path to write to. -/
  | noPath
  deriving DecidableEq, Repr, Inhabited

/-- The UTF-8 form of a text. -/
def encodeText (text : Text) : ByteArray := (String.ofList text).toByteArray

/-- The text with a UTF-8 form, if there is one. -/
def decodeText? (bytes : ByteArray) : Option Text :=
  bytes.utf8Decode?.map Array.toList

@[simp]
theorem decodeText?_encodeText (text : Text) : decodeText? (encodeText text) = some text := by
  simp [decodeText?, encodeText]

/-- A text has one UTF-8 form only. -/
theorem decodeText?_eq_some_iff {bytes : ByteArray} {text : Text} :
    decodeText? bytes = some text ↔ bytes = encodeText text := by
  refine ⟨fun h => ?_, fun h => h ▸ decodeText?_encodeText text⟩
  obtain ⟨chars, hChars, rfl⟩ := Option.map_eq_some_iff.mp h
  have hBytes : (bytes.utf8Decode?.get (by rw [hChars]; rfl)).toList.utf8Encode = bytes :=
    ByteArray.utf8Encode_get_utf8Decode?
  simp only [hChars, Option.get_some] at hBytes
  exact hBytes.symm

/-- A file: the directories that lead to it, its name and its bytes. -/
structure FileEntry where
  directory : List Text
  name : Text
  bytes : ByteArray
  deriving Inhabited

namespace FileEntry

/-- Whether an entry is the file that some steps lead to. -/
def isAt (entry : FileEntry) (steps : List Text × Text) : Bool :=
  entry.directory == steps.1 && entry.name == steps.2

end FileEntry

/-- The files that exist and the directories that can be written to. -/
structure Files where
  entries : List FileEntry
  directories : List (List Text)
  deriving Inhabited

namespace Files

/-- No files in the working directory. -/
def empty : Files := ⟨[], [[]]⟩

/-- The bytes of the file at a path. -/
def get? (files : Files) (path : Path) : Option ByteArray :=
  path.steps?.bind fun steps => (files.entries.find? (·.isAt steps)).map (·.bytes)

/-- Reads the text in a file. -/
def readText (files : Files) (path : Path) : Except FileError Text :=
  match files.get? path with
  | none => .error .notFound
  | some bytes =>
      match decodeText? bytes with
      | none => .error .invalidData
      | some text => .ok text

/-- A text is read from a file exactly if the file holds its UTF-8 form. -/
theorem readText_eq_ok_iff {files : Files} {path : Path} {text : Text} :
    files.readText path = .ok text ↔ files.get? path = some (encodeText text) := by
  rw [readText]
  cases files.get? path with
  | none => simp
  | some bytes =>
      rw [Option.some_inj, ← decodeText?_eq_some_iff]
      dsimp only
      split
      next hDecode => simp [hDecode]
      next text hDecode => simp [hDecode]

/-- Writes a file, replacing the one that was there. -/
def write (files : Files) (path : Path) (bytes : ByteArray) : Except FileError Files :=
  match path.steps? with
  | none => .error .notFound
  | some steps =>
      if files.directories.contains steps.1 then
        .ok { files with
          entries := ⟨steps.1, steps.2, bytes⟩ ::
            files.entries.filter fun entry => !entry.isAt steps }
      else .error .notFound

/-- Writes a text to a file. -/
def writeText (files : Files) (path : Path) (text : Text) : Except FileError Files :=
  files.write path (encodeText text)

/-- What was written to a file is read from it. -/
theorem get?_write {files after : Files} {path : Path} {bytes : ByteArray}
    (h : files.write path bytes = .ok after) : after.get? path = some bytes := by
  unfold write at h
  cases hSteps : path.steps? with
  | none => simp [hSteps] at h
  | some steps =>
      simp only [hSteps] at h
      split at h
      · cases h
        simp [get?, hSteps, FileEntry.isAt]
      · cases h

theorem directories_write {files after : Files} {path : Path} {bytes : ByteArray}
    (h : files.write path bytes = .ok after) : after.directories = files.directories := by
  unfold write at h
  split at h
  · cases h
  · split at h
    · cases h
      rfl
    · cases h

/-- Whether a path leads to a file that can be written: one in a directory that
exists. -/
def CanWrite (files : Files) (path : Path) : Prop :=
  ∃ steps, path.steps? = some steps ∧ files.directories.contains steps.1 = true

theorem CanWrite.of_directories_eq {files after : Files} {path : Path}
    (h : files.CanWrite path) (hDirectories : after.directories = files.directories) :
    after.CanWrite path := by
  rw [CanWrite, hDirectories]
  exact h

theorem CanWrite.exists_write {files : Files} {path : Path} (h : files.CanWrite path)
    (bytes : ByteArray) : ∃ after, files.write path bytes = .ok after := by
  obtain ⟨steps, hSteps, hDirectory⟩ := h
  simp only [write, hSteps, hDirectory, if_true]
  exact ⟨_, rfl⟩

end Files

end ModalEditor
