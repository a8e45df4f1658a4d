import ModalEditor.Path

namespace ModalEditor

/-!
# Languages

A file is highlighted by the language that its name says.
-/

/-- The languages that can be highlighted, and plain text. -/
inductive Language where
  | rust
  | python
  | javaScript
  | typeScript
  | c
  | cpp
  | json
  | plainText
  deriving DecidableEq, Repr, Inhabited

namespace Language

/-- The extensions of file names, in lowercase, that tell a language. -/
def extensions : List (String × Language) :=
  [("rs", .rust),
   ("py", .python), ("pyw", .python), ("pyi", .python),
   ("js", .javaScript), ("jsx", .javaScript), ("mjs", .javaScript), ("cjs", .javaScript),
   ("ts", .typeScript), ("tsx", .typeScript), ("mts", .typeScript), ("cts", .typeScript),
   ("c", .c), ("h", .c),
   ("cpp", .cpp), ("cc", .cpp), ("cxx", .cpp), ("c++", .cpp),
   ("hpp", .cpp), ("hh", .cpp), ("hxx", .cpp), ("h++", .cpp),
   ("json", .json), ("jsonc", .json)]

/-- The language of files with an extension, whatever the case of its ASCII
letters. -/
def ofExtension (extension : Text) : Language :=
  (extensions.lookup (String.ofList (extension.map Char.toLower))).getD .plainText

/-- The language of the file at a path. -/
def ofPath (path : Path) : Language :=
  ((path.fileName?.bind Path.extension?).map ofExtension).getD .plainText

/-- The name shown to the user. -/
def name : Language → String
  | .rust => "Rust"
  | .python => "Python"
  | .javaScript => "JavaScript"
  | .typeScript => "TypeScript"
  | .c => "C"
  | .cpp => "C++"
  | .json => "JSON"
  | .plainText => "Plain Text"

/-- Whether texts of the language are parsed. -/
def isParsed (language : Language) : Bool :=
  language != .plainText

/-- Whether the language comes with a grammar. -/
def hasGrammar (language : Language) : Bool :=
  language.isParsed

end Language

end ModalEditor
