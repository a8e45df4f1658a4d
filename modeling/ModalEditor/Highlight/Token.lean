import ModalEditor.Highlight.Language

namespace ModalEditor

/-!
# Kinds of tokens

A node of a syntax tree is a token if its kind says so, or its kind together
with its place in the node around it.  For each language a palette lists which
nodes are tokens; classifying a node is looking it up.
-/

/-- What a token is. -/
inductive TokenKind where
  | keyword
  | controlFlow
  | string
  | char
  | number
  | boolean
  | constant
  | comment
  | type
  | function
  | macroName
  | attribute
  | lifetime
  /-- The key of an entry in a data format. -/
  | property
  deriving DecidableEq, Repr, Inhabited

/-- Where a node stands: the kind of the node around it, and the field it fills
there, if it is the first to fill that. -/
structure Placement where
  parent : Option String
  role : Option String
  deriving DecidableEq, Repr, Inhabited

namespace Placement

/-- The place of the root. -/
def root : Placement := ⟨none, none⟩

end Placement

/-- Nodes of some kinds that are tokens in certain places. -/
structure PlacedToken where
  kinds : List String
  parents : List String
  /-- The field to be filled, if it matters. -/
  role : Option String
  token : TokenKind
  deriving DecidableEq, Repr, Inhabited

/-- Whether a node of a kind at a place is such a token. -/
def PlacedToken.fits (placed : PlacedToken) (kind : String) (place : Placement) : Bool :=
  placed.kinds.contains kind && place.parent.any placed.parents.contains &&
    (placed.role.isNone || placed.role == place.role)

/-- Which nodes of a language are tokens. -/
structure Palette where
  controlFlow : List String
  keywords : List String
  placed : List PlacedToken
  /-- Nodes that are tokens wherever they stand. -/
  kinds : List (String × TokenKind)
  deriving DecidableEq, Repr, Inhabited

namespace Palette

/-- The kind of token that a node is, if it is one. -/
def classify (palette : Palette) (kind : String) (place : Placement) : Option TokenKind :=
  if palette.controlFlow.contains kind then some .controlFlow
  else if palette.keywords.contains kind then some .keyword
  else
    match palette.placed.find? fun placed => placed.fits kind place with
    | some placed => some placed.token
    | none => palette.kinds.lookup kind

/-- Nothing is a token. -/
def empty : Palette := ⟨[], [], [], []⟩

/-- The palette of Rust. -/
def rust : Palette where
  controlFlow :=
    ["if", "else", "match", "for", "while", "loop", "break", "continue", "return", "yield"]
  keywords :=
    ["fn", "let", "mut", "const", "static", "pub", "mod", "use", "crate", "self", "super",
     "impl", "trait", "struct", "enum", "type", "where", "async", "await", "dyn", "extern",
     "ref", "unsafe", "as", "in", "move"]
  placed :=
    [⟨["identifier"], ["macro_invocation"], none, .macroName⟩,
     ⟨["identifier"], ["function_item", "function_signature_item"], some "name", .function⟩,
     ⟨["identifier"], ["call_expression"], some "function", .function⟩]
  kinds :=
    [("string_literal", .string), ("raw_string_literal", .string), ("char_literal", .char),
     ("integer_literal", .number), ("float_literal", .number), ("boolean_literal", .boolean),
     ("line_comment", .comment), ("block_comment", .comment), ("type_identifier", .type),
     ("primitive_type", .type), ("attribute_item", .attribute),
     ("inner_attribute_item", .attribute), ("lifetime", .lifetime)]

/-- The palette of Python. -/
def python : Palette where
  controlFlow :=
    ["if", "elif", "else", "for", "while", "break", "continue", "return", "yield", "in",
     "not", "and", "or", "is"]
  keywords :=
    ["def", "class", "import", "from", "as", "global", "nonlocal", "lambda", "with", "assert",
     "del", "pass", "raise", "except", "finally", "try", "async", "await"]
  placed :=
    [⟨["identifier"], ["function_definition", "class_definition"], some "name", .function⟩,
     ⟨["identifier"], ["call"], some "function", .function⟩]
  kinds :=
    [("string", .string), ("integer", .number), ("float", .number), ("true", .boolean),
     ("false", .boolean), ("none", .constant), ("comment", .comment),
     ("decorator", .attribute)]

/-- The palette of JavaScript and TypeScript. -/
def javaScript : Palette where
  controlFlow :=
    ["if", "else", "for", "while", "do", "switch", "case", "break", "continue", "return",
     "throw", "try", "catch", "finally", "yield"]
  keywords :=
    ["function", "const", "let", "var", "class", "extends", "import", "export", "default",
     "from", "as", "new", "this", "super", "static", "get", "set", "async", "await", "typeof",
     "instanceof", "void", "delete", "in", "of", "type", "interface", "enum", "namespace",
     "declare", "readonly", "abstract", "implements", "private", "protected", "public"]
  placed :=
    [⟨["identifier", "property_identifier"],
      ["function_declaration", "method_definition", "function_expression"], some "name",
      .function⟩,
     ⟨["identifier", "property_identifier"], ["call_expression"], some "function",
      .function⟩]
  kinds :=
    [("string", .string), ("template_string", .string), ("number", .number),
     ("true", .boolean), ("false", .boolean), ("null", .constant), ("undefined", .constant),
     ("comment", .comment), ("type_identifier", .type), ("predefined_type", .type)]

/-- The palette of C and C++. -/
def c : Palette where
  controlFlow :=
    ["if", "else", "for", "while", "do", "switch", "case", "break", "continue", "return",
     "goto", "throw", "try", "catch"]
  keywords :=
    ["auto", "const", "default", "enum", "extern", "inline", "register", "restrict", "signed",
     "sizeof", "static", "struct", "typedef", "union", "unsigned", "void", "volatile", "class",
     "namespace", "template", "typename", "virtual", "override", "final", "public", "private",
     "protected", "friend", "new", "delete", "this", "using", "constexpr", "noexcept",
     "decltype", "explicit", "mutable", "operator"]
  placed :=
    [⟨["identifier"], ["function_declarator"], some "declarator", .function⟩,
     ⟨["identifier"], ["call_expression"], some "function", .function⟩]
  kinds :=
    [("string_literal", .string), ("raw_string_literal", .string),
     ("system_lib_string", .string), ("char_literal", .char), ("number_literal", .number),
     ("true", .boolean), ("false", .boolean), ("null", .constant), ("nullptr", .constant),
     ("comment", .comment), ("type_identifier", .type), ("primitive_type", .type),
     ("sized_type_specifier", .type), ("#include", .attribute), ("#define", .attribute),
     ("#ifdef", .attribute), ("#ifndef", .attribute), ("#if", .attribute),
     ("#else", .attribute), ("#elif", .attribute), ("#endif", .attribute)]

/-- The palette of JSON. -/
def json : Palette where
  controlFlow := []
  keywords := []
  placed := [⟨["string"], ["pair"], some "key", .property⟩]
  kinds :=
    [("string", .string), ("number", .number), ("true", .boolean), ("false", .boolean),
     ("null", .constant), ("comment", .comment)]

end Palette

/-- The palette of a language. -/
def Language.palette : Language → Palette
  | .rust => .rust
  | .python => .python
  | .javaScript | .typeScript => .javaScript
  | .c | .cpp => .c
  | .json => .json
  | .plainText => .empty

end ModalEditor
