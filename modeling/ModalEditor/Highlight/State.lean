import ModalEditor.Highlight.Lines
import ModalEditor.Text.ChangedRegion

namespace ModalEditor

/-!
# Keeping the tree up to date

The state holds the language of a buffer and the tree of the text that was
parsed last.  After simple changes the old tree helps to parse the new text;
otherwise the text is parsed anew.  The parser itself is a parameter.
-/

/-- A parser of the languages whose grammars it accepts. -/
structure Parser where
  /-- Whether it accepts the grammar of a language.  A grammar of a format newer than
  the parser reads is refused. -/
  accepts : Language → Bool
  /-- The tree of a text. -/
  parse : Language → Text → Node
  /-- The tree of a new text, given the tree of the old one and the region that
  changed. -/
  reparse : Language → Node → ChangedRegion → Text → Node

namespace Parser

/-- The parser whose trees are single nodes without a kind.  The grammar of C is too
new for it. -/
def rootOnly : Parser :=
  let root (text : Text) : Node :=
    ⟨"", none, 0, byteLength text, 0, (pointAt text text.length).row, []⟩
  ⟨fun language => language != .c, fun _ text => root text, fun _ _ _ text => root text⟩

end Parser

/-- How the tree was brought up to date. -/
inductive ReparseKind where
  /-- The text was the same. -/
  | unchanged
  /-- The old tree was used. -/
  | incremental
  | full
  /-- The language is not parsed. -/
  | skipped
  deriving DecidableEq, Repr, Inhabited

/-- The language and the tree of one buffer. -/
structure Highlighting where
  language : Language
  tree : Option Node
  deriving Repr, Inhabited

namespace Highlighting

/-- Plain text. -/
def fresh : Highlighting := ⟨.plainText, none⟩

/-- Switches the language and drops the tree.  A language whose grammar the parser
does not accept leaves plain text. -/
def setLanguage (parser : Parser) (state : Highlighting) (language : Language) :
    Highlighting :=
  if state.language = language then state
  else if language.hasGrammar && !parser.accepts language then fresh
  else ⟨language, none⟩

/-- Parses a text. -/
def parse (parser : Parser) (state : Highlighting) (source : Text) :
    Highlighting × ReparseKind :=
  if state.language.isParsed then
    ({ state with tree := some (parser.parse state.language source) }, .full)
  else ({ state with tree := none }, .skipped)

/-- Brings the tree of the old text up to date with the new one. -/
def resync (parser : Parser) (state : Highlighting) (old new : Text) :
    Highlighting × ReparseKind :=
  if !state.language.isParsed then (state, .skipped)
  else
    match ChangedRegion.between old new, state.tree with
    | .ok none, some _ => (state, .unchanged)
    | .ok (some region), some tree =>
        if region.complexity = .simple then
          ({ state with tree := some (parser.reparse state.language tree region new) },
            .incremental)
        else state.parse parser new
    | _, _ => state.parse parser new

/-- The lines of a range of the source that was parsed last, highlighted. -/
def lines (state : Highlighting) (source : Text) (range : LineRange) : List LineTokens :=
  highlightLines state.language.palette state.tree source range

end Highlighting

end ModalEditor
