import ModalEditor.Session.View

namespace ModalEditor

/-!
# Reports

A report sums up a session once its keys were run.  It is printed as a JSON
record with a line for each entry.
-/

/-- The end of a session in short. -/
structure Report where
  mode : Mode
  /-- The line of the cursor, counted from one. -/
  line : Nat
  /-- The column of the cursor, counted from one. -/
  column : Nat
  lineCount : Nat
  isModified : Bool
  canUndo : Bool
  language : Language
  reparse : Option ReparseKind
  /-- The number of highlighted spans. -/
  spanCount : Nat
  deriving DecidableEq, Repr, Inhabited

/-- The name of the way in which a tree was brought up to date. -/
def ReparseKind.name : ReparseKind → String
  | .unchanged => "Unchanged"
  | .incremental => "Incremental"
  | .full => "Full"
  | .skipped => "Skipped"

namespace Report

/-- The report of a session whose tree was brought up to date in some way. -/
def ofSession (session : Session) (reparse : Option ReparseKind) : Report where
  mode := session.mode
  line := session.cursor.line + 1
  column := session.cursor.column + 1
  lineCount := session.lineCount
  isModified := session.isModified
  canUndo := session.history.canUndo
  language := session.highlighting.language
  reparse
  spanCount := (session.tokens.flatMap LineTokens.spans).length

/-- A name between quotes. -/
def quoted (name : String) : String := "\"" ++ name ++ "\""

/-- How a truth value is written. -/
def truth (b : Bool) : String := if b then "true" else "false"

/-- The entries of a report, with their values as they are written. -/
def entries (report : Report) : List (String × String) :=
  [("mode", quoted report.mode.name),
   ("line", toString report.line),
   ("column", toString report.column),
   ("lines", toString report.lineCount),
   ("modified", truth report.isModified),
   ("can_undo", truth report.canUndo),
   ("language", quoted report.language.name),
   ("reparse", report.reparse.elim "null" fun kind => quoted kind.name),
   ("tokens", toString report.spanCount)]

/-- The text of a report. -/
def render (report : Report) : String :=
  let lines := report.entries.map fun (name, value) => "  " ++ quoted name ++ ": " ++ value
  "\x7b\n" ++ ",\n".intercalate lines ++ "\n\x7d"

end Report

end ModalEditor
