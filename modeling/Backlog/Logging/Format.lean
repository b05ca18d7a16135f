import Backlog.Text.Blank
/-!
# The format of log lines

Log lines are JSON unless a variable asks for the form people read.
-/

namespace Backlog

/-- How log lines are written. -/
inductive LogFormat where
  /-- One JSON object a line. -/
  | json
  /-- Lines for people. -/
  | pretty
  deriving DecidableEq, Repr, Inhabited

namespace LogFormat

/-- The name of a format. -/
def name : LogFormat → String
  | json => "json"
  | pretty => "pretty"

/-- The format a text asks for: blanks around it and the case of ASCII letters do not matter, and
what is neither `pretty` nor `text` means JSON. -/
def read (value : Option String) : LogFormat :=
  match value.map fun v => (Text.trim v).map Char.toLower with
  | some "pretty" | some "text" => pretty
  | _ => json

end LogFormat

end Backlog
