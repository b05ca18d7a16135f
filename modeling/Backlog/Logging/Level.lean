/-!
# Log levels
-/

namespace Backlog

/-- How grave an event is. -/
inductive LogLevel where
  | error
  | warn
  | info
  | debug
  | trace
  deriving DecidableEq, Repr, Inhabited

namespace LogLevel

/-- Every level, the gravest first. -/
def all : List LogLevel := [error, warn, info, debug, trace]

/-- The name of a level. -/
def name : LogLevel → String
  | error => "ERROR"
  | warn => "WARN"
  | info => "INFO"
  | debug => "DEBUG"
  | trace => "TRACE"

/-- How little an event of this level matters; 0 is no level at all. -/
def detail : LogLevel → Nat
  | error => 1
  | warn => 2
  | info => 3
  | debug => 4
  | trace => 5

/-- The level with this name in any letter case. -/
def ofName? (s : String) : Option LogLevel := all.find? fun l => l.name == s.map Char.toUpper

end LogLevel

end Backlog
