import Backlog.Json.Value
import Backlog.Logging.Filter
import Backlog.Logging.Format
import Backlog.Time.Timestamp
/-!
# Setting up the log of a process

A process sets up its log once: the first attempt decides on format and filter, later ones change
nothing. Before it nothing is written. The filter comes from the settings of the process; the format
comes from there too, is given, or is the short one of tests.
-/

namespace Backlog

/-- An attempt to set up the log. -/
inductive LogSetup where
  /-- The format comes from the settings. -/
  | fromSettings
  | withFormat (format : LogFormat)
  /-- Short lines for people, for tests. -/
  | forTests
  deriving DecidableEq, Repr

/-- What the settings of a process say about its log, as texts. -/
structure LogSettings where
  format : Option String
  filter : Option String
  deriving Repr

/-- The log of a process once it is set up. -/
structure Log where
  format : LogFormat
  filter : LogFilter
  deriving Repr

namespace Log

/-- The log an attempt sets up under some settings. -/
def ofSetup (settings : LogSettings) (s : LogSetup) : Log where
  format := match s with
    | .fromSettings => LogFormat.read settings.format
    | .withFormat f => f
    | .forTests => .pretty
  filter := LogFilter.ofSetting settings.filter

/-- The log of a process after these attempts, the first of them first. -/
def afterAll (settings : LogSettings) (attempts : List LogSetup) : Option Log :=
  attempts.foldl (fun log s => log <|> some (ofSetup settings s)) none

/-- The messages of a source that a log writes. -/
def written (log : Log) (source : String) (events : List (LogLevel × String)) :
    List (LogLevel × String) :=
  events.filter fun e => log.filter.lets source e.1

/-- A line of the JSON format for an event that is only a message. -/
def jsonLine (now : Instant) (level : LogLevel) (message : String) : Json :=
  .obj
    [ ("timestamp", .str (Timestamp.microText now)), ("level", .str level.name),
      ("fields", .obj [("message", .str message)]) ]

end Log

end Backlog
