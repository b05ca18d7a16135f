import Backlog.Json.Value
import Backlog.Task.Id
import Backlog.Time.Instant
/-!
# Values of a database

What a column can hold and a parameter can be. A database keeps an instant as the whole number of
microseconds from the beginning of the year 2000; what does not fill a microsecond is dropped, so
an instant moves toward that moment, by less than a microsecond.

## Main results

* `ofMicros?_micros` — an instant of whole microseconds is kept as it is.
-/

namespace Backlog

namespace Instant

/-- The beginning of the year 2000, in nanoseconds from the beginning of 1970. -/
def databaseEpoch : Int := 946684800000000000

/-- The whole microseconds from the beginning of the year 2000 to an instant. -/
def micros (t : Instant) : Int := (t.nanos - databaseEpoch).tdiv 1000

/-- The instant so many microseconds after the beginning of the year 2000. -/
def ofMicros? (n : Int) : Option Instant := ofNanos? (databaseEpoch + n * 1000)

/-- An instant of whole microseconds is kept as it is. -/
theorem ofMicros?_micros {t : Instant} (h : t.nanos % 1000 = 0) :
    ofMicros? t.micros = ofNanos? t.nanos := by
  have hd : (1000 : Int) ∣ t.nanos - databaseEpoch := by unfold databaseEpoch; omega
  rw [ofMicros?, micros, Int.tdiv_mul_cancel hd]
  congr 1
  omega

end Instant

namespace Database

/-- A value in a column or a parameter. -/
inductive Value where
  | null
  | uuid (id : TaskId)
  | text (s : String)
  | texts (ss : List String)
  | json (j : Json)
  /-- Microseconds from the beginning of the year 2000. -/
  | time (micros : Int)
  | integer (n : Int)
  /-- A value of a type that tasks do not use. -/
  | foreign
  deriving Repr, Inhabited

namespace Value

/-- A text, or `NULL` for none. -/
def textOrNull : Option String → Value
  | none => null
  | some s => text s

/-- A JSON value, or `NULL` for none; JSON's own `null` is a value. -/
def jsonOrNull : Option Json → Value
  | none => null
  | some j => json j

/-- An instant as a database keeps it. -/
def ofInstant (t : Instant) : Value := time t.micros

/-- The identifier in a value. -/
def uuid? : Value → Option TaskId
  | uuid id => some id
  | _ => none

/-- The text in a value. -/
def text? : Value → Option String
  | text s => some s
  | _ => none

/-- The text in a value that may be `NULL`. -/
def optionalText? : Value → Option (Option String)
  | null => some none
  | text s => some (some s)
  | _ => none

/-- The JSON in a value that may be `NULL`. -/
def optionalJson? : Value → Option (Option Json)
  | null => some none
  | json j => some (some j)
  | _ => none

/-- The instant in a value. -/
def instant? : Value → Option Instant
  | time n => Instant.ofMicros? n
  | _ => none

end Value

end Database

end Backlog
