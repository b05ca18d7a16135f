import Backlog.Text.Blank
import Backlog.Text.Decimal
import Backlog.Time.Calendar
import Backlog.Time.Instant
/-!
# Timestamps

An instant is written as a date, a `T`, a time of day and a `Z` (RFC 3339). The fraction of the
second has 0, 3, 6 or 9 digits, the fewest that lose nothing. Years outside 0 to 9999 carry a
sign; the second of a leap second is written 60.

Reading is more liberal than writing. A field may be short of leading zeros, blanks may stand
before a field and around its separators, a blank may stand for the `T`, digits of the fraction
beyond the ninth are passed over, and the offset is `Z`, `UTC` or hours and minutes with a sign,
the colon between them optional. What is read must be a date of the calendar and a time of a day.
-/

namespace Backlog.Timestamp

open Text

/-! ## Writing -/

/-- The fraction of a second after its point: none, or the fewest of 3, 6 and 9 digits that
suffice. -/
def fraction (nano : Nat) : List Char :=
  if nano == 0 then []
  else if nano % 1000000 == 0 then '.' :: padded 3 (nano / 1000000)
  else if nano % 1000 == 0 then '.' :: padded 6 (nano / 1000)
  else '.' :: padded 9 nano

/-- A year of four digits, or a signed one. -/
def yearText (y : Int) : List Char :=
  if 0 ≤ y && y ≤ 9999 then padded 4 y.toNat
  else if y < 0 then '-' :: padded 4 y.natAbs
  else '+' :: padded 4 y.natAbs

/-- The date of an instant, `2024-01-31`. -/
def dateText (t : Instant) : List Char :=
  let c := CivilDate.ofDayNumber (t.second / 86400)
  yearText c.year ++ '-' :: padded 2 c.month ++ '-' :: padded 2 c.day

/-- The hour, minute and second of an instant, `23:59:59`. A leap second is the sixtieth of its
minute. -/
def clockText (t : Instant) : List Char :=
  let s := (t.second % 86400).toNat
  padded 2 (s / 3600) ++ ':' :: padded 2 (s / 60 % 60) ++ ':' ::
    padded 2 (s % 60 + t.nano / 1000000000)

/-- The time of day of an instant, `23:59:59.500`. -/
def timeText (t : Instant) : List Char := clockText t ++ fraction (t.nano % 1000000000)

/-- The timestamp of an instant. -/
def text (t : Instant) : String := String.ofList (dateText t ++ 'T' :: timeText t ++ ['Z'])

/-- The timestamp of an instant with a fraction of six digits always. -/
def microText (t : Instant) : String :=
  String.ofList
    (dateText t ++ 'T' :: clockText t ++ '.' :: padded 6 (t.nano % 1000000000 / 1000) ++ ['Z'])

/-- The form an instant has inside a message: blanks in place of the `T` and the `Z`. -/
def logText (t : Instant) : String :=
  String.ofList (dateText t ++ ' ' :: timeText t ++ " UTC".toList)

/-! ## Reading -/

/-- At least one and at most `limit` digits at the front, as a number, and the rest. -/
def digits? (limit : Nat) (cs : List Char) : Option (Nat × List Char) :=
  let ds := (cs.take limit).takeWhile isDigit
  if ds.isEmpty then none else some (digitsValue 0 ds, cs.drop ds.length)

/-- A field of at most `width` digits, which blanks may precede. -/
def field? (width : Nat) (cs : List Char) : Option (Nat × List Char) := digits? width (trimStart cs)

/-- A year: four digits at most, or any number of them after a sign. -/
def year? (cs : List Char) : Option (Int × List Char) :=
  match trimStart cs with
  | '-' :: rest => (digits? rest.length rest).map fun (n, r) => (-Int.ofNat n, r)
  | '+' :: rest => (digits? rest.length rest).map fun (n, r) => (Int.ofNat n, r)
  | rest => (digits? 4 rest).map fun (n, r) => (Int.ofNat n, r)

/-- A separator, which blanks may precede. -/
def separator? (sep : Char) (cs : List Char) : Option (List Char) :=
  match trimStart cs with
  | c :: rest => if c == sep then some rest else none
  | [] => none

/-- The fraction of a second in nanoseconds, if one follows; digits beyond the ninth are passed
over. -/
def fraction? : List Char → Option (Nat × List Char)
  | '.' :: rest =>
    let ds := rest.takeWhile isDigit
    if ds.isEmpty then none
    else
      let kept := ds.take 9
      some (digitsValue 0 kept * Nat.pow 10 (9 - kept.length), rest.drop ds.length)
  | cs => some (0, cs)

/-- Hours and minutes of an offset after its sign, in seconds. -/
def offsetSize? : List Char → Option (Nat × List Char)
  | h1 :: h2 :: rest =>
    if isDigit h1 && isDigit h2 then
      match rest.dropWhile (fun c => c == ':' || isBlank c) with
      | m1 :: m2 :: rest =>
        if '0' ≤ m1 && m1 ≤ '5' && isDigit m2 then
          let hours := digitsValue 0 [h1, h2]
          if hours < 24 then some (hours * 3600 + digitsValue 0 [m1, m2] * 60, rest) else none
        else none
      | _ => none
    else none
  | _ => none

/-- The offset from Coordinated Universal Time in seconds, to the east positive. -/
def offset? : List Char → Option (Int × List Char)
  | 'Z' :: rest | 'z' :: rest => some (0, rest)
  | '+' :: rest => (offsetSize? rest).map fun (n, r) => (Int.ofNat n, r)
  | '-' :: rest | '−' :: rest => (offsetSize? rest).map fun (n, r) => (-Int.ofNat n, r)
  | u :: t :: c :: rest =>
    if [u, t, c].map Char.toUpper == ['U', 'T', 'C'] then some (0, rest) else none
  | _ => none

/-- The instant of a valid date, a time of day and an offset. -/
def assemble? (date : CivilDate) (hour minute second nano : Nat) (offset : Int) : Option Instant :=
  if date.isValid && hour < 24 && minute < 60 && second ≤ 60 then
    let regular := if second == 60 then 59 else second
    let place := if second == 60 then nano + 1000000000 else nano
    let ofDay : Nat := hour * 3600 + minute * 60 + regular
    Instant.ofParts? (date.dayNumber * 86400 + ofDay - offset) place
  else none

/-- The instant a timestamp denotes. -/
def read? (s : String) : Option Instant := do
  let (year, cs) ← year? s.toList
  let (month, cs) ← field? 2 (← separator? '-' cs)
  let (day, cs) ← field? 2 (← separator? '-' cs)
  let cs ← match cs with
    | 'T' :: rest | 't' :: rest | ' ' :: rest => some rest
    | _ => none
  let (hour, cs) ← field? 2 cs
  let (minute, cs) ← field? 2 (← separator? ':' cs)
  let (second, cs) ← field? 2 (← separator? ':' cs)
  let (nano, cs) ← fraction? cs
  let (offset, cs) ← offset? (trimStart cs)
  if (trimStart cs).isEmpty then assemble? ⟨year, month, day⟩ hour minute second nano offset
  else none

example : (read? "2024-01-01T01:00:00.5+01:00").map text = some "2024-01-01T00:00:00.500Z" := by
  decide +kernel
example : (read? "2016-12-31 23:59:60 utc").map text = some "2016-12-31T23:59:60Z" := by
  decide +kernel
example : (read? "2023-02-29T00:00:00Z").isNone := by decide +kernel
example : text Instant.latest = "+262142-12-31T23:59:59.999999999Z" := by decide +kernel

end Backlog.Timestamp
