import Backlog.Json.Value
import Backlog.Text.Decimal
/-!
# Reading JSON

A strict reader: blanks are the four of RFC 8259, strings hold no raw control character and no
half of a surrogate pair, numbers have no leading zero, and nothing but blanks follows the value.
Arrays and objects nest at most 127 deep. A number that no double can hold is refused, as is a
number whose rounding would be infinite.

The readers of values take the depth that is left and a bound on the steps. Each step consumes a
character, so the length of the text bounds them, and `read?` supplies it.
-/

namespace Backlog.Json

open Text

/-- A text without its leading JSON blanks. -/
def skipBlanks (cs : List Char) : List Char :=
  cs.dropWhile fun c => c == ' ' || c == '\n' || c == '\t' || c == '\r'

/-- The rest of a text after a word it begins with. -/
def word (w cs : List Char) : Option (List Char) :=
  if w.isPrefixOf cs then some (cs.drop w.length) else none

/-! ## Numbers -/

/-- Whether `digits * 10 ^ exponent` rounds to a finite double: it is below the half-way point
between the largest double and `2 ^ 1024`. -/
def isFinite (digits : Nat) (exponent : Int) : Bool :=
  let places : Int := (decimal digits).length + exponent
  if digits == 0 || places < 300 then true
  else if places > 310 then false
  else if 0 ≤ exponent then
    digits * Nat.pow 10 exponent.toNat < Nat.pow 2 1024 - Nat.pow 2 970
  else digits < (Nat.pow 2 1024 - Nat.pow 2 970) * Nat.pow 10 (-exponent).toNat

/-- A number of this sign and these digits, of which `places` follow the point. -/
def number? (negative : Bool) (digits places : Nat) (exponent : Int) (whole : Bool) : Option Json :=
  if whole && !negative && digits ≤ 18446744073709551615 then some (.int digits)
  else if whole && negative && digits != 0 && digits ≤ 9223372036854775808 then
    some (.int (-Int.ofNat digits))
  else if isFinite digits (exponent - places) then
    some (.scaled negative digits (exponent - places))
  else none

/-- The exponent of a number, if one follows: its value and the rest. -/
def exponentPart? : List Char → Option (Option Int × List Char)
  | 'e' :: cs | 'E' :: cs =>
    let (negative, cs) : Bool × List Char :=
      match cs with
      | '+' :: cs => (false, cs)
      | '-' :: cs => (true, cs)
      | cs => (false, cs)
    let ds := cs.takeWhile isDigit
    if ds.isEmpty then none
    else
      let n : Int := digitsValue 0 ds
      some (some (if negative then -n else n), cs.drop ds.length)
  | cs => some (none, cs)

/-- The digits after the point of a number, if a point follows, and the rest. -/
def fractionPart? : List Char → Option (List Char × List Char)
  | '.' :: cs =>
    let ds := cs.takeWhile isDigit
    if ds.isEmpty then none else some (ds, cs.drop ds.length)
  | cs => some ([], cs)

/-- A number after its sign. -/
def unsignedNumber? (negative : Bool) (cs : List Char) : Option (Json × List Char) := do
  let ds := cs.takeWhile isDigit
  if ds.isEmpty || (ds.length > 1 && ds.head? == some '0') then none
  else
    let (fraction, rest) ← fractionPart? (cs.drop ds.length)
    let (exponent, rest) ← exponentPart? rest
    let value := digitsValue 0 (ds ++ fraction)
    let n ← number? negative value fraction.length (exponent.getD 0)
      (fraction.isEmpty && exponent.isNone)
    some (n, rest)

/-! ## Strings -/

/-- The value of a hexadecimal digit. -/
def hexValue? (c : Char) : Option Nat :=
  if isDigit c then some (digitValue c)
  else if 'a' ≤ c && c ≤ 'f' then some (c.toNat - 'a'.toNat + 10)
  else if 'A' ≤ c && c ≤ 'F' then some (c.toNat - 'A'.toNat + 10)
  else none

/-- Four hexadecimal digits as a number, and the rest. -/
def unit? : List Char → Option (Nat × List Char)
  | a :: b :: c :: d :: rest => do
    let high := (← hexValue? a) * 16 + (← hexValue? b)
    let low := (← hexValue? c) * 16 + (← hexValue? d)
    some (high * 256 + low, rest)
  | _ => none

/-- The character of an escape with code units, and the rest: one unit, or the two halves of a
surrogate pair. -/
def escapedUnits? (cs : List Char) : Option (Char × List Char) := do
  let (high, rest) ← unit? cs
  if 0xD800 ≤ high && high < 0xDC00 then
    match rest with
    | '\\' :: 'u' :: rest =>
      let (low, rest) ← unit? rest
      if 0xDC00 ≤ low && low < 0xE000 then
        some (Char.ofNat (0x10000 + (high - 0xD800) * 0x400 + (low - 0xDC00)), rest)
      else none
    | _ => none
  else if 0xDC00 ≤ high && high < 0xE000 then none
  else some (Char.ofNat high, rest)

/-- The character of an escape after its backslash, and the rest. -/
def escaped? : List Char → Option (Char × List Char)
  | '"' :: cs => some ('"', cs)
  | '\\' :: cs => some ('\\', cs)
  | '/' :: cs => some ('/', cs)
  | 'b' :: cs => some ('\x08', cs)
  | 'f' :: cs => some ('\x0c', cs)
  | 'n' :: cs => some ('\n', cs)
  | 'r' :: cs => some ('\r', cs)
  | 't' :: cs => some ('\t', cs)
  | 'u' :: cs => escapedUnits? cs
  | _ => none

/-- The rest of a string after its opening quote; `acc` holds its characters so far, the last one
first. -/
def stringRest? : Nat → List Char → List Char → Option (String × List Char)
  | 0, _, _ => none
  | _ + 1, _, [] => none
  | _ + 1, acc, '"' :: cs => some (String.ofList acc.reverse, cs)
  | fuel + 1, acc, '\\' :: cs => do
    let (c, cs) ← escaped? cs
    stringRest? fuel (c :: acc) cs
  | fuel + 1, acc, c :: cs => if c.toNat < 0x20 then none else stringRest? fuel (c :: acc) cs

/-! ## Values -/

mutual

/-- A value at the front of a text that does not begin with a blank, and the rest. -/
def value? (depth : Nat) : Nat → List Char → Option (Json × List Char)
  | 0, _ => none
  | fuel + 1, cs =>
    match cs with
    | 'n' :: _ => (word "null".toList cs).map fun r => (.null, r)
    | 't' :: _ => (word "true".toList cs).map fun r => (.bool true, r)
    | 'f' :: _ => (word "false".toList cs).map fun r => (.bool false, r)
    | '"' :: cs => (stringRest? (cs.length + 1) [] cs).map fun (s, r) => (.str s, r)
    | '[' :: cs =>
      if depth ≤ 1 then none
      else
        match skipBlanks cs with
        | ']' :: r => some (.arr [], r)
        | cs => (items? (depth - 1) fuel cs).map fun (xs, r) => (.arr xs, r)
    | '\x7b' :: cs =>
      if depth ≤ 1 then none
      else
        match skipBlanks cs with
        | '\x7d' :: r => some (.obj [], r)
        | cs => (members? (depth - 1) fuel cs).map fun (ms, r) => (.obj ms, r)
    | '-' :: cs => unsignedNumber? true cs
    | cs => unsignedNumber? false cs

/-- The items of an array up to its bracket. -/
def items? (depth : Nat) : Nat → List Char → Option (List Json × List Char)
  | 0, _ => none
  | fuel + 1, cs => do
    let (x, cs) ← value? depth fuel cs
    match skipBlanks cs with
    | ']' :: r => some ([x], r)
    | ',' :: cs =>
      let (xs, r) ← items? depth fuel (skipBlanks cs)
      some (x :: xs, r)
    | _ => none

/-- The members of an object up to its brace. -/
def members? (depth : Nat) : Nat → List Char → Option (List (String × Json) × List Char)
  | 0, _ => none
  | fuel + 1, cs => do
    let cs ← word ['"'] cs
    let (name, cs) ← stringRest? (cs.length + 1) [] cs
    let cs ← word [':'] (skipBlanks cs)
    let (x, cs) ← value? depth fuel (skipBlanks cs)
    match skipBlanks cs with
    | '\x7d' :: r => some ([(name, x)], r)
    | ',' :: cs =>
      let (ms, r) ← members? depth fuel (skipBlanks cs)
      some ((name, x) :: ms, r)
    | _ => none

end

/-- The value a text consists of. -/
def read? (s : String) : Option Json := do
  let cs := skipBlanks s.toList
  let (v, rest) ← value? 128 (cs.length + 1) cs
  if (skipBlanks rest).isEmpty then some v else none

end Backlog.Json
