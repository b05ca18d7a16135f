import Backlog.Text.Blank
import Backlog.Text.Decimal
/-!
# Task identifiers

A task is named by a 128-bit number, written as a UUID: thirty-two hexadecimal digits in groups
of 8, 4, 4, 4 and 12. Reading takes the digits in either case, without their hyphens, in braces,
or after `urn:uuid:`; writing is always lower case with hyphens. The order of identifiers is the
order of the numbers, which is also the order of their written forms.

Fresh identifiers are of version 7: the time in milliseconds stands in front, so that identifiers
made later are greater, and a counter behind it keeps those of one millisecond apart.

## Main results

* `val_v7` — a fresh identifier's number, from which version and order can be read.
* `v7_lt_v7` — of two identifiers of one millisecond the one with the greater counter is greater.
-/

namespace Backlog

/-- The identifier of a task. -/
@[ext] structure TaskId where
  val : Nat
  val_lt : val < Nat.pow 2 128
  deriving DecidableEq, Repr

namespace TaskId

open Text

/-- The identifier with this number, if it has 128 bits. -/
def ofNat? (n : Nat) : Option TaskId := if h : n < Nat.pow 2 128 then some ⟨n, h⟩ else none

instance : LT TaskId := ⟨fun a b => a.val < b.val⟩
instance (a b : TaskId) : Decidable (a < b) := inferInstanceAs (Decidable (a.val < b.val))

theorem lt_def {a b : TaskId} : a < b ↔ a.val < b.val := Iff.rfl

/-! ## Writing -/

/-- The lower-case hexadecimal digits of a number, `width` of them, the last ones. -/
def hexDigits : Nat → Nat → List Char
  | 0, _ => []
  | width + 1, n => hexDigits width (n / 16) ++ [Nat.digitChar (n % 16)]

/-- The thirty-two digits of an identifier. -/
def digits (id : TaskId) : List Char := hexDigits 32 id.val

/-- Digits in groups of 8, 4, 4, 4 and 12 with hyphens between them. -/
def hyphenated (ds : List Char) : List Char :=
  ds.take 8 ++ '-' :: (ds.drop 8).take 4 ++ '-' :: (ds.drop 12).take 4
    ++ '-' :: (ds.drop 16).take 4 ++ '-' :: ds.drop 20

/-- The written form of an identifier. -/
def text (id : TaskId) : String := String.ofList (hyphenated id.digits)

/-- The digits of an identifier without hyphens. -/
def simpleText (id : TaskId) : String := String.ofList id.digits

/-! ## Reading -/

/-- The value of a hexadecimal digit in either case. -/
def hexValue? (c : Char) : Option Nat :=
  if isDigit c then some (digitValue c)
  else if 'a' ≤ c && c ≤ 'f' then some (c.toNat - 'a'.toNat + 10)
  else if 'A' ≤ c && c ≤ 'F' then some (c.toNat - 'A'.toNat + 10)
  else none

/-- The number that hexadecimal digits denote, continuing from `acc`. -/
def hexNumber? (acc : Nat) : List Char → Option Nat
  | [] => some acc
  | c :: cs => (hexValue? c).bind fun d => hexNumber? (acc * 16 + d) cs

/-- Thirty-two digits without anything else. -/
def ofDigits? (cs : List Char) : Option TaskId :=
  if cs.length == 32 then (hexNumber? 0 cs).bind ofNat? else none

/-- Thirty-two digits in their hyphenated groups. -/
def ofHyphenated? (cs : List Char) : Option TaskId :=
  if cs.length == 36 && [8, 13, 18, 23].all fun i => cs[i]? == some '-' then
    ofDigits? (cs.take 8 ++ (cs.drop 9).take 4 ++ (cs.drop 14).take 4 ++ (cs.drop 19).take 4
      ++ cs.drop 24)
  else none

/-- The mark that may precede the hyphenated form, in any letter case. -/
def urnMark : List Char := "urn:uuid:".toList

/-- The identifier a text denotes, in one of its four forms. -/
def ofChars? (cs : List Char) : Option TaskId :=
  if cs.length == 32 then ofDigits? cs
  else if cs.length == 36 then ofHyphenated? cs
  else if cs.length == 38 then
    if cs.head? == some '\x7b' && cs.getLast? == some '\x7d' then
      ofHyphenated? ((cs.drop 1).take 36)
    else none
  else if cs.length == 45 && (cs.take 9).map Char.toLower == urnMark then ofHyphenated? (cs.drop 9)
  else none

/-- The identifier a text denotes, without trimming. -/
def read? (s : String) : Option TaskId := ofChars? s.toList

/-- The identifier a text denotes once its blanks are trimmed. -/
def readTrimmed? (s : String) : Option TaskId := read? (trim s)

/-- A blank text names no task. -/
theorem readTrimmed?_of_blank {s : String} (h : (trim s).isEmpty = true) :
    readTrimmed? s = none := by
  rw [readTrimmed?, String.isEmpty_iff.1 h]
  rfl

/-! ## Fresh identifiers -/

/-- The identifier of version 7 for a time in milliseconds and a counter: 48 bits of time, the
version, 12 bits of the counter, the variant, and its remaining 62 bits. -/
def v7 (millis counter : Nat) : TaskId where
  val := millis % Nat.pow 2 48 * Nat.pow 2 80 + 7 * Nat.pow 2 76
    + counter / Nat.pow 2 62 % Nat.pow 2 12 * Nat.pow 2 64
    + 2 * Nat.pow 2 62 + counter % Nat.pow 2 62
  val_lt := by simp only [Nat.pow_eq]; omega

/-- The version an identifier declares. -/
def version (id : TaskId) : Nat := id.val / Nat.pow 2 76 % 16

theorem val_v7 (millis counter : Nat) :
    (v7 millis counter).val = millis % Nat.pow 2 48 * Nat.pow 2 80 + 7 * Nat.pow 2 76
      + counter / Nat.pow 2 62 % Nat.pow 2 12 * Nat.pow 2 64
      + 2 * Nat.pow 2 62 + counter % Nat.pow 2 62 := rfl

theorem version_v7 (millis counter : Nat) : (v7 millis counter).version = 7 := by
  simp only [version, val_v7, Nat.pow_eq]; omega

/-- Of two identifiers of one millisecond the one with the greater counter is greater. -/
theorem v7_lt_v7 (millis : Nat) {a b : Nat} (hab : a < b) (hb : b < Nat.pow 2 74) :
    v7 millis a < v7 millis b := by
  rw [lt_def, val_v7, val_v7]
  simp only [Nat.pow_eq] at *
  omega

end TaskId

end Backlog
