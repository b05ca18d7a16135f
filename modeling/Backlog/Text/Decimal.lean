/-!
# Decimal numbers in text

Settings and timestamps carry whole numbers as ASCII digits. This module reads and writes them:
the value of a run of digits, a signed literal, and a number padded to a fixed width. Digits of
other scripts are not digits here, and a literal holds at least one digit.

A literal may have any length: the value is an unbounded `Nat` or `Int`, and a caller that keeps
numbers in a fixed range tests the range itself.
-/

namespace Backlog.Text

/-- The ASCII digits. -/
def isDigit (c : Char) : Bool := '0' ≤ c && c ≤ '9'

/-- The value of an ASCII digit. -/
def digitValue (c : Char) : Nat := c.toNat - '0'.toNat

/-- The number a run of digits denotes in base ten, continuing from `acc`. -/
def digitsValue (acc : Nat) (cs : List Char) : Nat :=
  cs.foldl (fun n c => 10 * n + digitValue c) acc

/-- The number written by at least one digit and nothing else. -/
def natural? (cs : List Char) : Option Nat :=
  if cs.isEmpty || !cs.all isDigit then none else some (digitsValue 0 cs)

/-- A number without a minus sign: digits, which a `+` may precede. -/
def unsigned? : List Char → Option Nat
  | '+' :: cs => natural? cs
  | cs => natural? cs

/-- A number with an optional sign. -/
def signed? : List Char → Option Int
  | '-' :: cs => (natural? cs).map fun n => -Int.ofNat n
  | cs => (unsigned? cs).map Int.ofNat

/-- The decimal digits of a number, without leading zeros. -/
def decimal (n : Nat) : List Char := Nat.toDigits 10 n

/-- The decimal digits of a number, filled with leading zeros up to `width`. -/
def padded (width n : Nat) : List Char :=
  let ds := decimal n
  List.replicate (width - ds.length) '0' ++ ds

/-- The number `n` as a string. -/
def decimalText (n : Nat) : String := String.ofList (decimal n)

/-- A literal that reads denotes the value of its digits. -/
theorem natural?_eq_some_iff {cs : List Char} {n : Nat} :
    natural? cs = some n ↔ cs ≠ [] ∧ (∀ c ∈ cs, isDigit c = true) ∧ digitsValue 0 cs = n := by
  cases cs with
  | nil => simp [natural?]
  | cons c cs =>
    by_cases h : (c :: cs).all isDigit = true
    · simp only [natural?, List.isEmpty_cons, h, Bool.not_true, Bool.or_self, Bool.false_eq_true,
        if_false, Option.some.injEq]
      constructor
      · intro hv
        exact ⟨by simp, List.all_eq_true.1 h, hv⟩
      · exact fun hv => hv.2.2
    · simp only [natural?, List.isEmpty_cons, h, Bool.not_false, Bool.or_true, if_true]
      constructor
      · intro hv; cases hv
      · exact fun hv => absurd (List.all_eq_true.2 hv.2.1) h

end Backlog.Text
