import Backlog.Text.Blank
import Backlog.Text.Decimal
import Mathlib.Algebra.Group.Nat.Defs
/-!
# Numbers written and read

A number is written with its decimal digits, filled with zeros up to a width.  Its value is found
again by folding over the digits, and the width is kept whenever the number fits in it.  A reader of
a longer text sees the digits and then what follows them.  It takes the number back whole, provided
that what follows does not begin with a digit of its own, and this is the only thing about the rest
that matters.

## Main results

* `digitsValue_padded`, `length_padded` — the value of a padded number, and its length.
* `takeWhile_isDigit_append` — the digits at the front of a text end where no digit follows.
-/

namespace Backlog.Text

/-- Whether the text does not begin with a digit. -/
def NoDigitAhead (cs : List Char) : Prop := ∀ c ∈ cs.head?, isDigit c = false

theorem noDigitAhead_nil : NoDigitAhead [] := by simp [NoDigitAhead]

theorem noDigitAhead_cons {c : Char} {cs : List Char} :
    NoDigitAhead (c :: cs) ↔ isDigit c = false := by simp [NoDigitAhead]

theorem NoDigitAhead.take {cs : List Char} (h : NoDigitAhead cs) (k : Nat) :
    NoDigitAhead (cs.take k) := by
  cases cs with
  | nil => simpa using h
  | cons c cs =>
    by_cases hk : k = 0
    · simp [hk, noDigitAhead_nil]
    · obtain ⟨j, rfl⟩ := Nat.exists_eq_succ_of_ne_zero hk
      exact noDigitAhead_cons.2 (noDigitAhead_cons.1 h)

/-! ## Digits -/

theorem isDigit_iff {c : Char} : isDigit c = true ↔ c.isDigit = true := by
  simp only [isDigit, Char.isDigit, Char.le_def, Bool.and_eq_true, decide_eq_true_eq]

/-- No digit is blank. -/
theorem isBlank_of_isDigit {c : Char} (h : isDigit c = true) : isBlank c = false := by
  simp only [isDigit, Char.le_def, UInt32.le_iff_toNat_le, Bool.and_eq_true,
    decide_eq_true_eq] at h
  have hlow : 48 ≤ c.toNat := h.1
  have hhigh : c.toNat ≤ 57 := h.2
  simp only [isBlank, Bool.or_eq_false_iff, Bool.and_eq_false_iff, decide_eq_false_iff_not,
    beq_eq_false_iff_ne]
  omega

/-- The digits at the front of a text end where no digit follows. -/
theorem takeWhile_isDigit_append {ds rest : List Char} (hd : ∀ c ∈ ds, isDigit c = true)
    (hr : NoDigitAhead rest) : (ds ++ rest).takeWhile isDigit = ds := by
  rw [List.takeWhile_append_of_pos hd]
  cases rest with
  | nil => simp
  | cons c rest =>
    have hc := noDigitAhead_cons.1 hr
    simp [hc]

/-- A text that begins with something else than a blank loses nothing in front. -/
theorem trimStart_cons {c : Char} (h : isBlank c = false) (cs : List Char) :
    trimStart (c :: cs) = c :: cs := by
  simp [trimStart, h]

theorem trimStart_digits {ds : List Char} (hne : ds ≠ []) (hd : ∀ c ∈ ds, isDigit c = true)
    (rest : List Char) : trimStart (ds ++ rest) = ds ++ rest := by
  obtain ⟨c, cs, rfl⟩ := List.exists_cons_of_ne_nil hne
  exact trimStart_cons (isBlank_of_isDigit (hd c (by simp))) _

/-! ## Written numbers -/

theorem isDigit_of_mem_decimal {n : Nat} {c : Char} (h : c ∈ decimal n) : isDigit c = true :=
  isDigit_iff.2 (Nat.isDigit_of_mem_toDigits (by decide) (by decide) h)

theorem digitsValue_decimal (n : Nat) : digitsValue 0 (decimal n) = n :=
  Nat.ofDigitChars_toDigits (by decide) (by decide)

/-- Zeros in front change no value. -/
theorem digitsValue_zeros (k : Nat) (cs : List Char) :
    digitsValue 0 (List.replicate k '0' ++ cs) = digitsValue 0 cs := by
  induction k with
  | zero => rfl
  | succ k ih =>
    have hzero : 10 * 0 + digitValue '0' = 0 := by decide
    rw [List.replicate_succ, List.cons_append, digitsValue, List.foldl_cons, hzero]
    exact ih

theorem isDigit_of_mem_padded {width n : Nat} {c : Char} (h : c ∈ padded width n) :
    isDigit c = true := by
  simp only [padded, List.mem_append, List.mem_replicate] at h
  rcases h with ⟨-, rfl⟩ | h
  · decide
  · exact isDigit_of_mem_decimal h

/-- A padded number has its value. -/
theorem digitsValue_padded (width n : Nat) : digitsValue 0 (padded width n) = n := by
  rw [padded, digitsValue_zeros, digitsValue_decimal]

theorem decimal_ne_nil (n : Nat) : decimal n ≠ [] :=
  List.ne_nil_of_length_pos Nat.length_toDigits_pos

theorem padded_ne_nil (width n : Nat) : padded width n ≠ [] := by
  simp [padded, decimal_ne_nil n]

/-- A number that fits is as long as its width. -/
theorem length_padded {width n : Nat} (hw : 0 < width) (h : n < 10 ^ width) :
    (padded width n).length = width := by
  have hle : (decimal n).length ≤ width := (Nat.length_toDigits_le_iff (by decide) hw).2 h
  simp only [padded, List.length_append, List.length_replicate]
  omega

end Backlog.Text
