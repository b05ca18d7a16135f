import Backlog.Task.Id
import Mathlib.Algebra.Group.Nat.Defs
/-!
# Identifiers read back

The written form of an identifier denotes it.  The digits are those of the number in base sixteen,
so reading them from the front adds up to the number again: the statement about this is for any
width and any number read before, and leaves what the width cuts off.  The hyphens stand at fixed
places, and taking them out gives the thirty-two digits in their order.

## Main results

* `hexNumber?_hexDigits` — the digits of a number denote it, up to what its width cuts off.
* `read?_text` — an identifier is read back from its hyphenated form.
-/

namespace Backlog.TaskId

/-- Digits behind one another are read one after the other. -/
theorem hexNumber?_append (acc : Nat) (xs ys : List Char) :
    hexNumber? acc (xs ++ ys) = (hexNumber? acc xs).bind fun n => hexNumber? n ys := by
  induction xs generalizing acc with
  | nil => rfl
  | cons c cs ih =>
    cases hc : hexValue? c with
    | none => simp [hexNumber?, hc]
    | some d => simp [hexNumber?, hc, ih]

theorem hexValue?_digitChar {d : Nat} (h : d < 16) : hexValue? (Nat.digitChar d) = some d := by
  revert d
  decide

theorem length_hexDigits (width n : Nat) : (hexDigits width n).length = width := by
  induction width generalizing n with
  | zero => rfl
  | succ width ih => simp [hexDigits, ih]

/-- The last digits of a number denote what is left of it. -/
theorem hexNumber?_hexDigits (acc width n : Nat) :
    hexNumber? acc (hexDigits width n) = some (acc * 16 ^ width + n % 16 ^ width) := by
  induction width generalizing n with
  | zero => simp [hexDigits, hexNumber?, Nat.mod_one]
  | succ width ih =>
    have hdigit : n % 16 < 16 := Nat.mod_lt n (by decide)
    have hsplit : n % 16 ^ (width + 1) = 16 * (n / 16 % 16 ^ width) + n % 16 := by
      rw [Nat.pow_succ, Nat.mul_comm, Nat.mod_mul]
      omega
    rw [hexDigits, hexNumber?_append, ih, Option.bind_some, hexNumber?,
      hexValue?_digitChar hdigit, Option.bind_some, hexNumber?, hsplit, Nat.pow_succ]
    congr 1
    rw [Nat.add_mul, Nat.mul_assoc]
    omega

theorem ofDigits?_digits (id : TaskId) : ofDigits? id.digits = some id := by
  have hlt : id.val < 16 ^ 32 := id.val_lt
  rw [ofDigits?, digits, length_hexDigits, hexNumber?_hexDigits, Nat.mod_eq_of_lt hlt]
  simp [ofNat?, id.val_lt]

/-- Thirty-two digits and four hyphens. -/
theorem length_hyphenated {ds : List Char} (h : ds.length = 32) : (hyphenated ds).length = 36 := by
  simp only [hyphenated, List.length_append, List.length_cons, List.length_take, List.length_drop,
    h]
  omega

/-- A text falls apart at any place. -/
theorem exists_append_of_length {cs : List Char} (m n : Nat) (h : cs.length = m + n) :
    ∃ a b, cs = a ++ b ∧ a.length = m ∧ b.length = n := by
  refine ⟨cs.take m, cs.drop m, (List.take_append_drop m cs).symm, ?_, ?_⟩
  · rw [List.length_take]
    omega
  · rw [List.length_drop]
    omega

/-- Without their hyphens the digits stand in their order again. -/
theorem ofHyphenated?_hyphenated {ds : List Char} (h : ds.length = 32) :
    ofHyphenated? (hyphenated ds) = ofDigits? ds := by
  have hlength := length_hyphenated h
  obtain ⟨a, ds, rfl, ha, h⟩ := exists_append_of_length 8 24 h
  obtain ⟨b, ds, rfl, hb, h⟩ := exists_append_of_length 4 20 h
  obtain ⟨c, ds, rfl, hc, h⟩ := exists_append_of_length 4 16 h
  obtain ⟨d, e, rfl, hd, he⟩ := exists_append_of_length 4 12 h
  have hform : hyphenated (a ++ (b ++ (c ++ (d ++ e))))
      = a ++ '-' :: (b ++ '-' :: (c ++ '-' :: (d ++ '-' :: e))) := by
    simp (disch := omega) [hyphenated, List.drop_append, List.drop_of_length_le, ha, hb, hc]
  have hhyphens : ([8, 13, 18, 23].all fun i =>
      (a ++ '-' :: (b ++ '-' :: (c ++ '-' :: (d ++ '-' :: e))))[i]? == some '-') = true := by
    simp [List.getElem?_append, ha, hb, hc, hd]
  rw [ofHyphenated?, hlength, hform, hhyphens]
  simp (disch := omega) [List.drop_append, List.drop_of_length_le, ha, hb, hc, hd]

/-- An identifier is read back from its written form. -/
theorem read?_text (id : TaskId) : read? id.text = some id := by
  have hlength : id.digits.length = 32 := length_hexDigits 32 id.val
  have hform := length_hyphenated hlength
  simp [read?, text, ofChars?, hform, ofHyphenated?_hyphenated hlength, ofDigits?_digits]

end Backlog.TaskId
