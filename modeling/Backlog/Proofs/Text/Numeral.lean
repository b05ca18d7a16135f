import Backlog.Proofs.Text.Decimal
import Backlog.Proofs.Text.Trim
/-!
# Numerals

What a text has to look like to be read as a number, as a grammar, apart from the readers.  A
numeral is at least one ASCII digit, and each digit multiplies by ten what is denoted by those in
front of it.  A plus sign may stand in front, and before a signed number a minus sign as well.
Nothing else may occur, and leading zeros and any length are allowed.

The readers accept exactly the numerals, each with the number that it denotes.

## Main results

* `natural?_eq_some_iff_numeral`, `unsigned?_eq_some_iff`, `signed?_eq_some_iff` — the readers and
  the grammar.
* `numeral_decimal`, `trimChars_decimal` — a number written in decimal is a numeral of it.
-/

namespace Backlog.Text

/-- Digits that denote a number: one digit, or such digits with one more behind them. -/
inductive Numeral : List Char → Nat → Prop where
  | digit {c : Char} (hc : isDigit c = true) : Numeral [c] (digitValue c)
  | snoc {ds : List Char} {n : Nat} {c : Char} (hds : Numeral ds n) (hc : isDigit c = true) :
      Numeral (ds ++ [c]) (10 * n + digitValue c)

/-- A numeral in front of which a plus sign may stand. -/
inductive UnsignedNumeral : List Char → Nat → Prop where
  | bare {ds : List Char} {n : Nat} (hds : Numeral ds n) : UnsignedNumeral ds n
  | plus {ds : List Char} {n : Nat} (hds : Numeral ds n) : UnsignedNumeral ('+' :: ds) n

/-- A numeral in front of which a sign may stand. -/
inductive SignedNumeral : List Char → Int → Prop where
  | bare {ds : List Char} {n : Nat} (hds : Numeral ds n) : SignedNumeral ds n
  | plus {ds : List Char} {n : Nat} (hds : Numeral ds n) : SignedNumeral ('+' :: ds) n
  | minus {ds : List Char} {n : Nat} (hds : Numeral ds n) : SignedNumeral ('-' :: ds) (-n)

variable {cs ds : List Char} {n : Nat} {i : Int}

theorem digitsValue_append_singleton (ds : List Char) (c : Char) :
    digitsValue 0 (ds ++ [c]) = 10 * digitsValue 0 ds + digitValue c := by
  simp only [digitsValue, List.foldl_append, List.foldl_cons, List.foldl_nil]

theorem Numeral.ne_nil (h : Numeral ds n) : ds ≠ [] := by
  cases h with
  | digit hc => exact List.cons_ne_nil _ _
  | snoc hds hc => simp

theorem Numeral.isDigit (h : Numeral ds n) : ∀ c ∈ ds, isDigit c = true := by
  induction h with
  | digit hc => simpa using hc
  | snoc hds hc ih =>
      intro c hmem
      rcases List.mem_append.1 hmem with hmem | hmem
      · exact ih c hmem
      · rwa [List.mem_singleton.1 hmem]

theorem Numeral.digitsValue_eq (h : Numeral ds n) : digitsValue 0 ds = n := by
  induction h with
  | digit hc => simp [digitsValue]
  | snoc hds hc ih => rw [digitsValue_append_singleton, ih]

/-- Digits denote their value. -/
theorem numeral_of_digits (hne : ds ≠ []) (hd : ∀ c ∈ ds, isDigit c = true) :
    Numeral ds (digitsValue 0 ds) := by
  induction ds using List.reverseRecOn with
  | nil => exact absurd rfl hne
  | append_singleton ds c ih =>
      have hc : Text.isDigit c = true := hd c (by simp)
      rw [digitsValue_append_singleton]
      by_cases hds : ds = []
      · subst hds
        simpa [digitsValue] using Numeral.digit hc
      · exact .snoc (ih hds fun c' hc' => hd c' (List.mem_append_left _ hc')) hc

/-- The reader of natural numbers accepts exactly the numerals. -/
theorem natural?_eq_some_iff_numeral : natural? cs = some n ↔ Numeral cs n := by
  rw [natural?_eq_some_iff]
  constructor
  · rintro ⟨hne, hd, rfl⟩
    exact numeral_of_digits hne hd
  · exact fun h => ⟨h.ne_nil, h.isDigit, h.digitsValue_eq⟩

/-- A numeral begins with no sign. -/
theorem not_numeral_cons {c : Char} (hc : isDigit c = false) : ¬ Numeral (c :: ds) n := by
  intro h
  have hdigit := h.isDigit c List.mem_cons_self
  rw [hc] at hdigit
  cases hdigit

theorem unsigned?_eq_some_iff : unsigned? cs = some n ↔ UnsignedNumeral cs n := by
  constructor
  · intro h
    unfold unsigned? at h
    split at h
    · exact .plus (natural?_eq_some_iff_numeral.1 h)
    · exact .bare (natural?_eq_some_iff_numeral.1 h)
  · intro h
    cases h with
    | plus hds => exact natural?_eq_some_iff_numeral.2 hds
    | bare hds =>
        unfold unsigned?
        split
        · exact absurd hds (not_numeral_cons (by decide))
        · exact natural?_eq_some_iff_numeral.2 hds

theorem signed?_eq_some_iff : signed? cs = some i ↔ SignedNumeral cs i := by
  constructor
  · intro h
    unfold signed? at h
    split at h
    · obtain ⟨n, hn, rfl⟩ := Option.map_eq_some_iff.1 h
      exact .minus (natural?_eq_some_iff_numeral.1 hn)
    · obtain ⟨n, hn, rfl⟩ := Option.map_eq_some_iff.1 h
      cases unsigned?_eq_some_iff.1 hn with
      | plus hds => exact .plus hds
      | bare hds => exact .bare hds
  · intro h
    cases h with
    | minus hds => exact Option.map_eq_some_iff.2 ⟨_, natural?_eq_some_iff_numeral.2 hds, rfl⟩
    | plus hds =>
        exact Option.map_eq_some_iff.2 ⟨_, unsigned?_eq_some_iff.2 (.plus hds), rfl⟩
    | bare hds =>
        unfold signed?
        split
        · exact absurd hds (not_numeral_cons (by decide))
        · exact Option.map_eq_some_iff.2 ⟨_, unsigned?_eq_some_iff.2 (.bare hds), rfl⟩

/-- A text denotes one number. -/
theorem UnsignedNumeral.unique {m : Nat} (h : UnsignedNumeral cs n) (h' : UnsignedNumeral cs m) :
    n = m :=
  Option.some.inj ((unsigned?_eq_some_iff.2 h).symm.trans (unsigned?_eq_some_iff.2 h'))

/-- So does a text with a sign. -/
theorem SignedNumeral.unique {j : Int} (h : SignedNumeral cs i) (h' : SignedNumeral cs j) : i = j :=
  Option.some.inj ((signed?_eq_some_iff.2 h).symm.trans (signed?_eq_some_iff.2 h'))

/-! ## Written numbers -/

/-- A number written in decimal is a numeral of it. -/
theorem numeral_decimal (n : Nat) : Numeral (decimal n) n := by
  have hnumeral := numeral_of_digits (decimal_ne_nil n) fun c hc => isDigit_of_mem_decimal hc
  rwa [digitsValue_decimal] at hnumeral

/-- Nothing is trimmed off a number written in decimal. -/
theorem trimChars_decimal (n : Nat) : trimChars (decimal n) = decimal n := by
  have hblank : ∀ c ∈ decimal n, isBlank c = false :=
    fun c hc => isBlank_of_isDigit (isDigit_of_mem_decimal hc)
  refine IsTrimmed.trimChars_eq_self ⟨fun c hc => ?_, fun c hc => ?_⟩
  · exact hblank c (List.mem_of_mem_head? hc)
  · exact hblank c (List.mem_of_mem_getLast? hc)

end Backlog.Text
