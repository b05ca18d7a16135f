/-!
# Blank characters and trimming

Every text a caller hands in is trimmed before it is looked at: the characters of the Unicode
property `White_Space` are taken off both ends. The property has twenty-five members, far more
than the ASCII blanks, and fewer than one would guess from names: the zero-width space `U+200B`
and the byte-order mark `U+FEFF` are not among them.

Trimming is stated on lists of characters, where the two ends are `dropWhile` and its image under
`reverse`; `trim` is the same on `String`.

## Main results

* `trimChars_eq_nil_iff` — nothing is left exactly when every character is blank.
-/

namespace Backlog.Text

/-- The characters of the Unicode property `White_Space`. -/
def isBlank (c : Char) : Bool :=
  let n := c.toNat
  (9 ≤ n && n ≤ 13) || n == 0x20 || n == 0x85 || n == 0xA0 || n == 0x1680
    || (0x2000 ≤ n && n ≤ 0x200A) || n == 0x2028 || n == 0x2029 || n == 0x202F
    || n == 0x205F || n == 0x3000

/-- A text without its leading blanks. -/
def trimStart (cs : List Char) : List Char := cs.dropWhile isBlank

/-- A text without its trailing blanks. -/
def trimEnd (cs : List Char) : List Char := (cs.reverse.dropWhile isBlank).reverse

/-- A text without the blanks at either end. -/
def trimChars (cs : List Char) : List Char := trimEnd (trimStart cs)

/-- `trimChars` on strings. -/
def trim (s : String) : String := String.ofList (trimChars s.toList)

theorem dropWhile_eq_nil_iff {p : Char → Bool} {cs : List Char} :
    cs.dropWhile p = [] ↔ ∀ c ∈ cs, p c = true := by
  induction cs with
  | nil => simp
  | cons c cs ih => by_cases h : p c = true <;> simp [h, ih]

theorem trimEnd_eq_nil_iff {cs : List Char} : trimEnd cs = [] ↔ ∀ c ∈ cs, isBlank c = true := by
  rw [trimEnd, List.reverse_eq_nil_iff, dropWhile_eq_nil_iff]
  simp only [List.mem_reverse]

/-- What fails the test is never dropped. -/
theorem mem_dropWhile_of_not {p : Char → Bool} {cs : List Char} {c : Char} (hc : c ∈ cs)
    (hp : p c ≠ true) : c ∈ cs.dropWhile p := by
  induction cs with
  | nil => simp at hc
  | cons d cs ih =>
    by_cases h : p d = true
    · rcases List.mem_cons.1 hc with rfl | hc
      · exact absurd h hp
      · simpa [h] using ih hc
    · simpa [h] using hc

/-- Nothing is left of a text exactly when it is blank throughout. -/
theorem trimChars_eq_nil_iff {cs : List Char} :
    trimChars cs = [] ↔ ∀ c ∈ cs, isBlank c = true := by
  constructor
  · intro h c hc
    have hs : ∀ c ∈ trimStart cs, isBlank c = true := trimEnd_eq_nil_iff.1 h
    by_cases hb : isBlank c = true
    · exact hb
    · exact hs c (mem_dropWhile_of_not hc hb)
  · intro h
    simp [trimChars, trimStart, dropWhile_eq_nil_iff.2 h, trimEnd]

end Backlog.Text
