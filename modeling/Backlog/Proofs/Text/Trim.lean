import Backlog.Text.Blank
import Mathlib.Data.List.DropRight
/-!
# What trimming leaves

What trimming leaves has no blank at either end, and of such a text it takes nothing off.  So it
changes nothing the second time.

## Main results

* `isTrimmed_trimChars` — what trimming leaves has no blank at either end.
* `trim_trim` — trimming twice is trimming once.
* `trim_eq_empty_iff` — nothing is left exactly of a text that is blank throughout.
-/

namespace Backlog.Text

variable {cs : List Char} {s : String}

/-- Characters that are blank throughout. -/
def AllBlank (cs : List Char) : Prop := ∀ c ∈ cs, isBlank c = true

instance (cs : List Char) : Decidable (AllBlank cs) :=
  inferInstanceAs (Decidable (∀ c ∈ cs, isBlank c = true))

/-- Characters with no blank at either end. -/
structure IsTrimmed (cs : List Char) : Prop where
  first : ∀ c ∈ cs.head?, isBlank c = false
  last : ∀ c ∈ cs.getLast?, isBlank c = false

/-- Some character is not blank. -/
theorem not_allBlank_iff : ¬ AllBlank cs ↔ ∃ c ∈ cs, isBlank c = false := by
  simp [AllBlank]

/-! ## One end at a time -/

/-- Nothing is dropped in front of a character that is not blank. -/
theorem trimStart_of_first (h : ∀ c ∈ cs.head?, isBlank c = false) : trimStart cs = cs := by
  cases cs with
  | nil => rfl
  | cons c cs => simp [trimStart, h c rfl]

/-- Nothing is dropped behind a character that is not blank. -/
theorem trimEnd_of_last (h : ∀ c ∈ cs.getLast?, isBlank c = false) : trimEnd cs = cs := by
  have hreverse : trimStart cs.reverse = cs.reverse :=
    trimStart_of_first (by rwa [List.head?_reverse])
  rw [trimEnd, ← trimStart, hreverse, List.reverse_reverse]

/-- A blank does not stand first in what is left. -/
theorem first_trimStart (cs : List Char) : ∀ c ∈ (trimStart cs).head?, isBlank c = false := by
  intro c hc
  have hnot := List.head?_dropWhile_not isBlank cs
  rw [trimStart, Option.mem_def] at hc
  rwa [hc] at hnot

theorem last_trimEnd (cs : List Char) : ∀ c ∈ (trimEnd cs).getLast?, isBlank c = false := by
  intro c hc
  rw [trimEnd, List.getLast?_reverse] at hc
  exact first_trimStart cs.reverse c hc

/-! ## Both ends -/

/-- What trimming leaves has no blank at either end. -/
theorem isTrimmed_trimChars (cs : List Char) : IsTrimmed (trimChars cs) := by
  refine ⟨fun c hc => ?_, last_trimEnd _⟩
  -- Trimming the end leaves a prefix, which begins as the whole unless it is empty.
  have hprefix : trimChars cs <+: trimStart cs := List.rdropWhile_prefix isBlank (trimStart cs)
  obtain ⟨rest, hrest⟩ := hprefix
  refine first_trimStart cs c ?_
  rw [← hrest, List.head?_append, hc]
  rfl

theorem IsTrimmed.trimChars_eq_self (h : IsTrimmed cs) : trimChars cs = cs := by
  rw [trimChars, trimStart_of_first h.first, trimEnd_of_last h.last]

/-! ## Texts -/

theorem toList_trim (s : String) : (trim s).toList = trimChars s.toList := by
  rw [trim, String.toList_ofList]

/-- Trimming twice is trimming once. -/
@[simp] theorem trim_trim (s : String) : trim (trim s) = trim s := by
  rw [trim, toList_trim, (isTrimmed_trimChars _).trimChars_eq_self, ← trim]

/-- Nothing is left exactly of a text that is blank throughout. -/
theorem trim_eq_empty_iff : trim s = "" ↔ AllBlank s.toList := by
  rw [← String.toList_inj, toList_trim]
  exact trimChars_eq_nil_iff

end Backlog.Text
