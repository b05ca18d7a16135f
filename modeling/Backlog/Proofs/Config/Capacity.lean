import Backlog.Gate.Gate
import Backlog.Proofs.Config.Settings
/-!
# What a capacity says

A capacity is an integer with an optional sign.  Zero and less stand for no bound at all, and more
than the cap stands for the cap.  By this rule a greater number never means a smaller capacity, if
both are positive.

The rule holds up to where the numbers of 64 bits end, and not further.  A longer number counts as
no number, so that the default of the class is taken: one more than the greatest number of 64 bits
allows two recognitions at a time and not 1024, and a number below the least one leaves the class
bounded.

## Main results

* `capacityText?_eq_some_iff` — which texts are read, and as what.
* `capacity_of_fits`, `capacity_of_not_fits` — the capacity that a numeral leads to.
* `available?_ofConfig` — the slots of a gate that is opened with the settings.
* `reads_capacity` — all of it for the numeral of a class.
-/

namespace Backlog.Environment

open Text

variable {lookup lookup' : Lookup} {c : ResourceClass} {text text' : String} {n m : Int}

/-- The number has 64 bits, one of them for the sign. -/
def FitsWord (n : Int) : Prop := -9223372036854775808 ≤ n ∧ n ≤ 9223372036854775807

instance (n : Int) : Decidable (FitsWord n) := inferInstanceAs (Decidable (_ ∧ _))

/-- The capacity that an integer stands for. -/
def capacityOf (n : Int) : Nat := if n ≤ 0 then 0 else min n.toNat 1024

theorem capacityOf_eq (n : Int) : capacityOf n = min n.toNat 1024 := by
  unfold capacityOf
  split <;> omega

theorem capacityOf_eq_zero_iff : capacityOf n = 0 ↔ n ≤ 0 := by
  rw [capacityOf_eq]
  omega

theorem capacityOf_mono (h : n ≤ m) : capacityOf n ≤ capacityOf m := by
  rw [capacityOf_eq, capacityOf_eq]
  omega

/-! ## Reading -/

/-- The class has a variable that is set to a numeral. -/
structure Numbered (lookup : Lookup) (c : ResourceClass) (text : String) (n : Int) : Prop where
  isSet : lookup (capacityName c) = some text
  numeral : SignedNumeral (trimChars text.toList) n

/-- Exactly the numerals of 64 bits are read, each as its number without what is below zero. -/
theorem capacityText?_eq_some_iff {k : Nat} : capacityText? text = some k ↔
    ∃ n, SignedNumeral (trimChars text.toList) n ∧ FitsWord n ∧ n.toNat = k := by
  simp only [capacityText?, Option.map_eq_some_iff, Option.filter_eq_some_iff,
    signed?_eq_some_iff, Bool.and_eq_true, decide_eq_true_eq, and_assoc]
  refine exists_congr fun n => and_congr_right fun _ => ?_
  unfold FitsWord
  omega

theorem capacity_gateConfig (lookup : Lookup) (c : ResourceClass) :
    ((gateConfig lookup).get c).capacity =
      min ((capacity? lookup (capacityName c)).getD (GateConfig.default.get c).capacity) 1024 := by
  rw [get_gateConfig]
  rfl

/-- A numeral of 64 bits gives the capacity that it stands for. -/
theorem capacity_of_fits (h : Numbered lookup c text n) (hfits : FitsWord n) :
    ((gateConfig lookup).get c).capacity = capacityOf n := by
  have hread : capacityText? text = some n.toNat :=
    capacityText?_eq_some_iff.2 ⟨n, h.numeral, hfits, rfl⟩
  rw [capacity_gateConfig, capacity?, h.isSet, Option.bind_some, hread, Option.getD_some,
    capacityOf_eq]

/-- A longer numeral gives the default. -/
theorem capacity_of_not_fits (h : Numbered lookup c text n) (hlong : ¬ FitsWord n) :
    ((gateConfig lookup).get c).capacity = (GateConfig.default.get c).capacity := by
  have hread : capacityText? text = none := by
    rw [Option.eq_none_iff_forall_ne_some]
    intro k hk
    obtain ⟨m, hm, hfits, -⟩ := capacityText?_eq_some_iff.1 hk
    obtain rfl := h.numeral.unique hm
    exact hlong hfits
  rw [capacity_gateConfig, capacity?, h.isSet, Option.bind_some, hread, Option.getD_none]
  cases c <;> decide

/-! ## The gate -/

/-- The gate of the settings has as many free slots as the capacity says, and is open to everyone
if that is zero. -/
theorem available?_ofConfig (lookup : Lookup) (c : ResourceClass) :
    (Gate.ofConfig (gateConfig lookup)).available? c =
      if ((gateConfig lookup).get c).capacity = 0 then none
      else some ((gateConfig lookup).get c).capacity := by
  have hslots : (Gate.ofConfig (gateConfig lookup)).get c =
      Slots.ofLimit ((gateConfig lookup).get c).normalized := by
    rw [Gate.ofConfig, GateConfig.normalized, PerClass.get_map, PerClass.get_map]
  have hcapped : min ((gateConfig lookup).get c).capacity 1024 =
      ((gateConfig lookup).get c).capacity := by
    rw [get_gateConfig]
    exact Nat.min_eq_left (ClassLimit.capacity_normalized_le _)
  rw [Gate.available?, hslots, Slots.available?, Slots.ofLimit, ClassLimit.isUnbounded_normalized,
    ClassLimit.isUnbounded, ClassLimit.normalized, ClassLimit.capacityCeiling, hcapped]
  simp only [beq_iff_eq]

theorem available?_ofConfig_eq_none_iff :
    (Gate.ofConfig (gateConfig lookup)).available? c = none ↔
      ((gateConfig lookup).get c).capacity = 0 := by
  rw [available?_ofConfig]
  split <;> simp [*]

/-- No class is open to everyone by default. -/
theorem default_capacity_pos (c : ResourceClass) : 0 < (GateConfig.default.get c).capacity := by
  cases c <;> decide

/-! ## The capacity of a numeral -/

/-- What comes of a class whose variable is set to a numeral of a number. -/
structure ReadsCapacity (lookup : Lookup) (c : ResourceClass) (n : Int) : Prop where
  /-- Zero and less are no bound, and more than 1024 is 1024. -/
  capacity : FitsWord n →
    ((gateConfig lookup).get c).capacity = if n ≤ 0 then 0 else min n.toNat 1024
  /-- The gate is open to everyone exactly if the number is not positive. -/
  ungated : FitsWord n → ((Gate.ofConfig (gateConfig lookup)).available? c = none ↔ n ≤ 0)
  /-- Otherwise it has as many slots as the number says. -/
  slots : FitsWord n → 0 < n →
    (Gate.ofConfig (gateConfig lookup)).available? c = some (min n.toNat 1024)
  /-- A greater number never gives a smaller capacity, whatever the other variables are. -/
  monotone : FitsWord n → ∀ lookup' text' m, Numbered lookup' c text' m → FitsWord m → n ≤ m →
    ((gateConfig lookup).get c).capacity ≤ ((gateConfig lookup').get c).capacity
  /-- A number of more bits gives the default, and the class is bounded. -/
  beyond : ¬ FitsWord n →
    ((gateConfig lookup).get c).capacity = (GateConfig.default.get c).capacity ∧
      (Gate.ofConfig (gateConfig lookup)).available? c =
        some (GateConfig.default.get c).capacity

/-- **A capacity of 64 bits stands for what it says**: nothing but the number decides, numbers that
are not positive open the class to everyone, and the others bound it, by 1024 at most.  Any longer
number is the default of the class. -/
theorem reads_capacity (h : Numbered lookup c text n) : ReadsCapacity lookup c n where
  capacity := capacity_of_fits h
  ungated hfits := by
    rw [available?_ofConfig_eq_none_iff, capacity_of_fits h hfits, capacityOf_eq_zero_iff]
  slots hfits hpos := by
    have hne : capacityOf n ≠ 0 := mt capacityOf_eq_zero_iff.1 (by omega)
    rw [available?_ofConfig, capacity_of_fits h hfits, if_neg hne, capacityOf_eq]
  monotone hfits lookup' text' m h' hfits' hle := by
    rw [capacity_of_fits h hfits, capacity_of_fits h' hfits']
    exact capacityOf_mono hle
  beyond hlong := by
    have hcapacity := capacity_of_not_fits h hlong
    have hne := (default_capacity_pos c).ne'
    rw [available?_ofConfig, hcapacity, if_neg hne]
    exact ⟨rfl, rfl⟩

/-- Variables of which one is set. -/
def only (name text : String) : Lookup := fun other => if other = name then some text else none

/-- A capacity of seven, written with a sign and a blank. -/
theorem reads_capacity_of_seven :
    Numbered (only "SBM_LIMIT_OCR" " +07") .ocr " +07" 7 ∧
      ReadsCapacity (only "SBM_LIMIT_OCR" " +07") .ocr 7 :=
  have h : Numbered (only "SBM_LIMIT_OCR" " +07") .ocr " +07" 7 :=
    ⟨by decide, signed?_eq_some_iff.1 (by decide)⟩
  ⟨h, reads_capacity h⟩

/-- One more than the greatest number of 64 bits bounds recognition by two and not by 1024, and one
less than the least such number leaves it bounded. -/
theorem long_numerals_are_not_obeyed :
    (Numbered (only "SBM_LIMIT_OCR" "9223372036854775808") .ocr "9223372036854775808"
        9223372036854775808 ∧
      ((gateConfig (only "SBM_LIMIT_OCR" "9223372036854775808")).get .ocr).capacity = 2 ∧
      capacityOf 9223372036854775808 = 1024) ∧
    (Numbered (only "SBM_LIMIT_OCR" "-9223372036854775809") .ocr "-9223372036854775809"
        (-9223372036854775809) ∧
      (Gate.ofConfig (gateConfig (only "SBM_LIMIT_OCR" "-9223372036854775809"))).available? .ocr =
        some 2 ∧
      capacityOf (-9223372036854775809) = 0) := by
  refine ⟨⟨⟨by decide, signed?_eq_some_iff.1 (by decide)⟩, by decide, by decide⟩,
    ⟨by decide, signed?_eq_some_iff.1 (by decide)⟩, by decide, by decide⟩

end Backlog.Environment
