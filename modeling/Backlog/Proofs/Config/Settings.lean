import Backlog.Config.Environment
import Backlog.Proofs.Text.Numeral
import Mathlib.Data.List.Nodup
import Mathlib.Logic.Function.Basic
/-!
# What a variable says

Each setting has a variable of its own.  For a duration `DurationRead` says what the text of its
variable comes to: a numeral that denotes a positive number of 64 bits is that many units, without
loss, and every other text counts as none.  The relation is a function of the text, so a setting
that is read by it depends on no other variable.  One setting does not stay what was read: the
longest idle sleep is raised to the shortest one.

Together with the bounds of a normalised configuration this is all there is to know of the
settings that are read.  In particular the settings of an engine can be written down, each in its
unit, and are read back as they were, provided that they are in bounds and whole numbers of their
units.

## Main results

* `millis_read`, `seconds_read` — a duration is what its variable says.
* `Setting.name_injective` — each setting has its own variable.
* `Setting.value_congr`, `Setting.value_idleMax` — a setting depends on its own variable, and the
  longest idle sleep on the shortest one too.
* `engineConfig_written` — settings that were written down are read back.
* `reads_settings` — all of it for any variables.
-/

namespace Backlog.Environment

open Text

variable {lookup lookup' : Lookup} {text : Option String} {d d' fallback : Duration} {unit : Nat}

/-! ## Durations -/

/-- What the text of a variable says of a duration, in units of some nanoseconds and with a duration
to fall back to. -/
inductive DurationRead (unit : Nat) (fallback : Duration) : Option String → Duration → Prop where
  /-- The trimmed text denotes a positive number of 64 bits, and the duration is that many units. -/
  | given {text : String} {n : Nat} {d : Duration}
      (numeral : UnsignedNumeral (trimChars text.toList) n) (positive : 1 ≤ n)
      (fits : n ≤ 18446744073709551615) (exact : d.nanos = n * unit) :
      DurationRead unit fallback (some text) d
  /-- The variable is not set. -/
  | unset : DurationRead unit fallback none fallback
  /-- The trimmed text denotes no number, or zero, or one of more than 64 bits. -/
  | other {text : String} (unfit : ∀ n, UnsignedNumeral (trimChars text.toList) n →
      n = 0 ∨ 18446744073709551615 < n) : DurationRead unit fallback (some text) fallback

/-- A text says one thing. -/
theorem DurationRead.unique (h : DurationRead unit fallback text d)
    (h' : DurationRead unit fallback text d') : d = d' := by
  cases h with
  | unset => cases h'; rfl
  | given numeral positive fits exact =>
      cases h' with
      | given numeral' _ _ exact' =>
          obtain rfl := numeral.unique numeral'
          exact Duration.ext (exact.trans exact'.symm)
      | other unfit' => have hunfit := unfit' _ numeral; omega
  | other unfit =>
      cases h' with
      | given numeral' positive' fits' _ => have hunfit := unfit _ numeral'; omega
      | other _ => rfl

theorem positive?_eq_some_iff {s : String} {n : Nat} : positive? s = some n ↔
    UnsignedNumeral (trimChars s.toList) n ∧ 1 ≤ n ∧ n ≤ 18446744073709551615 := by
  simp only [positive?, Option.filter_eq_some_iff, unsigned?_eq_some_iff, Bool.and_eq_true,
    decide_eq_true_eq]
  exact and_congr_right fun _ => by omega

/-- What a variable comes to is what its text says, if the numbers it may hold are so many units. -/
theorem durationRead_getD {ofNumber : Nat → Duration}
    (exact : ∀ n, n < 18446744073709551616 → (ofNumber n).nanos = n * unit) (text : Option String) :
    DurationRead unit fallback text (((text.bind positive?).map ofNumber).getD fallback) := by
  cases text with
  | none => exact .unset
  | some s =>
      rw [Option.bind_some]
      cases hs : positive? s with
      | some n =>
          obtain ⟨numeral, positive, fits⟩ := positive?_eq_some_iff.1 hs
          exact .given numeral positive fits (exact n (by omega))
      | none =>
          refine .other fun n hn => ?_
          by_contra hfit
          have hsome := positive?_eq_some_iff.2 ⟨hn, by omega, by omega⟩
          rw [hs] at hsome
          cases hsome

/-- A duration in milliseconds is what its variable says. -/
theorem millis_read (lookup : Lookup) (name : String) (fallback : Duration) :
    DurationRead 1000000 fallback (lookup name) ((millis? lookup name).getD fallback) :=
  durationRead_getD (fun _ => Duration.nanos_ofMillis) (lookup name)

/-- A duration in seconds is what its variable says. -/
theorem seconds_read (lookup : Lookup) (name : String) (fallback : Duration) :
    DurationRead 1000000000 fallback (lookup name) ((seconds? lookup name).getD fallback) :=
  durationRead_getD (fun _ => Duration.nanos_ofSeconds) (lookup name)

theorem millis_congr {name : String} (h : lookup name = lookup' name) :
    (millis? lookup name).getD fallback = (millis? lookup' name).getD fallback := by
  rw [millis?, millis?, h]

theorem seconds_congr {name : String} (h : lookup name = lookup' name) :
    (seconds? lookup name).getD fallback = (seconds? lookup' name).getD fallback := by
  rw [seconds?, seconds?, h]

/-- A number of units in decimal says so many units. -/
theorem durationRead_decimal {n : Nat} (positive : 1 ≤ n) (fits : n ≤ 18446744073709551615)
    (exact : d.nanos = n * unit) : DurationRead unit fallback (some (decimalText n)) d := by
  refine .given (.bare ?_) positive fits exact
  rw [decimalText, String.toList_ofList, trimChars_decimal]
  exact numeral_decimal n

/-! ## Settings and their variables -/

/-- A setting with a variable of its own. -/
inductive Setting where
  | idleMin
  | idleMax
  | sweepInterval
  | processingLimit
  | capacity (c : ResourceClass)
  | acquireTimeout (c : ResourceClass)
  deriving DecidableEq

/-- The settings of the engine as its variables say. -/
def rawEngine (lookup : Lookup) : EngineConfig where
  idleMin := (millis? lookup "SBM_TASK_IDLE_MIN_MS").getD EngineConfig.default.idleMin
  idleMax := (millis? lookup "SBM_TASK_IDLE_MAX_MS").getD EngineConfig.default.idleMax
  sweepInterval :=
    (seconds? lookup "SBM_TASK_REAPER_INTERVAL_SECONDS").getD EngineConfig.default.sweepInterval
  processingLimit :=
    (seconds? lookup "SBM_TASK_PROCESSING_TTL_SECONDS").getD EngineConfig.default.processingLimit

theorem engineConfig_eq (lookup : Lookup) : engineConfig lookup = (rawEngine lookup).normalized :=
  rfl

theorem get_gateConfig (lookup : Lookup) (c : ResourceClass) :
    (gateConfig lookup).get c = (classLimit lookup c).normalized := by
  cases c <;> rfl

namespace Setting

/-- Every setting. -/
def all : List Setting :=
  [idleMin, idleMax, sweepInterval, processingLimit] ++ ResourceClass.all.map capacity ++
    ResourceClass.all.map acquireTimeout

/-- The name of the variable of a setting. -/
def name : Setting → String
  | idleMin => "SBM_TASK_IDLE_MIN_MS"
  | idleMax => "SBM_TASK_IDLE_MAX_MS"
  | sweepInterval => "SBM_TASK_REAPER_INTERVAL_SECONDS"
  | processingLimit => "SBM_TASK_PROCESSING_TTL_SECONDS"
  | capacity c => capacityName c
  | acquireTimeout c => timeoutName c

/-- A setting as it is read: a capacity, or a duration in nanoseconds. -/
def value (lookup : Lookup) : Setting → Nat
  | idleMin => (engineConfig lookup).idleMin.nanos
  | idleMax => (engineConfig lookup).idleMax.nanos
  | sweepInterval => (engineConfig lookup).sweepInterval.nanos
  | processingLimit => (engineConfig lookup).processingLimit.nanos
  | capacity c => ((gateConfig lookup).get c).capacity
  | acquireTimeout c => ((gateConfig lookup).get c).acquireTimeout.nanos

theorem mem_all (s : Setting) : s ∈ all := by
  cases s with
  | capacity c | acquireTimeout c => cases c <;> decide
  | _ => decide

/-- Each setting has a variable of its own. -/
theorem name_injective {s s' : Setting} (h : s.name = s'.name) : s = s' := by
  have hnodup : (all.map name).Nodup := by decide
  exact List.inj_on_of_nodup_map hnodup (mem_all s) (mem_all s') h

/-- A setting other than the longest idle sleep depends on its own variable alone. -/
theorem value_congr {s : Setting} (hs : s ≠ idleMax) (h : lookup s.name = lookup' s.name) :
    s.value lookup = s.value lookup' := by
  cases s with
  | idleMax => exact absurd rfl hs
  | idleMin =>
      have hraw : (rawEngine lookup).idleMin = (rawEngine lookup').idleMin := millis_congr h
      simp only [value, engineConfig_eq, EngineConfig.normalized, hraw]
  | sweepInterval =>
      have hraw : (rawEngine lookup).sweepInterval = (rawEngine lookup').sweepInterval :=
        seconds_congr h
      simp only [value, engineConfig_eq, EngineConfig.normalized, hraw]
  | processingLimit =>
      have hraw : (rawEngine lookup).processingLimit = (rawEngine lookup').processingLimit :=
        seconds_congr h
      simp only [value, engineConfig_eq, EngineConfig.normalized, hraw]
  | capacity c =>
      have hraw : capacity? lookup (capacityName c) = capacity? lookup' (capacityName c) :=
        congrArg (Option.bind · capacityText?) h
      simp only [value, get_gateConfig, ClassLimit.normalized, classLimit, hraw]
  | acquireTimeout c =>
      have hraw : (classLimit lookup c).acquireTimeout = (classLimit lookup' c).acquireTimeout :=
        millis_congr h
      simp only [value, get_gateConfig, ClassLimit.normalized, hraw]

/-- The longest idle sleep is what its own variable says, raised to the shortest one. -/
theorem value_idleMax (lookup : Lookup) :
    idleMax.value lookup = max (min (rawEngine lookup).idleMax.nanos
      EngineConfig.idleCeiling.nanos) (idleMin.value lookup) := by
  have hmin : (engineConfig lookup).idleMin ≤ EngineConfig.idleCeiling :=
    (rawEngine lookup).idleMin_normalized_le
  have hmax : idleMax.value lookup = min (max (rawEngine lookup).idleMax.nanos
      (idleMin.value lookup)) EngineConfig.idleCeiling.nanos := Duration.nanos_clamp _ _ _ hmin
  have hle : idleMin.value lookup ≤ EngineConfig.idleCeiling.nanos := hmin
  omega

/-- The longest idle sleep depends on its own variable and that of the shortest one. -/
theorem value_idleMax_congr (hmax : lookup idleMax.name = lookup' idleMax.name)
    (hmin : lookup idleMin.name = lookup' idleMin.name) :
    idleMax.value lookup = idleMax.value lookup' := by
  have hraw : (rawEngine lookup).idleMax = (rawEngine lookup').idleMax := millis_congr hmax
  rw [value_idleMax, value_idleMax, hraw, value_congr (by decide) hmin]

end Setting

/-! ## Settings written down -/

/-- Every setting of the engine is a whole number of the units of its variable. -/
structure IsWhole (c : EngineConfig) : Prop where
  idleMin : c.idleMin.nanos % 1000000 = 0
  idleMax : c.idleMax.nanos % 1000000 = 0
  sweepInterval : c.sweepInterval.nanos % 1000000000 = 0
  processingLimit : c.processingLimit.nanos % 1000000000 = 0

/-- Variables with those of the engine set to some settings in decimal. -/
def written (lookup : Lookup) (c : EngineConfig) : Lookup := fun name =>
  if name = Setting.idleMin.name then some (decimalText c.idleMin.millis)
  else if name = Setting.idleMax.name then some (decimalText c.idleMax.millis)
  else if name = Setting.sweepInterval.name then some (decimalText c.sweepInterval.seconds)
  else if name = Setting.processingLimit.name then some (decimalText c.processingLimit.seconds)
  else lookup name

/-- Whole milliseconds in decimal are read back. -/
theorem millis_written {name : String} (h : lookup name = some (decimalText d.millis))
    (hwhole : d.nanos % 1000000 = 0) (hpos : 0 < d.nanos)
    (hle : d ≤ EngineConfig.idleCeiling) : (millis? lookup name).getD fallback = d := by
  have hread := millis_read lookup name fallback
  have hbound : d.nanos ≤ 60000000000 := hle
  rw [h] at hread
  refine hread.unique (durationRead_decimal ?_ ?_ ?_) <;> simp only [Duration.millis] <;> omega

/-- Whole seconds in decimal are read back. -/
theorem seconds_written {name : String} (h : lookup name = some (decimalText d.seconds))
    (hwhole : d.nanos % 1000000000 = 0) (hpos : 0 < d.nanos) :
    (seconds? lookup name).getD fallback = d := by
  have hread := seconds_read lookup name fallback
  have hbound : d.seconds < 18446744073709551616 := d.seconds_lt
  rw [h] at hread
  simp only [Duration.seconds] at hread hbound
  refine hread.unique (durationRead_decimal ?_ ?_ ?_) <;> omega

/-- Settings of the engine that are in bounds and whole are read back as they were written. -/
theorem engineConfig_written (lookup : Lookup) {c : EngineConfig} (hbounds : c.InBounds)
    (hwhole : IsWhole c) : engineConfig (written lookup c) = c := by
  have ⟨hmin, hmax, htop, hsweep, _, hprocessing, _⟩ := hbounds
  have hfloor : 50000000 ≤ c.idleMin.nanos := hmin
  have hle : c.idleMin.nanos ≤ c.idleMax.nanos := hmax
  -- In bounds nothing is clamped, so each duration only has to be read back.
  have hraw : rawEngine (written lookup c) = c := by
    apply EngineConfig.ext <;> simp only [rawEngine]
    · exact millis_written (by simp [written, Setting.name]) hwhole.idleMin (by omega)
        (Nat.le_trans hmax htop)
    · exact millis_written (by simp [written, Setting.name]) hwhole.idleMax (by omega) htop
    · exact seconds_written (by simp [written, Setting.name]) hwhole.sweepInterval
        (Nat.lt_of_lt_of_le (by decide) hsweep)
    · exact seconds_written (by simp [written, Setting.name]) hwhole.processingLimit
        (Nat.lt_of_lt_of_le (by decide) hprocessing)
  rw [engineConfig_eq, hraw, EngineConfig.normalized_eq_self_iff]
  exact hbounds

/-! ## All settings -/

/-- What the variables say is what the settings are. -/
structure ReadsSettings (lookup : Lookup) : Prop where
  /-- The settings of the engine are what their variables say, normalised. -/
  engine : ∃ raw : EngineConfig,
    DurationRead 1000000 EngineConfig.default.idleMin (lookup "SBM_TASK_IDLE_MIN_MS") raw.idleMin ∧
    DurationRead 1000000 EngineConfig.default.idleMax (lookup "SBM_TASK_IDLE_MAX_MS") raw.idleMax ∧
    DurationRead 1000000000 EngineConfig.default.sweepInterval
      (lookup "SBM_TASK_REAPER_INTERVAL_SECONDS") raw.sweepInterval ∧
    DurationRead 1000000000 EngineConfig.default.processingLimit
      (lookup "SBM_TASK_PROCESSING_TTL_SECONDS") raw.processingLimit ∧
    engineConfig lookup = raw.normalized
  /-- The wait of a class is what its variable says, held at ten minutes. -/
  timeouts : ∀ c, ∃ d,
    DurationRead 1000000 (GateConfig.default.get c).acquireTimeout (lookup (timeoutName c)) d ∧
    ((gateConfig lookup).get c).acquireTimeout.nanos = min d.nanos (600 * 1000000000)
  engine_inBounds : (engineConfig lookup).InBounds
  gate_inBounds : ∀ c, ((gateConfig lookup).get c).capacity ≤ 1024 ∧
    ((gateConfig lookup).get c).acquireTimeout ≤ Duration.ofSeconds 600
  /-- No two settings share a variable. -/
  apart : ∀ s s' : Setting, s.name = s'.name → s = s'
  /-- A change of another variable changes no setting, except that the longest idle sleep may change
  with the shortest one. -/
  kept : ∀ (s : Setting) (name : String) (text : Option String), s.name ≠ name →
    (s = .idleMax → name ≠ Setting.idleMin.name) →
    s.value (Function.update lookup name text) = s.value lookup
  /-- Then it is raised to that from where its own variable leaves it. -/
  raised : ∃ own : Nat, ∀ text : Option String,
    Setting.idleMax.value (Function.update lookup Setting.idleMin.name text) =
      max own (Setting.idleMin.value (Function.update lookup Setting.idleMin.name text))
  /-- Settings that are in bounds and whole are read back as they were written. -/
  written : ∀ c : EngineConfig, c.InBounds → IsWhole c → engineConfig (written lookup c) = c

/-- **The settings are exactly what the variables say**, each by its own variable and always in
bounds. -/
theorem reads_settings (lookup : Lookup) : ReadsSettings lookup where
  engine := ⟨rawEngine lookup, millis_read lookup _ _, millis_read lookup _ _,
    seconds_read lookup _ _, seconds_read lookup _ _, engineConfig_eq lookup⟩
  timeouts := by
    intro c
    refine ⟨(classLimit lookup c).acquireTimeout, millis_read lookup _ _, ?_⟩
    rw [get_gateConfig]
    exact Duration.nanos_shorter _ _
  engine_inBounds := EngineConfig.normalized_bounds _
  gate_inBounds := by
    intro c
    rw [get_gateConfig]
    refine ⟨ClassLimit.capacity_normalized_le _, ?_⟩
    rw [Duration.le_def, ClassLimit.normalized, Duration.nanos_shorter]
    exact Nat.min_le_right _ _
  apart _ _ := Setting.name_injective
  kept := by
    intro s name text hname hmin
    by_cases hs : s = .idleMax
    · subst hs
      exact Setting.value_idleMax_congr (Function.update_of_ne hname _ _)
        (Function.update_of_ne (hmin rfl).symm _ _)
    · exact Setting.value_congr hs (Function.update_of_ne hname _ _)
  raised := by
    refine ⟨min (rawEngine lookup).idleMax.nanos EngineConfig.idleCeiling.nanos, fun text => ?_⟩
    have hown : (rawEngine (Function.update lookup Setting.idleMin.name text)).idleMax =
        (rawEngine lookup).idleMax := millis_congr (Function.update_of_ne (by decide) _ _)
    rw [Setting.value_idleMax, hown]
  written _ := engineConfig_written lookup

end Backlog.Environment
