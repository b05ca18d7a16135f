import Backlog.Config.Engine
import Backlog.Config.Gate
import Backlog.Text.Blank
import Backlog.Text.Decimal
/-!
# Settings from named variables

Settings are read from variables that may be missing. A duration is a positive whole number below
`2 ^ 64` in milliseconds or seconds; a capacity is a signed number of 64 bits, negative ones
counting as zero. Blanks around a number are trimmed. A variable that is missing, or whose text is
no such number, leaves the default, and what was read is normalised.
-/

namespace Backlog.Environment

open Text

/-- A variable's text, if it is set. -/
abbrev Lookup := String → Option String

/-- A positive number below `2 ^ 64`. -/
def positive? (text : String) : Option Nat :=
  (unsigned? (trimChars text.toList)).filter fun n => 0 < n && n < 18446744073709551616

/-- A duration in milliseconds. -/
def millis? (lookup : Lookup) (name : String) : Option Duration :=
  ((lookup name).bind positive?).map Duration.ofMillis

/-- A duration in seconds. -/
def seconds? (lookup : Lookup) (name : String) : Option Duration :=
  ((lookup name).bind positive?).map Duration.ofSeconds

/-- A signed number of 64 bits, with zero for negative ones. -/
def capacityText? (text : String) : Option Nat :=
  ((signed? (trimChars text.toList)).filter fun n =>
    -9223372036854775808 ≤ n && n < 9223372036854775808).map Int.toNat

/-- The capacity a variable gives. -/
def capacity? (lookup : Lookup) (name : String) : Option Nat := (lookup name).bind capacityText?

/-- The settings of the engine. -/
def engineConfig (lookup : Lookup) : EngineConfig :=
  let d := EngineConfig.default
  EngineConfig.normalized
    { idleMin := (millis? lookup "SBM_TASK_IDLE_MIN_MS").getD d.idleMin
      idleMax := (millis? lookup "SBM_TASK_IDLE_MAX_MS").getD d.idleMax
      sweepInterval := (seconds? lookup "SBM_TASK_REAPER_INTERVAL_SECONDS").getD d.sweepInterval
      processingLimit :=
        (seconds? lookup "SBM_TASK_PROCESSING_TTL_SECONDS").getD d.processingLimit }

/-- The variable that holds the capacity of a class. -/
def capacityName : ResourceClass → String
  | .ocr => "SBM_LIMIT_OCR"
  | .bulkExport => "SBM_LIMIT_EXPORT"
  | .emailDownload => "SBM_LIMIT_EMAIL_DOWNLOAD"

/-- The variable that holds the wait of a class. -/
def timeoutName (c : ResourceClass) : String := capacityName c ++ "_TIMEOUT_MS"

/-- The limit of one class before normalising. -/
def classLimit (lookup : Lookup) (c : ResourceClass) : ClassLimit :=
  let d := GateConfig.default.get c
  ⟨(capacity? lookup (capacityName c)).getD d.capacity,
    (millis? lookup (timeoutName c)).getD d.acquireTimeout⟩

/-- The settings of the gate. -/
def gateConfig (lookup : Lookup) : GateConfig :=
  GateConfig.normalized
    ⟨classLimit lookup .ocr, classLimit lookup .bulkExport, classLimit lookup .emailDownload⟩

end Backlog.Environment
