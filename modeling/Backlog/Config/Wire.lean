import Backlog.Config.Engine
import Backlog.Config.Gate
import Backlog.Json.Value
/-!
# The wire form of settings

A duration is an object of whole seconds and nanoseconds, or an array of the two; nanoseconds of a
second and more carry into the seconds. A duration knows no other member. Settings are objects of
their fields, or arrays of them, and none may be missing.
-/

namespace Backlog

namespace Duration

/-- A duration as JSON. -/
def toJson (d : Duration) : Json := .obj [("secs", .nat d.seconds), ("nanos", .nat d.subsecond)]

/-- The duration a JSON value denotes. -/
def ofJson? (j : Json) : Option Duration := do
  let known := match j with
    | .obj members => members.all fun m => m.1 == "secs" || m.1 == "nanos"
    | _ => true
  let [seconds, nanos] ← j.fields? ["secs", "nanos"] | none
  if known then
    ofParts? (← Json.required? Json.word? seconds)
      (← Json.required? (Json.natUpTo? 4294967295) nanos)
  else none

end Duration

namespace EngineConfig

/-- The settings of the engine as JSON. -/
def toJson (c : EngineConfig) : Json :=
  .obj
    [ ("idle_min", c.idleMin.toJson), ("idle_max", c.idleMax.toJson),
      ("reaper_interval", c.sweepInterval.toJson), ("processing_ttl", c.processingLimit.toJson) ]

/-- The settings of the engine a JSON value denotes. -/
def ofJson? (j : Json) : Option EngineConfig := do
  let [idleMin, idleMax, sweep, processing] ←
    j.fields? ["idle_min", "idle_max", "reaper_interval", "processing_ttl"] | none
  some
    { idleMin := ← Json.required? Duration.ofJson? idleMin
      idleMax := ← Json.required? Duration.ofJson? idleMax
      sweepInterval := ← Json.required? Duration.ofJson? sweep
      processingLimit := ← Json.required? Duration.ofJson? processing }

end EngineConfig

namespace ClassLimit

/-- A limit as JSON. -/
def toJson (l : ClassLimit) : Json :=
  .obj [("capacity", .nat l.capacity), ("acquire_timeout", l.acquireTimeout.toJson)]

/-- The limit a JSON value denotes. -/
def ofJson? (j : Json) : Option ClassLimit := do
  let [capacity, timeout] ← j.fields? ["capacity", "acquire_timeout"] | none
  some
    { capacity := ← Json.required? Json.word? capacity
      acquireTimeout := ← Json.required? Duration.ofJson? timeout }

end ClassLimit

namespace GateConfig

/-- The limits of every class as JSON. -/
def toJson (c : GateConfig) : Json :=
  .obj
    [ ("ocr", c.ocr.toJson), ("bulk_export", c.bulkExport.toJson),
      ("email_download", c.emailDownload.toJson) ]

/-- The limits a JSON value denotes. -/
def ofJson? (j : Json) : Option GateConfig := do
  let [ocr, bulkExport, emailDownload] ← j.fields? ["ocr", "bulk_export", "email_download"] | none
  some
    { ocr := ← Json.required? ClassLimit.ofJson? ocr
      bulkExport := ← Json.required? ClassLimit.ofJson? bulkExport
      emailDownload := ← Json.required? ClassLimit.ofJson? emailDownload }

end GateConfig

end Backlog
