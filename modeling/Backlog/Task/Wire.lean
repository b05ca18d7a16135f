import Backlog.Gate.Class
import Backlog.Task.Record
import Backlog.Time.Timestamp
/-!
# The wire form of tasks

Tasks and keys travel as JSON objects, absent options as `null`. Identifiers, kinds, statuses and
instants are strings; a status or a class may also be read from an object whose one member bears
its name and holds `null`. Reading a record passes over members it does not know, and a missing
member reads as `null` where the field is optional.

A result that is JSON `null` has the same wire form as no result: reading gives back no result.
-/

namespace Backlog

namespace TaskId

/-- An identifier as JSON. -/
def toJson (id : TaskId) : Json := .str id.text

/-- The identifier a JSON string denotes; blanks are not trimmed. -/
def ofJson? (j : Json) : Option TaskId := j.str?.bind read?

end TaskId

namespace TaskKind

/-- A kind as JSON: its name. -/
def toJson (k : TaskKind) : Json := .str k.name

/-- The kind a JSON string names. -/
def ofJson? (j : Json) : Option TaskKind := j.str?.map ofName

end TaskKind

/-- The name an enumerated value is given by: a string, or the one member of an object that holds
`null`. -/
def Json.variant? : Json → Option String
  | .str s => some s
  | .obj [(s, .null)] => some s
  | _ => none

namespace Status

/-- A status as JSON: its name. -/
def toJson (s : Status) : Json := .str s.name

/-- The status a JSON value names. -/
def ofJson? (j : Json) : Option Status := j.variant?.bind ofName?

end Status

namespace ResourceClass

/-- A class as JSON: its name. -/
def toJson (c : ResourceClass) : Json := .str c.name

/-- The class a JSON value names. -/
def ofJson? (j : Json) : Option ResourceClass := j.variant?.bind ofName?

end ResourceClass

namespace Instant

/-- An instant as JSON: its timestamp. -/
def toJson (t : Instant) : Json := .str (Timestamp.text t)

/-- The instant a JSON string denotes. -/
def ofJson? (j : Json) : Option Instant := j.str?.bind Timestamp.read?

end Instant

namespace Task

/-- The names of a task's members. -/
def fieldNames : List String :=
  ["id", "owner_id", "type", "target_id", "content_fingerprint", "status", "created_by", "result",
    "error", "created_at", "updated_at"]

/-- A task as JSON. -/
def toJson (t : Task) : Json :=
  .obj
    [ ("id", t.id.toJson), ("owner_id", .str t.owner), ("type", t.kind.toJson),
      ("target_id", .str t.target), ("content_fingerprint", .orNull .str t.fingerprint),
      ("status", t.status.toJson), ("created_by", .str t.creator),
      ("result", .orNull (fun v => v) t.result), ("error", .orNull .str t.error),
      ("created_at", t.createdAt.toJson), ("updated_at", t.updatedAt.toJson) ]

/-- The task a JSON value denotes. -/
def ofJson? (j : Json) : Option Task := do
  let [id, owner, kind, target, fingerprint, status, creator, result, error, createdAt, updatedAt] ←
    j.fields? fieldNames | none
  some
    { id := ← Json.required? TaskId.ofJson? id
      owner := ← Json.required? Json.str? owner
      kind := ← Json.required? TaskKind.ofJson? kind
      target := ← Json.required? Json.str? target
      fingerprint := ← Json.optional? Json.str? fingerprint
      status := ← Json.required? Status.ofJson? status
      creator := ← Json.required? Json.str? creator
      result := ← Json.optional? some result
      error := ← Json.optional? Json.str? error
      createdAt := ← Json.required? Instant.ofJson? createdAt
      updatedAt := ← Json.required? Instant.ofJson? updatedAt }

end Task

namespace WorkKey

/-- A key as JSON. -/
def toJson (k : WorkKey) : Json :=
  .obj
    [ ("task_type", k.kind.toJson), ("owner_id", .str k.owner), ("target_id", .str k.target),
      ("fingerprint", .orNull .str k.fingerprint) ]

/-- The key a JSON value denotes. -/
def ofJson? (j : Json) : Option WorkKey := do
  let [kind, owner, target, fingerprint] ←
    j.fields? ["task_type", "owner_id", "target_id", "fingerprint"] | none
  some
    { kind := ← Json.required? TaskKind.ofJson? kind
      owner := ← Json.required? Json.str? owner
      target := ← Json.required? Json.str? target
      fingerprint := ← Json.optional? Json.str? fingerprint }

end WorkKey

end Backlog
