import Backlog.Database.Query
/-!
# Rows

A row that a database answers with is a list of named values, in which the columns may stand in any
order; of two columns with one name the last one counts. A row denotes a task if every column is
there and holds a value of its type, or `NULL` where there may be none, and the status has one of
the five names. Any other row is corrupt.
-/

namespace Backlog.Database

/-- A row: its columns with their values. -/
abbrev Row := List (String × Value)

/-- Why a row denotes no task. -/
inductive RowError where
  /-- A column is missing or holds no value of its type. -/
  | unreadable
  /-- The status has none of the five names. -/
  | unknownStatus (id : TaskId) (name : String)
  deriving DecidableEq, Repr

/-- What the user of the store is told. -/
def RowError.toStoreError : RowError → StoreError
  | unreadable => .corrupt "sqlx error in decode_task"
  | unknownStatus id name => .corrupt ("task " ++ id.text ++ ": " ++ (Status.unknown name).message)

namespace Row

/-- The value of a column, read by `f`. -/
def get? {α : Type} (r : Row) (c : Column) (f : Value → Option α) : Option α :=
  (r.reverse.find? fun e => e.1 == c.name).bind fun e => f e.2

/-- The columns of a row as a task whose status is still a text. -/
structure Fields where
  id : TaskId
  owner : String
  kind : String
  target : String
  fingerprint : Option String
  status : String
  creator : String
  result : Option Json
  error : Option String
  createdAt : Instant
  updatedAt : Instant

/-- The columns of a row, if every one can be read. -/
def fields? (r : Row) : Option Fields := do
  some
    { id := ← r.get? .id Value.uuid?
      owner := ← r.get? .owner Value.text?
      kind := ← r.get? .kind Value.text?
      target := ← r.get? .target Value.text?
      fingerprint := ← r.get? .fingerprint Value.optionalText?
      status := ← r.get? .status Value.text?
      creator := ← r.get? .creator Value.text?
      result := ← r.get? .result Value.optionalJson?
      error := ← r.get? .error Value.optionalText?
      createdAt := ← r.get? .createdAt Value.instant?
      updatedAt := ← r.get? .updatedAt Value.instant? }

/-- The task that columns denote. -/
def Fields.task (f : Fields) : Except RowError Task :=
  match Status.ofName? f.status with
  | none => .error (.unknownStatus f.id f.status)
  | some status =>
    .ok
      { id := f.id
        owner := f.owner
        kind := TaskKind.ofName f.kind
        target := f.target
        fingerprint := f.fingerprint
        status := status
        creator := f.creator
        result := f.result
        error := f.error
        createdAt := f.createdAt
        updatedAt := f.updatedAt }

/-- The task that a row denotes. -/
def task (r : Row) : Except RowError Task :=
  match r.fields? with
  | none => .error .unreadable
  | some f => f.task

/-- The row of a task. -/
def ofTask (t : Task) : Row := (Column.all.map Column.name).zip (taskValues t)

end Row

end Backlog.Database
