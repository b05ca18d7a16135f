import Backlog.Database.Statement
/-!
# The schema

The table of tasks and its indexes. Two rules of the table matter to the tasks in it: the
identifier is the primary key, and among the tasks in flight no two rows agree on kind, owner,
target and fingerprint, where a missing fingerprint counts as the empty text.

Creating what is there already does nothing, so the schema can be applied at every start.
-/

namespace Backlog.Database

/-- The type of a column. -/
inductive ColumnType where
  | uuid
  | text
  | jsonb
  | timestamptz
  deriving DecidableEq, Repr

/-- The name of a column type. -/
def ColumnType.name : ColumnType → String
  | uuid => "UUID"
  | text => "TEXT"
  | jsonb => "JSONB"
  | timestamptz => "TIMESTAMPTZ"

namespace Column

/-- The type of a column. -/
def type : Column → ColumnType
  | id => .uuid
  | result => .jsonb
  | createdAt | updatedAt => .timestamptz
  | _ => .text

/-- Whether a column can be `NULL`. -/
def isNullable : Column → Bool
  | fingerprint | result | error => true
  | _ => false

/-- What the table promises about a column besides its type. -/
def promise : Column → String
  | id => " PRIMARY KEY"
  | status => " NOT NULL CHECK (" ++ (Condition.hasStatusIn Status.all).text ++ ")"
  | createdAt | updatedAt => " NOT NULL DEFAULT NOW()"
  | c => if c.isNullable then "" else " NOT NULL"

/-- The definition of a column. -/
def definition (c : Column) : String := c.name ++ " " ++ c.type.name ++ c.promise

end Column

/-- A part of the key of an index. -/
inductive KeyPart where
  | column (c : Column)
  /-- A column, the empty text standing for `NULL`. -/
  | orEmpty (c : Column)
  deriving DecidableEq, Repr

/-- A part of a key as text. -/
def KeyPart.text : KeyPart → String
  | column c => c.name
  | orEmpty c => "COALESCE(" ++ c.name ++ ", '')"

/-- An index over the rows under a condition. -/
structure Index where
  name : String
  /-- Whether no two of its rows may have one key. -/
  isUnique : Bool
  key : List KeyPart
  scope : Option Condition
  deriving Repr

/-- The statement that makes an index. -/
def Index.text (i : Index) : String :=
  let scope := match i.scope with
    | none => ""
    | some p => " WHERE " ++ p.text
  "CREATE " ++ (if i.isUnique then "UNIQUE " else "") ++ "INDEX IF NOT EXISTS " ++ i.name ++
    " ON " ++ tableName ++ " (" ++ ", ".intercalate (i.key.map KeyPart.text) ++ ")" ++ scope ++ ";"

namespace Schema

/-- The index under which the queue is read. -/
def queuedIndex : Index where
  name := "idx_tasks_queued"
  isUnique := false
  key := [.column .createdAt, .column .id]
  scope := some (.hasStatus .queued)

/-- The index under which stuck tasks are found. -/
def processingIndex : Index where
  name := "idx_tasks_processing_updated"
  isUnique := false
  key := [.column .updatedAt]
  scope := some (.hasStatus .processing)

/-- The index under which an owner's tasks are listed. -/
def ownerIndex : Index where
  name := "idx_tasks_owner_created"
  isUnique := false
  key := [.column .owner, .column .createdAt, .column .id]
  scope := none

/-- The index that keeps the work in flight apart. -/
def inFlightIndex : Index where
  name := "uq_tasks_in_flight_key"
  isUnique := true
  key := [.column .kind, .column .owner, .column .target, .orEmpty .fingerprint]
  scope := some .isActive

/-- The statement that makes the table. -/
def tableText : String :=
  "CREATE TABLE IF NOT EXISTS " ++ tableName ++ " ( " ++
    ", ".intercalate (Column.all.map Column.definition) ++ " );"

/-- The statements that make the table and its indexes. -/
def text : String :=
  " ".intercalate
    (tableText :: [queuedIndex, processingIndex, ownerIndex, inFlightIndex].map Index.text)

end Schema

end Backlog.Database
