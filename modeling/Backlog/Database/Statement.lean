import Backlog.Task.Status
import Backlog.Text.Decimal
/-!
# Statements

The SQL that the store of tasks uses, as data: which rows a statement is about, what it changes,
and in which order it answers. `Statement.text` writes it. Conditions stand in a list and must all
hold.
-/

namespace Backlog.Database

open Text

/-- A column of the table of tasks. -/
inductive Column where
  | id
  | owner
  | kind
  | target
  | fingerprint
  | status
  | creator
  | result
  | error
  | createdAt
  | updatedAt
  deriving DecidableEq, Repr

namespace Column

/-- Every column, in the order in which rows are written and read. -/
def all : List Column :=
  [id, owner, kind, target, fingerprint, status, creator, result, error, createdAt, updatedAt]

/-- The name of a column. -/
def name : Column → String
  | id => "id"
  | owner => "owner_id"
  | kind => "type"
  | target => "target_id"
  | fingerprint => "content_fingerprint"
  | status => "status"
  | creator => "created_by"
  | result => "result_json"
  | error => "error"
  | createdAt => "created_at"
  | updatedAt => "updated_at"

/-- The names of some columns, separated by commas. -/
def list (cs : List Column) : String := ", ".intercalate (cs.map name)

end Column

/-- The name of the table. -/
def tableName : String := "tasks"

/-- A term that has a value in each row. -/
inductive Term where
  | column (c : Column)
  /-- The parameter of a number, counted from 1. -/
  | param (n : Nat)
  /-- The same, said to be a text. -/
  | textParam (n : Nat)
  | word (s : String)
  | null
  deriving DecidableEq, Repr

namespace Term

/-- A term as text. -/
def text : Term → String
  | column c => c.name
  | param n => "$" ++ decimalText n
  | textParam n => "$" ++ decimalText n ++ "::text"
  | word s => "'" ++ s ++ "'"
  | null => "NULL"

end Term

/-- A condition on rows. -/
inductive Condition where
  | equal (a b : Term)
  | less (a b : Term)
  | isNull (a : Term)
  /-- The first term equals one of the others. -/
  | oneOf (a : Term) (bs : List Term)
  /-- The term equals a member of the list that a parameter holds. -/
  | memberOf (a : Term) (n : Nat)
  | or (p q : Condition)
  deriving Repr

namespace Condition

/-- A condition as text. -/
def text : Condition → String
  | equal a b => a.text ++ " = " ++ b.text
  | less a b => a.text ++ " < " ++ b.text
  | isNull a => a.text ++ " IS NULL"
  | oneOf a bs => a.text ++ " IN (" ++ ", ".intercalate (bs.map Term.text) ++ ")"
  | memberOf a n => a.text ++ " = ANY(" ++ (Term.param n).text ++ ")"
  | or p q => "(" ++ p.text ++ " OR " ++ q.text ++ ")"

/-- A column equals a parameter. -/
def matchesParam (c : Column) (n : Nat) : Condition := .equal (.column c) (.param n)

/-- A column equals a parameter, if that is given. -/
def matchesIfGiven (c : Column) (n : Nat) : Condition :=
  .or (.isNull (.textParam n)) (matchesParam c n)

/-- The status is this one. -/
def hasStatus (s : Status) : Condition := .equal (.column .status) (.word s.name)

/-- The status is one of these. -/
def hasStatusIn (ss : List Status) : Condition :=
  .oneOf (.column .status) (ss.map fun s => .word s.name)

/-- The task is in flight. -/
def isActive : Condition := hasStatusIn Status.activeOnes

/-- Conditions that must all hold, as text. -/
def allText (ps : List Condition) : String := " AND ".intercalate (ps.map text)

end Condition

/-- How many rows a statement answers with at most. -/
inductive Limit where
  | count (n : Nat)
  /-- As many as a parameter says. -/
  | param (n : Nat)
  deriving DecidableEq, Repr

/-- A limit as text. -/
def Limit.text : Limit → String
  | count n => decimalText n
  | param n => (Term.param n).text

/-- What a statement does. -/
inductive Statement where
  /-- Add a row, its values given by parameters in the order of the columns. -/
  | insert
  /-- The rows under some conditions; in the order of the queue and at most so many, if a limit is
  given. -/
  | select (wheres : List Condition) (limit : Option Limit)
  /-- Change the rows under some conditions. -/
  | update (sets : List (Column × Term)) (wheres : List Condition)
  deriving Repr

namespace Statement

/-- The order of the queue: by the time of creation, and by identifier at one time. -/
def queueOrder : List Column := [.createdAt, .id]

/-- A statement as text. -/
def text : Statement → String
  | insert =>
    let values := (List.range Column.all.length).map fun n => (Term.param (n + 1)).text
    "INSERT INTO " ++ tableName ++ " ( " ++ Column.list Column.all ++ " ) VALUES (" ++
      ", ".intercalate values ++ ")"
  | select wheres limit =>
    let tail := match limit with
      | none => ""
      | some l =>
        " ORDER BY " ++ ", ".intercalate (queueOrder.map fun c => c.name ++ " ASC") ++
          " LIMIT " ++ l.text
    "SELECT " ++ Column.list Column.all ++ " FROM " ++ tableName ++ " WHERE " ++
      Condition.allText wheres ++ tail
  | update sets wheres =>
    let assignments := sets.map fun s => s.1.name ++ " = " ++ s.2.text
    "UPDATE " ++ tableName ++ " SET " ++ ", ".intercalate assignments ++ " WHERE " ++
      Condition.allText wheres

end Statement

end Backlog.Database
