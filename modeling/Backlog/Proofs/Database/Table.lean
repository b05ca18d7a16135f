import Backlog.Database.Server
/-!
# What the statements mean

The statements of the store are data, and this module says what a server does with them.  A record
has a value in each column, the table is a list of records, and a condition is true, false or
unknown in a record: a comparison with `NULL` is unknown, and only records in which every condition
is true are selected or changed.

Nothing here knows about tasks.  The columns, their types, which of them can be `NULL` and what the
unique indexes say are read from the schema, so that the rules the table enforces are those that
`Schema.text` declares.  Parameters are checked before a statement is executed; the rules of the
table are checked on the table that a statement would leave, and a statement that breaks one leaves
the table as it was.

A table has no order of its own.  The order of the list is the one in which the server happens to
come across its records, and whoever reasons about a statement has to do so for every order.

## Main results

* `Truth.or_eq_true`, `Truth.any_eq_true` — when a disjunction is true.
* `Condition.holds_iff` — a condition holds if it is neither false nor unknown.
-/

namespace Backlog.Database

/-- One row of the table: the value in each column. -/
abbrev Record := Column → Value

/-- The rows of the table, in the order in which the server comes across them. -/
abbrev Table := List Record

/-! ## Truth -/

/-- A truth value; `none` is "unknown". -/
abbrev Truth := Option Bool

namespace Truth

/-- A disjunction is true if one side is, and false only if both are. -/
def or : Truth → Truth → Truth
  | some true, _ | _, some true => some true
  | some false, some false => some false
  | _, _ => none

/-- The disjunction of some truth values. -/
def any (ts : List Truth) : Truth := ts.foldr or (some false)

@[simp] theorem or_eq_true {p q : Truth} :
    p.or q = some true ↔ p = some true ∨ q = some true := by
  rcases p with _ | (_ | _) <;> rcases q with _ | (_ | _) <;> decide

@[simp] theorem any_eq_true {ts : List Truth} : any ts = some true ↔ some true ∈ ts := by
  induction ts with
  | nil => decide
  | cons t ts ih =>
      show (t.or (any ts)) = some true ↔ _
      rw [or_eq_true, ih, List.mem_cons, eq_comm]

end Truth

/-! ## Values -/

/-- Whether a text has the character U+0000, which no text of a database has. -/
def hasNul (s : String) : Bool := s.toList.contains (Char.ofNat 0)

mutual

/-- Whether a text somewhere in a JSON value has the character U+0000. -/
def jsonHasNul : Json → Bool
  | .str s => hasNul s
  | .arr items => itemsHaveNul items
  | .obj members => membersHaveNul members
  | _ => false

/-- The same for the items of an array. -/
def itemsHaveNul : List Json → Bool
  | [] => false
  | j :: js => jsonHasNul j || itemsHaveNul js

/-- The same for the members of an object, their names included. -/
def membersHaveNul : List (String × Json) → Bool
  | [] => false
  | (name, j) :: ms => hasNul name || jsonHasNul j || membersHaveNul ms

end

/-- The first moment a database can keep, at the start of the year 4713 before Christ. -/
def firstTime : Int := -211813488000000000

/-- The first moment that is too late for a database, at the start of the year 294277. -/
def endTime : Int := 9223371331200000000

/-- The code for a text with the character U+0000. -/
def invalidText : String := "22021"

/-- The code for JSON with the character U+0000. -/
def invalidJson : String := "22P05"

/-- The code for a moment that a database cannot keep. -/
def timeOverflow : String := "22008"

/-- The code for `NULL` where there may be none. -/
def notNullViolation : String := "23502"

/-- The code for a row that fails the check of its table. -/
def checkViolation : String := "23514"

/-- The code for a value of another type than its column. -/
def typeMismatch : String := "42804"

namespace Value

/-- The code with which the server refuses a parameter, if it does. -/
def refusal? : Value → Option String
  | text s => if hasNul s then some invalidText else none
  | texts ss => if ss.any hasNul then some invalidText else none
  | json j => if jsonHasNul j then some invalidJson else none
  | time n => if firstTime ≤ n ∧ n < endTime then none else some timeOverflow
  | _ => none

/-- Whether two values are equal, unknown if one is `NULL` or they cannot be compared. -/
def equal? : Value → Value → Truth
  | uuid a, uuid b => some (a == b)
  | text a, text b => some (a == b)
  | time a, time b => some (a == b)
  | integer a, integer b => some (a == b)
  | _, _ => none

/-- Whether a value is less than another, unknown if one is `NULL` or they have no order here. -/
def less? : Value → Value → Truth
  | uuid a, uuid b => some (a < b)
  | time a, time b => some (a < b)
  | integer a, integer b => some (a < b)
  | _, _ => none

/-- Whether a value is `NULL`. -/
def isNull : Value → Bool
  | null => true
  | _ => false

/-- Whether a value that is not `NULL` has a type. -/
def hasType : Value → ColumnType → Bool
  | uuid _, .uuid | text _, .text | json _, .jsonb | time _, .timestamptz => true
  | _, _ => false

@[simp] theorem equal?_text (a b : String) : (text a).equal? (text b) = some (a == b) := rfl

@[simp] theorem equal?_time (a b : Int) : (time a).equal? (time b) = some (a == b) := rfl

@[simp] theorem equal?_null (v : Value) : v.equal? null = none := by cases v <;> rfl

@[simp] theorem null_equal? (v : Value) : null.equal? v = none := rfl

@[simp] theorem less?_uuid (a b : TaskId) : (uuid a).less? (uuid b) = some (decide (a < b)) := rfl

@[simp] theorem less?_time (a b : Int) : (time a).less? (time b) = some (decide (a < b)) := rfl

end Value

/-! ## Terms and conditions -/

/-- The value of a term in a record, under some parameters. -/
def Term.value (r : Record) (ps : List Value) : Term → Value
  | column c => r c
  | param n | textParam n => (ps[n - 1]?).getD .null
  | word s => .text s
  | null => .null

namespace Condition

/-- Whether a condition is true in a record, under some parameters. -/
def truth (r : Record) (ps : List Value) : Condition → Truth
  | equal a b => (a.value r ps).equal? (b.value r ps)
  | less a b => (a.value r ps).less? (b.value r ps)
  | isNull a => some (a.value r ps).isNull
  | oneOf a bs => .any (bs.map fun b => (a.value r ps).equal? (b.value r ps))
  | memberOf a n =>
    match (Term.param n).value r ps with
    | .texts ss => .any (ss.map fun s => (a.value r ps).equal? (.text s))
    | _ => none
  | or p q => (p.truth r ps).or (q.truth r ps)

/-- Whether a condition is true, neither false nor unknown. -/
def holds (r : Record) (ps : List Value) (p : Condition) : Bool := p.truth r ps == some true

/-- Whether every condition is true. -/
def allHold (ps : List Value) (wheres : List Condition) (r : Record) : Bool :=
  wheres.all (holds r ps)

theorem holds_iff {r : Record} {ps : List Value} {p : Condition} :
    p.holds r ps = true ↔ p.truth r ps = some true := by
  rw [holds, beq_iff_eq]

end Condition

/-! ## Records -/

namespace Record

/-- The record with these values, given in the order of the columns. -/
def ofValues (vs : List Value) : Record := fun c => ((Column.all.zip vs).lookup c).getD .null

/-- The record after an assignment; the terms are evaluated in the record before it. -/
def assign (r : Record) (ps : List Value) (sets : List (Column × Term)) : Record := fun c =>
  match sets.lookup c with
  | some e => e.value r ps
  | none => r c

/-- The row in which a record is answered. -/
def row (r : Record) : Row := Column.all.map fun c => (c.name, r c)

/-- Whether a record comes before another: by the first column, on equal values by the next. -/
def precedes (a b : Record) : List Column → Bool
  | [] => false
  | c :: cs =>
    (a c).less? (b c) == some true || ((a c).equal? (b c) == some true && precedes a b cs)

end Record

/-- The records that a limit lets through; `NULL` is no limit. -/
def Limit.cut (ps : List Value) (rows : Table) : Limit → Table
  | count n => rows.take n
  | param n =>
    match (Term.param n).value (fun _ => .null) ps with
    | .integer k => rows.take k.toNat
    | _ => rows

/-! ## The rules of the table -/

/-- The code of the rule that a value breaks in a column, if it breaks one. -/
def Column.breach? (c : Column) (v : Value) : Option String :=
  if v.isNull then if c.isNullable then none else some notNullViolation
  else if v.hasType c.type then none else some typeMismatch

/-- The code of the rule that a record breaks by itself. -/
def Record.breach? (r : Record) : Option String :=
  (Column.all.findSome? fun c => c.breach? (r c)).or
    (if (Condition.hasStatusIn Status.all).truth r [] = some false then some checkViolation
      else none)

/-- The value of a part of a key. -/
def KeyPart.value (r : Record) : KeyPart → Value
  | column c => r c
  | orEmpty c => if (r c).isNull then .text "" else r c

namespace Index

/-- Whether a record is in the index. -/
def covers (i : Index) (r : Record) : Bool := i.scope.all fun p => p.holds r []

/-- Whether two records have one key in the index. -/
def collides (i : Index) (a b : Record) : Bool :=
  i.covers a && i.covers b && i.key.all fun k => (k.value a).equal? (k.value b) == some true

/-- Whether no two records have one key in the index. -/
def isKept (i : Index) (rows : Table) : Bool :=
  decide (rows.Pairwise fun a b => i.collides a b = false)

end Index

/-- The index behind the primary key. -/
def primaryKey : Index where
  name := tableName ++ "_pkey"
  isUnique := true
  key := [.column .id]
  scope := none

/-- The indexes that allow a key only once. -/
def uniqueIndexes : List Index :=
  [primaryKey, Schema.queuedIndex, Schema.processingIndex, Schema.ownerIndex,
    Schema.inFlightIndex].filter Index.isUnique

/-- The code of the rule that a table breaks. -/
def Table.breach? (rows : Table) : Option String :=
  (rows.findSome? Record.breach?).or
    (if uniqueIndexes.all fun i => i.isKept rows then none else some uniqueViolation)

/-! ## Statements -/

/-- The reply to a statement that breaks a rule or has a parameter that the server refuses. -/
def refusal (code : String) : Reply := .failed code ("refused with " ++ code)

namespace Table

/-- The table that a statement leaves, unless it breaks a rule. -/
def settle (rows after : Table) (changed : Nat) : Table × Reply :=
  match after.breach? with
  | some code => (rows, refusal code)
  | none => (after, .done [] changed)

/-- The records that a selection answers with. -/
def answer (rows : Table) (ps : List Value) (wheres : List Condition) :
    Option Limit → Table
  | none => rows.filter (Condition.allHold ps wheres)
  | some limit =>
    limit.cut ps <| (rows.filter (Condition.allHold ps wheres)).mergeSort
      fun a b => !b.precedes a Statement.queueOrder

/-- The table after a statement, and the reply. -/
def execute (rows : Table) (ps : List Value) : Statement → Table × Reply
  | .insert => rows.settle (rows ++ [Record.ofValues ps]) 1
  | .select wheres limit => (rows, .done ((rows.answer ps wheres limit).map Record.row) 0)
  | .update sets wheres =>
    rows.settle
      (rows.map fun r => if Condition.allHold ps wheres r then r.assign ps sets else r)
      (rows.countP (Condition.allHold ps wheres))

/-- The table after a query, and the reply. -/
def serve (rows : Table) (q : Query) : Table × Reply :=
  match q.params.findSome? Value.refusal? with
  | some code => (rows, refusal code)
  | none => rows.execute q.params q.statement

/-- The table after a store call at an instant, and what the user of the store is told. -/
def exec (rows : Table) (now : Instant) (c : StoreCall) : Table × c.Reply :=
  let (after, reply) := rows.serve (Query.ofCall now c)
  (after, (ask .reachable reply now c).2)

end Table

end Backlog.Database
