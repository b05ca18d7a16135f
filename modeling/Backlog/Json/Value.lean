/-!
# JSON values

Results of tasks, stored records and settings are JSON. A whole number that fits 64 bits, signed
or not, is an integer; every other number keeps the decimal digits it was written with and the
power of ten they stand under, so that no digit is lost between reading and writing. An object is
its list of members in order.

The members of an object are read through `Json.fields?`, which also knows the second form a
record may take, an array of its fields in the order of their declaration.
-/

namespace Backlog

/-- A JSON value. `scaled negative digits exponent` is `± digits * 10 ^ exponent`. -/
inductive Json where
  | null
  | bool (value : Bool)
  | int (value : Int)
  | scaled (negative : Bool) (digits : Nat) (exponent : Int)
  | str (value : String)
  | arr (items : List Json)
  | obj (members : List (String × Json))
  deriving Repr, Inhabited

namespace Json

/-- A whole number. -/
def nat (n : Nat) : Json := .int n

/-- A list of values, each written by `f`. -/
def list {α : Type} (f : α → Json) (xs : List α) : Json := .arr (xs.map f)

/-- A value, or `null` for none. -/
def orNull {α : Type} (f : α → Json) : Option α → Json
  | none => .null
  | some a => f a

/-- The first member of an object with this name. -/
def get? (name : String) : Json → Option Json
  | .obj members => (members.find? fun m => m.1 == name).map (·.2)
  | _ => none

/-- The text of a string. -/
def str? : Json → Option String
  | .str s => some s
  | _ => none

/-- An integer from 0 to `limit`. -/
def natUpTo? (limit : Nat) : Json → Option Nat
  | .int n => if 0 ≤ n && n ≤ limit then some n.toNat else none
  | _ => none

/-- An unsigned 64-bit number. -/
def word? (j : Json) : Option Nat := j.natUpTo? 18446744073709551615

/-- The truth value of a boolean. -/
def bool? : Json → Option Bool
  | .bool b => some b
  | _ => none

/-- An integer. -/
def int? : Json → Option Int
  | .int n => some n
  | _ => none

/-- The items of an array, each read by `f`. -/
def list? {α : Type} (f : Json → Option α) : Json → Option (List α)
  | .arr items => items.mapM f
  | _ => none

/-- An optional value, `null` for none. -/
def orNull? {α : Type} (f : Json → Option α) : Json → Option (Option α)
  | .null => some none
  | j => (f j).map some

/-- How often an object's members bear a name. -/
def occurrences (name : String) (members : List (String × Json)) : Nat :=
  members.countP fun m => m.1 == name

/-- The fields of a record with these names, in their order; a field that is missing is `none`.
A name may not occur twice, members of other names are passed over, and an array stands for a
record when it has one item for each name. -/
def fields? (names : List String) : Json → Option (List (Option Json))
  | .obj members =>
    if names.all fun n => occurrences n members ≤ 1 then
      some (names.map fun n => (members.find? fun m => m.1 == n).map (·.2))
    else none
  | .arr items => if items.length == names.length then some (items.map some) else none
  | _ => none

/-- A field that has to be there. -/
def required? {α : Type} (f : Json → Option α) (field : Option Json) : Option α := field.bind f

/-- A field that may be missing or `null`. -/
def optional? {α : Type} (f : Json → Option α) : Option Json → Option (Option α)
  | none => some none
  | some j => j.orNull? f

end Json

end Backlog
