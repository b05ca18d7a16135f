import Backlog.Proofs.Database.Table
import Backlog.Proofs.Distinct
import Mathlib.Data.List.Forall2
/-!
# Reading rows

A task is written as eleven values without names, next to a list of columns, and a row is read by
the names of its columns.  Five of the values are texts that could be swapped without anyone
noticing, so what is read has to be compared with what was written, value by value: a row `Denotes`
a task if it holds the value of each field under the name of that field.  Which columns can be read
at all (`Row.IsReadable`) is what the schema says of them: those that hold a value of their type, or
`NULL` where there may be one.

A database does not keep an instant as it is, and no other value is changed.  So the way of an
instant is a parameter (`TimeCodec`): what is said of every such way holds of whole microseconds,
by which instants are in fact carried (`TimeCodec.task_micros`), and of a way that loses nothing.

Rows are read one by one and in order, and the first that denotes no task ends it.  Nothing is left
out of a list that is read.

## Main results

* `Row.value?_eq_some_iff`, `Row.holds_of_subset` — the value that counts under a name.
* `TimeCodec.task_eq_ok_iff` — a row is read as the task that it denotes.
* `TimeCodec.task_of_holds` — a row that holds the values of a task is read as that task.
* `exists_fields?_iff`, `reading` — which rows are read, and why the others are not.
* `mapM_eq_ok_iff`, `mapM_eq_error_iff` — reading a list one by one.
-/

namespace Backlog

/-! ## Lists that are read one by one -/

section Reading

variable {α β ε : Type} {f : α → Except ε β}

theorem mapM_cons_of_error {x : α} {e : ε} (h : f x = .error e) (xs : List α) :
    (x :: xs).mapM f = .error e := by
  rw [List.mapM_cons, h]
  rfl

theorem mapM_cons_of_ok {x : α} {y : β} (h : f x = .ok y) (xs : List α) :
    (x :: xs).mapM f = (xs.mapM f).map (y :: ·) := by
  rw [List.mapM_cons, h]
  cases xs.mapM f <;> rfl

/-- A list is read as another if each member is read as the one at its place. -/
theorem mapM_eq_ok_iff {xs : List α} {ys : List β} :
    xs.mapM f = .ok ys ↔ List.Forall₂ (fun x y => f x = .ok y) xs ys := by
  induction xs generalizing ys with
  | nil => cases ys <;> simp [pure, Except.pure]
  | cons x xs ih =>
      rw [List.forall₂_cons_left_iff]
      cases hx : f x with
      | error e =>
          rw [mapM_cons_of_error hx]
          simp
      | ok y =>
          rw [mapM_cons_of_ok hx]
          cases hxs : xs.mapM f with
          | error e =>
              have hnone : ∀ ys, ¬ List.Forall₂ (fun x y => f x = .ok y) xs ys := by
                intro ys h
                rw [← ih, hxs] at h
                cases h
              simp [Except.map, hnone]
          | ok zs =>
              have hsome : ∀ ys, List.Forall₂ (fun x y => f x = .ok y) xs ys ↔ zs = ys := by
                intro ys
                rw [← ih, hxs, Except.ok.injEq]
              simp [Except.map, hsome, eq_comm]

/-- In a list that is read every member is. -/
theorem ok_of_mapM_eq_ok {xs : List α} {ys : List β} (h : xs.mapM f = .ok ys) :
    ∀ x ∈ xs, ∃ y, f x = .ok y := by
  have hboth : List.Forall₂ (fun x y => (∃ y, f x = .ok y) ∧ f x = .ok y) xs ys :=
    (mapM_eq_ok_iff.1 h).imp fun x y hy => ⟨⟨y, hy⟩, hy⟩
  exact ((List.forall₂_and_left xs ys).1 hboth).1

/-- The first member that is not read ends it. -/
theorem mapM_append_cons_of_error {before after : List α} {x : α} {e : ε}
    (hbefore : ∀ y ∈ before, ∃ b, f y = .ok b) (hx : f x = .error e) :
    (before ++ x :: after).mapM f = .error e := by
  induction before with
  | nil => exact mapM_cons_of_error hx after
  | cons y before ih =>
      obtain ⟨b, hb⟩ := hbefore y List.mem_cons_self
      have hrest := ih fun z hz => hbefore z (List.mem_cons_of_mem y hz)
      rw [List.cons_append, mapM_cons_of_ok hb, hrest]
      rfl

theorem exists_first_error {xs : List α} {e : ε} (h : xs.mapM f = .error e) :
    ∃ before x after, xs = before ++ x :: after ∧
      (∀ y ∈ before, ∃ b, f y = .ok b) ∧ f x = .error e := by
  induction xs with
  | nil => cases h
  | cons x xs ih =>
      cases hx : f x with
      | error e' =>
          rw [mapM_cons_of_error hx] at h
          obtain rfl := Except.error.inj h
          exact ⟨[], x, xs, rfl, by simp, hx⟩
      | ok y =>
          have hxs : xs.mapM f = .error e := by
            rw [mapM_cons_of_ok hx] at h
            cases hxs : xs.mapM f with
            | ok ys =>
                rw [hxs] at h
                cases h
            | error e' =>
                rw [hxs] at h
                exact congrArg Except.error (Except.error.inj h)
          obtain ⟨before, x', after, rfl, hbefore, hx'⟩ := ih hxs
          exact ⟨x :: before, x', after, rfl, List.forall_mem_cons.2 ⟨⟨y, hx⟩, hbefore⟩, hx'⟩

/-- A list is not read because of the first member that is not. -/
theorem mapM_eq_error_iff {xs : List α} {e : ε} :
    xs.mapM f = .error e ↔ ∃ before x after, xs = before ++ x :: after ∧
      (∀ y ∈ before, ∃ b, f y = .ok b) ∧ f x = .error e := by
  constructor
  · exact exists_first_error
  · rintro ⟨before, x, after, rfl, hbefore, hx⟩
    exact mapM_append_cons_of_error hbefore hx

end Reading

namespace Database

variable {r : Row} {c : Column} {name : String} {v : Value} {t : Task}

/-! ## Values in rows -/

namespace Value

theorem uuid?_eq_some_iff {id : TaskId} : v.uuid? = some id ↔ v = .uuid id := by
  cases v <;> simp [uuid?]

theorem text?_eq_some_iff {s : String} : v.text? = some s ↔ v = .text s := by
  cases v <;> simp [text?]

theorem optionalText?_eq_some_iff {s : Option String} :
    v.optionalText? = some s ↔ v = .textOrNull s := by
  cases v <;> cases s <;> simp [optionalText?, textOrNull]

theorem optionalJson?_eq_some_iff {j : Option Json} :
    v.optionalJson? = some j ↔ v = .jsonOrNull j := by
  cases v <;> cases j <;> simp [optionalJson?, jsonOrNull]

/-- Whether a moment in the value is one of the calendar. -/
def isInCalendar : Value → Bool
  | time n => (Instant.ofMicros? n).isSome
  | _ => true

end Value

/-- Whether a value can be read in a column: it has the type of the column and lies in the calendar,
or it is `NULL` where there may be one. -/
def Column.reads (c : Column) (v : Value) : Bool :=
  if v.isNull then c.isNullable else v.hasType c.type && v.isInCalendar

namespace Row

/-- The value under a name; of several ones the last. -/
def value? (r : Row) (name : String) : Option Value :=
  (r.reverse.find? fun e => e.1 == name).map Prod.snd

/-- The value under a name is the last one with that name. -/
theorem value?_eq_some_iff : r.value? name = some v ↔
    ∃ before after, r = before ++ (name, v) :: after ∧ ∀ e ∈ after, e.1 ≠ name :=
  find?_reverse_key_iff

theorem get?_eq_bind {α : Type} (r : Row) (c : Column) (f : Value → Option α) :
    r.get? c f = (r.value? c.name).bind f := by
  rw [get?, value?, Option.bind_map]
  rfl

theorem get?_eq_some_iff {α : Type} {f : Value → Option α} {a : α} :
    r.get? c f = some a ↔ ∃ v, r.value? c.name = some v ∧ f v = some a := by
  rw [get?_eq_bind, Option.bind_eq_some_iff]

/-- The row has some values under some names, one by one. -/
def Holds (r : Row) (names : List String) (vs : List Value) : Prop :=
  List.Forall₂ (fun name v => r.value? name = some v) names vs

/-- Where no two columns have one name, every value of the row is the one under its name. -/
theorem value?_of_mem (hnames : (r.map Prod.fst).Nodup) (h : (name, v) ∈ r) :
    r.value? name = some v := by
  obtain ⟨before, after, rfl⟩ := List.append_of_mem h
  refine value?_eq_some_iff.2 ⟨before, after, rfl, fun e he heq => ?_⟩
  rw [List.map_append, List.map_cons] at hnames
  have hbehind : name ∉ after.map Prod.fst :=
    (List.nodup_cons.1 (List.nodup_append.1 hnames).2.1).1
  exact hbehind (List.mem_map.2 ⟨e, he, heq⟩)

/-- A row has values under names that are among its columns, wherever they stand in it. -/
theorem holds_of_subset {names : List String} {vs : List Value} (hnames : (r.map Prod.fst).Nodup)
    (hlength : names.length = vs.length) (h : names.zip vs ⊆ r) : r.Holds names vs :=
  List.forall₂_iff_zip.2 ⟨hlength, fun hmem => value?_of_mem hnames (h hmem)⟩

/-- Whether a column is there and holds a value that can be read. -/
def IsReadable (r : Row) (c : Column) : Prop := ∃ v, r.value? c.name = some v ∧ c.reads v = true

/-- A column is readable exactly if its reader gets something. -/
theorem exists_get?_iff {α : Type} {f : Value → Option α}
    (hf : ∀ v, (f v).isSome = c.reads v) : (∃ a, r.get? c f = some a) ↔ r.IsReadable c := by
  simp only [get?_eq_some_iff, IsReadable, ← hf, Option.isSome_iff_exists]
  constructor
  · rintro ⟨a, v, hv, ha⟩
    exact ⟨v, hv, a, ha⟩
  · rintro ⟨v, hv, a, ha⟩
    exact ⟨a, v, hv, ha⟩

end Row

/-! ## The way of an instant -/

/-- How a database carries instants. -/
structure TimeCodec where
  write : Instant → Value
  read? : Value → Option Instant

namespace TimeCodec

/-- Instants are carried as whole microseconds. -/
def micros : TimeCodec := ⟨Value.ofInstant, Value.instant?⟩

/-- No instant is changed on the way. -/
def IsExact (k : TimeCodec) : Prop := ∀ t, k.read? (k.write t) = some t

variable (k : TimeCodec)

/-- The values of a task, in the order of the columns. -/
def values (t : Task) : List Value :=
  [ .uuid t.id, .text t.owner, .text t.kind.name, .text t.target, .textOrNull t.fingerprint,
    .text t.status.name, .text t.creator, .jsonOrNull t.result, .textOrNull t.error,
    k.write t.createdAt, k.write t.updatedAt ]

/-- The columns of a row, if every one can be read. -/
def fields? (r : Row) : Option Row.Fields := do
  some
    { id := ← r.get? .id Value.uuid?
      owner := ← r.get? .owner Value.text?
      kind := ← r.get? .kind Value.text?
      target := ← r.get? .target Value.text?
      fingerprint := ← r.get? .fingerprint Value.optionalText?
      status := ← r.get? .status Value.text?
      creator := ← r.get? .creator Value.text?
      result := ← r.get? .result Value.optionalJson?
      error := ← r.get? .error Value.optionalText?
      createdAt := ← r.get? .createdAt k.read?
      updatedAt := ← r.get? .updatedAt k.read? }

/-- The task that a row denotes, for the user of the store. -/
def task (r : Row) : Except StoreError Task :=
  match k.fields? r with
  | none => .error RowError.unreadable.toStoreError
  | some f =>
    match f.task with
    | .ok t => .ok t
    | .error e => .error e.toStoreError

/-- An insert writes whole microseconds. -/
theorem params_insert (now : Instant) (t : Task) :
    (Query.ofCall now (.insert t)).params = micros.values t := rfl

/-- Whole microseconds are read. -/
theorem task_micros (r : Row) : micros.task r = readTask r := by
  have hfields : micros.fields? r = r.fields? := rfl
  rw [task, readTask, Row.task, hfields]
  cases r.fields? <;> rfl

/-! ## What a row denotes -/

/-- The row holds the value of each field of the task under the name of that field. -/
structure Denotes (k : TimeCodec) (r : Row) (t : Task) : Prop where
  id : r.value? "id" = some (.uuid t.id)
  owner : r.value? "owner_id" = some (.text t.owner)
  kind : ∃ s, r.value? "type" = some (.text s) ∧ t.kind = .ofName s
  target : r.value? "target_id" = some (.text t.target)
  fingerprint : r.value? "content_fingerprint" = some (.textOrNull t.fingerprint)
  status : r.value? "status" = some (.text t.status.name)
  creator : r.value? "created_by" = some (.text t.creator)
  result : r.value? "result_json" = some (.jsonOrNull t.result)
  error : r.value? "error" = some (.textOrNull t.error)
  createdAt : ∃ v, r.value? "created_at" = some v ∧ k.read? v = some t.createdAt
  updatedAt : ∃ v, r.value? "updated_at" = some v ∧ k.read? v = some t.updatedAt

variable {k}

theorem fields?_eq_some_iff {f : Row.Fields} : k.fields? r = some f ↔
    r.get? .id Value.uuid? = some f.id ∧ r.get? .owner Value.text? = some f.owner ∧
    r.get? .kind Value.text? = some f.kind ∧ r.get? .target Value.text? = some f.target ∧
    r.get? .fingerprint Value.optionalText? = some f.fingerprint ∧
    r.get? .status Value.text? = some f.status ∧ r.get? .creator Value.text? = some f.creator ∧
    r.get? .result Value.optionalJson? = some f.result ∧
    r.get? .error Value.optionalText? = some f.error ∧
    r.get? .createdAt k.read? = some f.createdAt ∧ r.get? .updatedAt k.read? = some f.updatedAt := by
  constructor
  · intro h
    simp only [fields?, bind, Option.bind_eq_some_iff, Option.some.injEq] at h
    obtain ⟨id, hid, owner, howner, kind, hkind, target, htarget, fingerprint, hfingerprint, status,
      hstatus, creator, hcreator, result, hresult, error, herror, created, hcreated, updated,
      hupdated, rfl⟩ := h
    exact ⟨hid, howner, hkind, htarget, hfingerprint, hstatus, hcreator, hresult, herror, hcreated,
      hupdated⟩
  · rintro ⟨hid, howner, hkind, htarget, hfingerprint, hstatus, hcreator, hresult, herror, hcreated,
      hupdated⟩
    simp only [fields?, hid, howner, hkind, htarget, hfingerprint, hstatus, hcreator, hresult,
      herror, hcreated, hupdated]
    rfl

/-- A row is read as a task exactly if it denotes that task. -/
theorem task_eq_ok_iff : k.task r = .ok t ↔ k.Denotes r t := by
  constructor
  · intro h
    rw [task] at h
    cases hfields : k.fields? r with
    | none =>
        rw [hfields] at h
        cases h
    | some f =>
        cases hstatus : Status.ofName? f.status with
        | none =>
            simp only [hfields, Row.Fields.task, hstatus] at h
            cases h
        | some status =>
            simp only [hfields, Row.Fields.task, hstatus, Except.ok.injEq] at h
            subst h
            obtain ⟨hid, howner, hkind, htarget, hfingerprint, htext, hcreator, hresult, herror,
              hcreated, hupdated⟩ := fields?_eq_some_iff.1 hfields
            rw [Status.ofName?_eq_some_iff] at hstatus
            simp only [Row.get?_eq_some_iff, Value.uuid?_eq_some_iff, Value.text?_eq_some_iff,
              Value.optionalText?_eq_some_iff, Value.optionalJson?_eq_some_iff,
              exists_eq_right] at hid howner hkind htarget hfingerprint htext hcreator hresult herror
            rw [hstatus] at htext
            exact
              { id := hid, owner := howner, kind := ⟨_, hkind, rfl⟩, target := htarget
                fingerprint := hfingerprint, status := htext, creator := hcreator
                result := hresult, error := herror
                createdAt := Row.get?_eq_some_iff.1 hcreated
                updatedAt := Row.get?_eq_some_iff.1 hupdated }
  · intro h
    obtain ⟨kind, hkind, hofName⟩ := h.kind
    have hfields : k.fields? r = some ⟨t.id, t.owner, kind, t.target, t.fingerprint,
        t.status.name, t.creator, t.result, t.error, t.createdAt, t.updatedAt⟩ := by
      simp only [fields?_eq_some_iff, Row.get?_eq_some_iff, Value.uuid?_eq_some_iff,
        Value.text?_eq_some_iff, Value.optionalText?_eq_some_iff,
        Value.optionalJson?_eq_some_iff, exists_eq_right]
      exact ⟨h.id, h.owner, hkind, h.target, h.fingerprint, h.status, h.creator, h.result,
        h.error, h.createdAt, h.updatedAt⟩
    have hstatus : Status.ofName? t.status.name = some t.status :=
      Status.ofName?_eq_some_iff.2 rfl
    simp only [task, hfields, Row.Fields.task, hstatus, ← hofName]

/-- A row that holds the values of a task is read as that task, with the instants that come out of
what was written for its own. -/
theorem task_of_holds {created updated : Instant} (hkind : t.kind.isNamed = true)
    (hcreated : k.read? (k.write t.createdAt) = some created)
    (hupdated : k.read? (k.write t.updatedAt) = some updated)
    (hrow : r.Holds (Column.all.map Column.name) (k.values t)) :
    k.task r = .ok { t with createdAt := created, updatedAt := updated } := by
  simp only [Row.Holds, Column.all, values, List.map_cons, List.map_nil, List.forall₂_cons,
    List.forall₂_nil_left_iff, and_true] at hrow
  obtain ⟨hid, howner, hname, htarget, hfingerprint, hstatus, hcreator, hresult, herror, hwritten,
    hchanged⟩ := hrow
  rw [task_eq_ok_iff]
  exact
    { id := hid, owner := howner, kind := ⟨_, hname, (eq_of_beq hkind).symm⟩, target := htarget
      fingerprint := hfingerprint, status := hstatus, creator := hcreator, result := hresult
      error := herror, createdAt := ⟨_, hwritten, hcreated⟩, updatedAt := ⟨_, hchanged, hupdated⟩ }

/-- The row of the values of a task holds them. -/
theorem holds_zip (t : Task) : Row.Holds ((Column.all.map Column.name).zip (k.values t))
    (Column.all.map Column.name) (k.values t) := by
  have hlength : (Column.all.map Column.name).length = (k.values t).length := rfl
  refine Row.holds_of_subset ?_ hlength (List.Subset.refl _)
  rw [List.map_fst_zip (Nat.le_of_eq hlength)]
  decide

/-- The row of a task holds what an insert binds. -/
theorem holds_ofTask (now : Instant) (t : Task) :
    (Row.ofTask t).Holds (Column.all.map Column.name) (Query.ofCall now (.insert t)).params :=
  micros.holds_zip t

end TimeCodec

theorem readTask_eq_ok_iff : readTask r = .ok t ↔ TimeCodec.micros.Denotes r t := by
  rw [← TimeCodec.task_micros, TimeCodec.task_eq_ok_iff]

/-! ## Which rows are read -/

section Readers

variable (v : Value)

theorem Value.isSome_uuid? : v.uuid?.isSome = Column.id.reads v := by cases v <;> rfl

theorem Value.isSome_text? (hc : c.type = .text) (hnull : c.isNullable = false) :
    v.text?.isSome = c.reads v := by
  cases v <;> simp [Value.text?, Column.reads, Value.isNull, Value.hasType, Value.isInCalendar, *]

theorem Value.isSome_optionalText? (hc : c.type = .text) (hnull : c.isNullable = true) :
    v.optionalText?.isSome = c.reads v := by
  cases v <;>
    simp [Value.optionalText?, Column.reads, Value.isNull, Value.hasType, Value.isInCalendar, *]

theorem Value.isSome_optionalJson? : v.optionalJson?.isSome = Column.result.reads v := by
  cases v <;> rfl

theorem Value.isSome_instant? (hc : c.type = .timestamptz) (hnull : c.isNullable = false) :
    v.instant?.isSome = c.reads v := by
  cases v <;>
    simp [Value.instant?, Column.reads, Value.isNull, Value.hasType, Value.isInCalendar, *]

end Readers

/-- The columns of a row can be read exactly if each of them can. -/
theorem exists_fields?_iff : (∃ f, r.fields? = some f) ↔ ∀ c, r.IsReadable c := by
  -- One fact for each reader: columns with one reader differ in nothing but their names.
  have hid := Row.exists_get?_iff (r := r) Value.isSome_uuid?
  have htext : ∀ c : Column, c.type = .text → c.isNullable = false →
      ((∃ s, r.get? c Value.text? = some s) ↔ r.IsReadable c) :=
    fun c hc hnull => Row.exists_get?_iff fun v => v.isSome_text? hc hnull
  have hoptional : ∀ c : Column, c.type = .text → c.isNullable = true →
      ((∃ s, r.get? c Value.optionalText? = some s) ↔ r.IsReadable c) :=
    fun c hc hnull => Row.exists_get?_iff fun v => v.isSome_optionalText? hc hnull
  have hjson := Row.exists_get?_iff (r := r) Value.isSome_optionalJson?
  have hinstant : ∀ c : Column, c.type = .timestamptz → c.isNullable = false →
      ((∃ s, r.get? c Value.instant? = some s) ↔ r.IsReadable c) :=
    fun c hc hnull => Row.exists_get?_iff fun v => v.isSome_instant? hc hnull
  constructor
  · rintro ⟨f, hf⟩ c
    obtain ⟨h1, h2, h3, h4, h5, h6, h7, h8, h9, h10, h11⟩ :=
      (TimeCodec.fields?_eq_some_iff (k := .micros)).1 hf
    cases c with
    | id => exact hid.1 ⟨_, h1⟩
    | owner => exact (htext .owner rfl rfl).1 ⟨_, h2⟩
    | kind => exact (htext .kind rfl rfl).1 ⟨_, h3⟩
    | target => exact (htext .target rfl rfl).1 ⟨_, h4⟩
    | fingerprint => exact (hoptional .fingerprint rfl rfl).1 ⟨_, h5⟩
    | status => exact (htext .status rfl rfl).1 ⟨_, h6⟩
    | creator => exact (htext .creator rfl rfl).1 ⟨_, h7⟩
    | result => exact hjson.1 ⟨_, h8⟩
    | error => exact (hoptional .error rfl rfl).1 ⟨_, h9⟩
    | createdAt => exact (hinstant .createdAt rfl rfl).1 ⟨_, h10⟩
    | updatedAt => exact (hinstant .updatedAt rfl rfl).1 ⟨_, h11⟩
  · intro h
    obtain ⟨id, h1⟩ := hid.2 (h .id)
    obtain ⟨owner, h2⟩ := (htext .owner rfl rfl).2 (h .owner)
    obtain ⟨kind, h3⟩ := (htext .kind rfl rfl).2 (h .kind)
    obtain ⟨target, h4⟩ := (htext .target rfl rfl).2 (h .target)
    obtain ⟨fingerprint, h5⟩ := (hoptional .fingerprint rfl rfl).2 (h .fingerprint)
    obtain ⟨status, h6⟩ := (htext .status rfl rfl).2 (h .status)
    obtain ⟨creator, h7⟩ := (htext .creator rfl rfl).2 (h .creator)
    obtain ⟨result, h8⟩ := hjson.2 (h .result)
    obtain ⟨error, h9⟩ := (hoptional .error rfl rfl).2 (h .error)
    obtain ⟨created, h10⟩ := (hinstant .createdAt rfl rfl).2 (h .createdAt)
    obtain ⟨updated, h11⟩ := (hinstant .updatedAt rfl rfl).2 (h .updatedAt)
    exact ⟨⟨id, owner, kind, target, fingerprint, status, creator, result, error, created, updated⟩,
      (TimeCodec.fields?_eq_some_iff (k := .micros)).2
        ⟨h1, h2, h3, h4, h5, h6, h7, h8, h9, h10, h11⟩⟩

/-- What a row is read as. -/
inductive Row.Reading (r : Row) : Except StoreError Task → Prop where
  | denotes {t : Task} (readable : ∀ c, r.IsReadable c) (h : TimeCodec.micros.Denotes r t) :
      Reading r (.ok t)
  /-- A column is missing, or its value cannot be read. -/
  | unreadable {c : Column} (h : ¬ r.IsReadable c) :
      Reading r (.error RowError.unreadable.toStoreError)
  /-- The text of the status is none of the names. -/
  | unknownStatus {id : TaskId} {s : String} (readable : ∀ c, r.IsReadable c)
      (isId : r.value? "id" = some (.uuid id)) (isStatus : r.value? "status" = some (.text s))
      (unknown : ∀ status : Status, s ≠ status.name) :
      Reading r (.error (RowError.unknownStatus id s).toStoreError)

/-- Every row is read as a task or is corrupt, for one of two reasons. -/
theorem reading (r : Row) : r.Reading (readTask r) := by
  by_cases hreadable : ∀ c, r.IsReadable c
  · obtain ⟨f, hf⟩ := exists_fields?_iff.2 hreadable
    cases hstatus : Status.ofName? f.status with
    | some status =>
        cases hread : readTask r with
        | ok t => exact .denotes hreadable (readTask_eq_ok_iff.1 hread)
        | error e =>
            simp only [readTask, Row.task, hf, Row.Fields.task, hstatus] at hread
            cases hread
    | none =>
        have hread : readTask r = .error (RowError.unknownStatus f.id f.status).toStoreError := by
          simp only [readTask, Row.task, hf, Row.Fields.task, hstatus]
        obtain ⟨hid, -, -, -, -, htext, -⟩ := (TimeCodec.fields?_eq_some_iff (k := .micros)).1 hf
        simp only [Row.get?_eq_some_iff, Value.uuid?_eq_some_iff, Value.text?_eq_some_iff,
          exists_eq_right] at hid htext
        rw [hread]
        refine .unknownStatus hreadable hid htext fun status hname => ?_
        rw [Status.ofName?_eq_some_iff.2 hname] at hstatus
        cases hstatus
  · have hnone : r.fields? = none := by
      rw [Option.eq_none_iff_forall_ne_some]
      exact fun f hf => hreadable (exists_fields?_iff.1 ⟨f, hf⟩)
    have hread : readTask r = .error RowError.unreadable.toStoreError := by
      rw [readTask, Row.task, hnone]
    obtain ⟨c, hc⟩ := not_forall.1 hreadable
    rw [hread]
    exact .unreadable hc

/-- What is not read as a task is corrupt. -/
theorem Row.Reading.settled {x : Except StoreError Task} (h : r.Reading x) :
    (∃ t, x = .ok t) ∨ ∃ reason, x = .error (.corrupt reason) := by
  cases h with
  | denotes readable h => exact .inl ⟨_, rfl⟩
  | unreadable h => exact .inr ⟨_, rfl⟩
  | unknownStatus readable isId isStatus unknown => exact .inr ⟨_, rfl⟩

theorem Row.Reading.corrupt_iff {x : Except StoreError Task} (h : r.Reading x) :
    (∃ reason, x = .error (.corrupt reason)) ↔ (∃ c, ¬ r.IsReadable c) ∨
      ∃ s, r.value? "status" = some (.text s) ∧ ∀ status : Status, s ≠ status.name := by
  cases h with
  | unreadable h => exact ⟨fun _ => .inl ⟨_, h⟩, fun _ => ⟨_, rfl⟩⟩
  | unknownStatus readable isId isStatus unknown =>
      exact ⟨fun _ => .inr ⟨_, isStatus, unknown⟩, fun _ => ⟨_, rfl⟩⟩
  | denotes readable h =>
      constructor
      · rintro ⟨reason, hreason⟩
        cases hreason
      · rintro (⟨c, hc⟩ | ⟨s, hs, hunknown⟩)
        · exact absurd (readable c) hc
        · rw [h.status, Option.some.injEq, Value.text.injEq] at hs
          exact absurd hs.symm (hunknown _)

/-- A list that is not read is corrupt. -/
theorem corrupt_of_mapM_readTask {rows : List Row} {e : StoreError}
    (h : rows.mapM readTask = .error e) : ∃ reason, e = .corrupt reason := by
  obtain ⟨before, r, after, -, -, hr⟩ := mapM_eq_error_iff.1 h
  rcases (reading r).settled with ⟨t, ht⟩ | ⟨reason, hreason⟩
  · rw [hr] at ht
    cases ht
  · exact ⟨reason, Except.error.inj (hr.symm.trans hreason)⟩

end Database

end Backlog
