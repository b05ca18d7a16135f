import Backlog.Proofs.Database.Records
/-!
# Rows and tasks agree

What an insert writes of a task is read as that task, by whatever row holds it: the columns may
stand in any order, and there may be others.  The kind has to be one that a name denotes, since the
name is all that is written of it, and an instant comes back without what is less than a
microsecond.

In the other direction a row is read as the task whose values it holds, or is corrupt, and so is a
list of rows: there is no row that is read as something else, and none that is left out.

## Main results

* `Instant.exists_ofMicros?` — what a database makes of an instant.
* `isKept` — what is inserted is read.
* `isRead`, `areRead` — what a row and a list of rows are read as.
* `rows_agree_with_tasks` — the three together.
-/

namespace Backlog

/-- An instant outside leap seconds comes back, less than a microsecond away. -/
theorem Instant.exists_ofMicros? {t : Instant} (h : t.nano < 1000000000) :
    ∃ u, ofMicros? t.micros = some u ∧ t.nanos - 1000 < u.nanos ∧ u.nanos < t.nanos + 1000 := by
  have hearly := t.second_ge
  have hlate := t.second_le
  have hdiv := Int.mul_tdiv_add_tmod (t.nanos - databaseEpoch) 1000
  have hlo := Int.lt_tmod_of_pos (t.nanos - databaseEpoch) (show (0 : Int) < 1000 by decide)
  have hhi := Int.tmod_lt_of_pos (t.nanos - databaseEpoch) (show (0 : Int) < 1000 by decide)
  -- What is dropped has the sign of the whole, so the instant moves toward the year 2000 and stays
  -- inside the calendar.
  have hafter : 0 ≤ t.nanos - databaseEpoch → 0 ≤ (t.nanos - databaseEpoch).tmod 1000 :=
    Int.tmod_nonneg 1000
  have hbefore : t.nanos - databaseEpoch ≤ 0 → (t.nanos - databaseEpoch).tmod 1000 ≤ 0 := by
    intro hle
    have hneg := Int.tmod_nonneg 1000 (show 0 ≤ -(t.nanos - databaseEpoch) by omega)
    rw [Int.neg_tmod] at hneg
    omega
  have hkept : databaseEpoch + t.micros * 1000 =
      t.nanos - (t.nanos - databaseEpoch).tmod 1000 := by
    rw [micros]
    omega
  have hfirst : earliest.nanos ≤ databaseEpoch + t.micros * 1000 := by
    rw [hkept]
    simp only [earliest, firstSecond, nanos, databaseEpoch] at *
    omega
  have hlast : databaseEpoch + t.micros * 1000 ≤ latest.nanos := by
    rw [hkept]
    simp only [latest, lastSecond, nanos, databaseEpoch] at *
    omega
  obtain ⟨u, hu, hnanos, -⟩ := ofNanos?_isSome hfirst hlast
  exact ⟨u, hu, by omega, by omega⟩

namespace Database

variable {t : Task}

/-! ## Rows and tasks -/

/-- A task is read from what an insert writes of it. -/
structure IsKept (t : Task) : Prop where
  /-- An insert names all columns, and binds their values in this order. -/
  columns : ∀ now, (Query.ofCall now (.insert t)).statement.text =
      "INSERT INTO tasks ( " ++ Column.list Column.all ++
        " ) VALUES ($1, $2, $3, $4, $5, $6, $7, $8, $9, $10, $11)" ∧
    (Query.ofCall now (.insert t)).params = TimeCodec.micros.values t
  /-- Where instants are carried as they are, a row that holds these values under the names of the
  columns is read as the task. -/
  exact : ∀ k : TimeCodec, k.IsExact → ∀ r : Row,
    r.Holds (Column.all.map Column.name) (k.values t) → k.task r = .ok t
  /-- Carried as whole microseconds, instants outside leap seconds come back less than a microsecond
  away, and nothing else is changed. -/
  rounded : t.createdAt.nano < 1000000000 → t.updatedAt.nano < 1000000000 →
    ∃ created updated : Instant,
      (t.createdAt.nanos - 1000 < created.nanos ∧ created.nanos < t.createdAt.nanos + 1000) ∧
      (t.updatedAt.nanos - 1000 < updated.nanos ∧ updated.nanos < t.updatedAt.nanos + 1000) ∧
      ∀ now (r : Row), r.Holds (Column.all.map Column.name) (Query.ofCall now (.insert t)).params →
        readTask r = .ok { t with createdAt := created, updatedAt := updated }
  /-- So a task with instants that a database can keep is read as it was written. -/
  storable : t.createdAt.IsStorable → t.updatedAt.IsStorable → ∀ now (r : Row),
    r.Holds (Column.all.map Column.name) (Query.ofCall now (.insert t)).params →
      readTask r = .ok t

theorem isKept (hkind : t.kind.isNamed = true) : IsKept t where
  columns now := ⟨rfl, TimeCodec.params_insert now t⟩
  exact k hexact r hrow := TimeCodec.task_of_holds hkind (hexact _) (hexact _) hrow
  rounded hcreated hupdated := by
    obtain ⟨created, hc, hcnear⟩ := Instant.exists_ofMicros? hcreated
    obtain ⟨updated, hu, hunear⟩ := Instant.exists_ofMicros? hupdated
    refine ⟨created, updated, hcnear, hunear, fun now r hrow => ?_⟩
    rw [← TimeCodec.task_micros]
    exact TimeCodec.task_of_holds hkind hc hu hrow
  storable hcreated hupdated now r hrow := by
    rw [← TimeCodec.task_micros]
    exact TimeCodec.task_of_holds hkind hcreated.ofMicros? hupdated.ofMicros? hrow

/-- A row is read as the task that it denotes, or is corrupt. -/
structure Row.IsRead (r : Row) : Prop where
  /-- Every value is kept. -/
  ok_iff : ∀ t, readTask r = .ok t ↔ TimeCodec.micros.Denotes r t
  /-- A row is corrupt exactly if a column cannot be read, or the text of its status is none of the
  names. -/
  corrupt_iff : (∃ reason, readTask r = .error (.corrupt reason)) ↔
    (∃ c, ¬ r.IsReadable c) ∨
      ∃ s, r.value? "status" = some (.text s) ∧ ∀ status : Status, s ≠ status.name
  /-- There is no other error. -/
  settled : (∃ t, readTask r = .ok t) ∨ ∃ reason, readTask r = .error (.corrupt reason)

theorem isRead (r : Row) : r.IsRead where
  ok_iff _ := readTask_eq_ok_iff
  corrupt_iff := (reading r).corrupt_iff
  settled := (reading r).settled

/-- A list of rows is read as all its tasks, or is corrupt. -/
structure AreRead (rows : List Row) (answer : Except StoreError (List Task)) : Prop where
  /-- The tasks are those of the rows, every one and in order. -/
  ok_iff : ∀ ts, answer = .ok ts ↔ List.Forall₂ (fun r t => readTask r = .ok t) rows ts
  /-- The list is corrupt exactly if one of the rows is not read. -/
  corrupt_iff : (∃ reason, answer = .error (.corrupt reason)) ↔ ∃ r ∈ rows, ∀ t, readTask r ≠ .ok t
  /-- The error is that of the first such row. -/
  first : ∀ e, answer = .error e ↔ ∃ before r after, rows = before ++ r :: after ∧
    (∀ x ∈ before, ∃ t, readTask x = .ok t) ∧ readTask r = .error e
  /-- There is no other error. -/
  settled : (∃ ts, answer = .ok ts) ∨ ∃ reason, answer = .error (.corrupt reason)

theorem areRead (rows : List Row) : AreRead rows (rows.mapM readTask) where
  ok_iff _ := mapM_eq_ok_iff
  corrupt_iff := by
    constructor
    · rintro ⟨reason, h⟩
      obtain ⟨before, r, after, rfl, -, hr⟩ := mapM_eq_error_iff.1 h
      refine ⟨r, by simp, fun t ht => ?_⟩
      rw [hr] at ht
      cases ht
    · rintro ⟨r, hr, hnone⟩
      cases hread : rows.mapM readTask with
      | ok ts =>
          obtain ⟨t, ht⟩ := ok_of_mapM_eq_ok hread r hr
          exact absurd ht (hnone t)
      | error e =>
          obtain ⟨reason, rfl⟩ := corrupt_of_mapM_readTask hread
          exact ⟨reason, rfl⟩
  first _ := mapM_eq_error_iff
  settled := by
    cases hread : rows.mapM readTask with
    | ok ts => exact .inl ⟨ts, rfl⟩
    | error e =>
        obtain ⟨reason, rfl⟩ := corrupt_of_mapM_readTask hread
        exact .inr ⟨reason, rfl⟩

/-- **Rows and tasks do not drift apart.**  What is inserted of a task with a named kind is read as
that task; a row is read with every value it holds or is corrupt; and of an owner's list of rows all
are read in order or the list is corrupt. -/
theorem rows_agree_with_tasks :
    (∀ (t : Task) (name : String), t.kind = .ofName name → IsKept t) ∧
    (∀ r : Row, r.IsRead) ∧
    ∀ (rows : List Row) (changed : Nat) (now : Instant) (owner : String) (status : Option Status)
      (limit : Nat), AreRead rows
        (ask .reachable (.done rows changed) now (.listForOwner owner status limit)).2 := by
  refine ⟨fun t name hkind => isKept ?_, isRead, fun rows _ _ _ _ _ => areRead rows⟩
  rw [TaskKind.isNamed, hkind, TaskKind.name_ofName]
  exact beq_self_eq_true _

/-! ## A task with JSON's own null -/

/-- A way of an instant that loses nothing: the second and the place in it, in one number. -/
def TimeCodec.parts : TimeCodec where
  write t := .time (t.second * 2000000000 + t.nano)
  read?
    | .time n => Instant.ofParts? (n / 2000000000) (n % 2000000000).toNat
    | _ => none

theorem TimeCodec.isExact_parts : parts.IsExact := by
  intro t
  have hnano := t.nano_lt
  have hsecond : (t.second * 2000000000 + t.nano) / 2000000000 = t.second := by omega
  have hplace : ((t.second * 2000000000 + t.nano) % 2000000000).toNat = t.nano := by omega
  show Instant.ofParts? _ _ = some t
  rw [hsecond, hplace, Instant.ofParts?, dif_pos ⟨t.second_ge, t.second_le, t.nano_lt⟩]

/-- The recognition of an invoice that has ended with some result. -/
def endedWith (result : Option Json) : Task :=
  { Memory.invoiceTask .succeeded with result := result }

/-- The same, changed at an instant that no database keeps. -/
def endedLate : Task := { endedWith none with updatedAt := .latest }

/-- The row of a task, or its columns in another order and next to another one, is read as that
task, JSON's own null is told from no result, and no part of an instant is lost if none is lost on
the way. -/
theorem rows_agree_with_tasks_of_null :
    readTask (("comment", .foreign) :: (Row.ofTask (endedWith (some .null))).reverse) =
        .ok (endedWith (some .null)) ∧
      readTask (Row.ofTask (endedWith none)) = .ok (endedWith none) ∧
      (endedWith (some .null)).result ≠ (endedWith none).result ∧
      TimeCodec.parts.IsExact ∧
      TimeCodec.parts.task ((Column.all.map Column.name).zip (TimeCodec.parts.values endedLate)) =
        .ok endedLate := by
  have hkept := fun t => rows_agree_with_tasks.1 t "invoice_ocr"
  have hepoch : Instant.epoch.IsStorable := by decide
  refine ⟨?_, ?_, Option.some_ne_none _, TimeCodec.isExact_parts, ?_⟩
  · refine (hkept _ rfl).storable hepoch hepoch .epoch _ (Row.holds_of_subset (by decide) rfl ?_)
    exact fun e he => List.mem_cons_of_mem _ (List.mem_reverse.2 he)
  · exact (hkept _ rfl).storable hepoch hepoch .epoch _ (TimeCodec.holds_ofTask _ _)
  · exact (hkept _ rfl).exact _ TimeCodec.isExact_parts _ (TimeCodec.holds_zip _)

end Database

end Backlog
