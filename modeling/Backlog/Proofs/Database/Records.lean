import Backlog.Proofs.Database.Decoding
import Backlog.Proofs.Store.InFlight
import Mathlib.Tactic.MkIffOfInductiveProp
/-!
# Tasks as records

A task is kept as a record with one value for each of its fields, and this module says what the
conditions, the order and the rules of the table come to on such records.  Three things can be lost
on the way: the part of an instant below a microsecond, the difference between a built-in kind and
a custom one with its name, and, in the key of the index over the work in flight, the difference
between a missing fingerprint and an empty one.  `Task.IsStorable` excludes them, and on storable
tasks the record says everything: the row it is answered in denotes the task (`readTask_row`), the
order of the rows is the order of the tasks (`precedes_ofTask`), and two records collide exactly if
the store in memory would not hold both tasks (`breach?_of_apart`, `breach?_of_not_apart`).

## Main results

* `readTask_row` — the row of a storable task denotes it.
* `precedes_ofTask` — records are ordered as their tasks.
* `collides_inFlightIndex_iff_texts` — what the index over the work in flight compares.
* `breach?_of_apart`, `breach?_of_not_apart` — the rules of the table are those of `Memory.Apart`.
* `holds_hasStatusIn`, `holds_matchesIfGiven` and their neighbours — conditions on the record of a
  task.
-/

namespace Backlog

/-! ## What can be kept -/

/-- A database keeps the instant as it is. -/
@[mk_iff] structure Instant.IsStorable (t : Instant) : Prop where
  regular : t.nano < 1000000000
  whole : t.nano % 1000 = 0
  first : Database.firstTime ≤ t.micros
  last : t.micros < Database.endTime

instance (t : Instant) : Decidable t.IsStorable := decidable_of_iff' _ t.isStorable_iff

/-- A database keeps the task as it is, and apart from every other work. -/
structure Task.IsStorable (t : Task) : Prop where
  named : t.kind.isNamed = true
  fingerprint : t.fingerprint ≠ some ""
  createdAt : t.createdAt.IsStorable
  updatedAt : t.updatedAt.IsStorable

namespace Instant

variable {a b t : Instant}

/-- An instant outside leap seconds is made from its count of nanoseconds. -/
theorem ofNanos?_nanos (h : t.nano < 1000000000) : ofNanos? t.nanos = some t := by
  have hsecond : t.nanos / 1000000000 = t.second := by
    simp only [nanos]
    omega
  have hnano : (t.nanos % 1000000000).toNat = t.nano := by
    simp only [nanos]
    omega
  rw [ofNanos?, hsecond, hnano, ofParts?, dif_pos ⟨t.second_ge, t.second_le, t.nano_lt⟩]

theorem IsStorable.micros_mul (h : t.IsStorable) : t.micros * 1000 = t.nanos - databaseEpoch := by
  have hwhole := h.whole
  refine Int.tdiv_mul_cancel ?_
  simp only [nanos, databaseEpoch]
  omega

/-- An instant that can be kept is read as it was written. -/
theorem IsStorable.ofMicros? (h : t.IsStorable) : Instant.ofMicros? t.micros = some t := by
  have hwhole := h.whole
  rw [ofMicros?_micros (by simp only [nanos]; omega), ofNanos?_nanos h.regular]

theorem IsStorable.micros_lt_iff (ha : a.IsStorable) (hb : b.IsStorable) :
    a.micros < b.micros ↔ a.before b = true := by
  rw [before_iff_nanos ha.regular hb.regular]
  have hma := ha.micros_mul
  have hmb := hb.micros_mul
  omega

theorem IsStorable.micros_inj (ha : a.IsStorable) (hb : b.IsStorable) :
    a.micros = b.micros ↔ a = b := by
  refine ⟨fun h => ?_, fun h => h ▸ rfl⟩
  have hsome := ha.ofMicros?
  rw [h, hb.ofMicros?] at hsome
  exact (Option.some.inj hsome).symm

end Instant

/-- Kinds that are denoted by their names are told apart by them. -/
theorem TaskKind.eq_of_name_eq {k l : TaskKind} (hk : k.isNamed = true) (hl : l.isNamed = true) :
    k.name = l.name ↔ k = l := by
  refine ⟨fun h => ?_, fun h => h ▸ rfl⟩
  rw [← eq_of_beq hk, ← eq_of_beq hl, h]

/-- Where no text is empty, a missing text can be written as the empty one. -/
theorem getD_empty_inj {a b : Option String} (ha : a ≠ some "") (hb : b ≠ some "") :
    a.getD "" = b.getD "" ↔ a = b := by
  cases a with
  | none => cases b <;> simp_all [eq_comm]
  | some a => cases b <;> simp_all

/-- The texts of a key, the empty one for a missing fingerprint. -/
def WorkKey.texts (k : WorkKey) : String × String × String × String :=
  (k.kind.name, k.owner, k.target, k.fingerprint.getD "")

/-- Keys with named kinds and no empty fingerprint are told apart by their texts. -/
theorem WorkKey.texts_inj {k l : WorkKey} (hk : k.kind.isNamed = true) (hl : l.kind.isNamed = true)
    (hkf : k.fingerprint ≠ some "") (hlf : l.fingerprint ≠ some "") :
    k.texts = l.texts ↔ k = l := by
  rw [WorkKey.ext_iff, ← TaskKind.eq_of_name_eq hk hl, ← getD_empty_inj hkf hlf]
  simp only [texts, Prod.mk.injEq]

theorem Status.name_inj {s t : Status} : s.name = t.name ↔ s = t := by
  refine ⟨fun h => ?_, fun h => h ▸ rfl⟩
  have hs : Status.ofName? s.name = some t := ofName?_eq_some_iff.2 h
  rw [ofName?_eq_some_iff.2 rfl] at hs
  exact Option.some.inj hs

namespace Database

variable {t u : Task} {ps : List Value}

/-! ## The record of a task -/

namespace Record

/-- The record in which a task is kept. -/
def ofTask (t : Task) : Record
  | .id => .uuid t.id
  | .owner => .text t.owner
  | .kind => .text t.kind.name
  | .target => .text t.target
  | .fingerprint => .textOrNull t.fingerprint
  | .status => .text t.status.name
  | .creator => .text t.creator
  | .result => .jsonOrNull t.result
  | .error => .textOrNull t.error
  | .createdAt => .ofInstant t.createdAt
  | .updatedAt => .ofInstant t.updatedAt

/-- The values that an insert binds make the record. -/
theorem ofValues_taskValues (t : Task) : ofValues (taskValues t) = ofTask t := by
  funext c
  cases c <;> rfl

/-- The row of a storable task denotes it. -/
theorem readTask_row (h : t.IsStorable) : readTask (ofTask t).row = .ok t := by
  rw [← TimeCodec.task_micros]
  exact TimeCodec.task_of_holds h.named h.createdAt.ofMicros? h.updatedAt.ofMicros?
    (TimeCodec.micros.holds_zip t)

end Record

open Record (ofTask)

/-- The records of some tasks. -/
def records (ts : List Task) : Table := ts.map ofTask

/-- The rows of storable tasks denote them. -/
theorem mapM_readTask {ts : List Task} (h : ∀ t ∈ ts, t.IsStorable) :
    ((records ts).map Record.row).mapM readTask = .ok ts := by
  rw [mapM_eq_ok_iff, records, List.map_map, List.forall₂_map_left_iff, List.forall₂_same]
  exact fun t ht => Record.readTask_row (h t ht)

/-- The first of some rows of storable tasks denotes the first task. -/
theorem readFirst_rows {ts : List Task} (h : ∀ t ∈ ts, t.IsStorable) :
    readFirst ((records ts).map Record.row) = .ok ts.head? := by
  cases ts with
  | nil => rfl
  | cons t ts =>
      show (readTask (ofTask t).row).map some = _
      rw [Record.readTask_row (h t List.mem_cons_self)]
      rfl

/-! ## Conditions -/

namespace Condition

/-- A status is among some others exactly if its name is among theirs. -/
theorem mem_names_iff {s : Status} {ss : List Status} : s.name ∈ ss.map Status.name ↔ s ∈ ss := by
  rw [List.mem_map]
  constructor
  · rintro ⟨v, hv, heq⟩
    rwa [← Status.name_inj.1 heq]
  · exact fun h => ⟨s, h, rfl⟩

theorem holds_hasStatus {s : Status} :
    (hasStatus s).holds (ofTask t) ps = true ↔ t.status = s := by
  rw [holds_iff, ← Status.name_inj]
  show some (t.status.name == s.name) = some true ↔ _
  rw [Option.some_inj, beq_iff_eq]

theorem holds_hasStatusIn {ss : List Status} :
    (hasStatusIn ss).holds (ofTask t) ps = true ↔ t.status ∈ ss := by
  rw [holds_iff, ← mem_names_iff]
  show Truth.any ((ss.map fun s => Term.word s.name).map fun b =>
    (Value.text t.status.name).equal? (b.value (ofTask t) ps)) = some true ↔ _
  rw [Truth.any_eq_true, List.map_map, List.mem_map, List.mem_map]
  refine exists_congr fun s => and_congr_right fun _ => ?_
  show some (t.status.name == s.name) = some true ↔ _
  rw [Option.some_inj, beq_iff_eq, eq_comm]

theorem holds_isActive : isActive.holds (ofTask t) ps = true ↔ t.status.isActive = true := by
  rw [isActive, holds_hasStatusIn, Status.mem_activeOnes]

/-- The status is a member of a list of names. -/
theorem holds_memberOf {n : Nat} {ss : List Status}
    (hn : ps[n - 1]? = some (.texts (ss.map Status.name))) :
    (memberOf (.column .status) n).holds (ofTask t) ps = true ↔ t.status ∈ ss := by
  have hparam : (Term.param n).value (ofTask t) ps = .texts (ss.map Status.name) := by
    rw [Term.value, hn]
    rfl
  rw [holds_iff, truth, hparam]
  show Truth.any ((ss.map Status.name).map fun s =>
    (Value.text t.status.name).equal? (.text s)) = some true ↔ _
  rw [Truth.any_eq_true, List.mem_map, ← mem_names_iff]
  constructor
  · rintro ⟨s, hs, heq⟩
    rw [Value.equal?_text, Option.some_inj, beq_iff_eq] at heq
    rwa [heq]
  · intro h
    exact ⟨_, h, by rw [Value.equal?_text, beq_self_eq_true]⟩

/-- A column that holds a text equals a text. -/
theorem holds_matchesText {r : Record} {c : Column} {n : Nat} {a b : String} (hc : r c = .text a)
    (hn : ps[n - 1]? = some (.text b)) : (matchesParam c n).holds r ps = true ↔ a = b := by
  rw [holds_iff, matchesParam, truth, Term.value, Term.value, hc, hn, Option.getD_some,
    Value.equal?_text, Option.some_inj, beq_iff_eq]

/-- The identifier equals another. -/
theorem holds_matchesId {n : Nat} {id : TaskId} (hn : ps[n - 1]? = some (.uuid id)) :
    (matchesParam .id n).holds (ofTask t) ps = true ↔ t.id = id := by
  rw [holds_iff, matchesParam, truth, Term.value, Term.value, hn, Option.getD_some]
  show some (t.id == id) = some true ↔ _
  rw [Option.some_inj, beq_iff_eq]

/-- A column that may be `NULL` equals a text, if one is given: `NULL` equals none. -/
theorem holds_matchesIfGiven {r : Record} {c : Column} {n : Nat} {a b : Option String}
    (hc : r c = .textOrNull a) (hn : ps[n - 1]? = some (.textOrNull b)) :
    (matchesIfGiven c n).holds r ps = true ↔ b = none ∨ a = b := by
  rw [holds_iff, matchesIfGiven, truth, Truth.or_eq_true, matchesParam, truth, truth, Term.value,
    Term.value, Term.value, hc, hn, Option.getD_some]
  cases b with
  | none => simp [Value.textOrNull, Value.isNull]
  | some b =>
      cases a with
      | none => simp [Value.textOrNull, Value.isNull]
      | some a => simp [Value.textOrNull, Value.isNull]

/-- The last change was before an instant. -/
theorem holds_updatedBefore {n : Nat} {cutoff : Instant} (ht : t.updatedAt.IsStorable)
    (hcutoff : cutoff.IsStorable) (hn : ps[n - 1]? = some (.ofInstant cutoff)) :
    (less (.column .updatedAt) (.param n)).holds (ofTask t) ps = true ↔
      t.updatedAt.before cutoff = true := by
  rw [holds_iff, truth, Term.value, Term.value, hn, Option.getD_some]
  show some (decide (t.updatedAt.micros < cutoff.micros)) = some true ↔ _
  rw [Option.some_inj, decide_eq_true_eq, ht.micros_lt_iff hcutoff]

end Condition

/-! ## Order -/

/-- Records are ordered as their tasks. -/
theorem precedes_ofTask (ht : t.IsStorable) (hu : u.IsStorable) :
    (ofTask t).precedes (ofTask u) Statement.queueOrder = t.isBefore u := by
  rw [Bool.eq_iff_iff, Task.isBefore]
  simp only [Statement.queueOrder, Record.precedes, ofTask, Value.ofInstant, Value.less?_time,
    Value.equal?_time, Value.less?_uuid, Bool.or_eq_true, Bool.and_eq_true, beq_iff_eq,
    Option.some_inj, decide_eq_true_eq, Bool.and_false, Bool.or_false,
    ht.createdAt.micros_lt_iff hu.createdAt, ht.createdAt.micros_inj hu.createdAt]

/-- Sorted records are those of the sorted tasks. -/
theorem mergeSort_records {ts : List Task} (h : ∀ t ∈ ts, t.IsStorable) :
    ((records ts).mergeSort fun a b => !b.precedes a Statement.queueOrder) =
      records (Memory.inOrder ts) := by
  rw [Memory.inOrder, records, records]
  refine (List.map_mergeSort ?_).symm
  intro a ha b hb
  rw [precedes_ofTask (h b hb) (h a ha)]

/-! ## The rules of the table -/

/-- In a key a missing fingerprint is the empty text. -/
theorem value_orEmpty (t : Task) :
    (KeyPart.orEmpty .fingerprint).value (ofTask t) = .text (t.fingerprint.getD "") := by
  cases hf : t.fingerprint <;> simp [KeyPart.value, ofTask, Value.textOrNull, Value.isNull, hf]

/-- The record of a task breaks no rule by itself. -/
theorem breach?_ofTask (t : Task) : (ofTask t).breach? = none := by
  have hcolumns : (Column.all.findSome? fun c => c.breach? (ofTask t c)) = none := by
    rw [List.findSome?_eq_none_iff]
    intro c _
    cases c with
    | fingerprint => cases hf : t.fingerprint <;> simp only [ofTask, hf] <;> rfl
    | result => cases hr : t.result <;> simp only [ofTask, hr] <;> rfl
    | error => cases he : t.error <;> simp only [ofTask, he] <;> rfl
    | _ => rfl
  have hcheck : (Condition.hasStatusIn Status.all).truth (ofTask t) [] = some true :=
    Condition.holds_iff.1 (Condition.holds_hasStatusIn.2 (Status.mem_all t.status))
  rw [Record.breach?, hcolumns, hcheck]
  rfl

/-- The primary key tells tasks apart by their identifiers. -/
theorem collides_primaryKey : primaryKey.collides (ofTask t) (ofTask u) = true ↔ t.id = u.id := by
  show (true && true && ((some (t.id == u.id) == some true) && true)) = true ↔ _
  simp

/-- The index over the work in flight tells tasks apart by the texts of their keys. -/
theorem collides_inFlightIndex_iff_texts :
    Schema.inFlightIndex.collides (ofTask t) (ofTask u) = true ↔
      t.status.isActive = true ∧ u.status.isActive = true ∧ t.key.texts = u.key.texts := by
  rw [Index.collides, Bool.and_eq_true, Bool.and_eq_true, and_assoc]
  refine and_congr Condition.holds_isActive (and_congr Condition.holds_isActive ?_)
  simp only [Schema.inFlightIndex, List.all_cons, List.all_nil, value_orEmpty]
  simp only [KeyPart.value, ofTask, Value.equal?_text, Bool.and_eq_true, beq_iff_eq,
    Option.some_inj, and_true, WorkKey.texts, Task.key, Prod.mk.injEq]

/-- The index over the work in flight tells tasks apart by their keys. -/
theorem collides_inFlightIndex (ht : t.IsStorable) (hu : u.IsStorable) :
    Schema.inFlightIndex.collides (ofTask t) (ofTask u) = true ↔
      t.status.isActive = true ∧ u.status.isActive = true ∧ t.key = u.key := by
  rw [collides_inFlightIndex_iff_texts,
    WorkKey.texts_inj ht.named hu.named ht.fingerprint hu.fingerprint]

/-- The unique indexes are the primary key and the index over the work in flight. -/
theorem all_uniqueIndexes (p : Index → Bool) :
    uniqueIndexes.all p = (p primaryKey && p Schema.inFlightIndex) := by
  show (p primaryKey && (p Schema.inFlightIndex && true)) = _
  rw [Bool.and_true]

variable {ts : List Task}

/-- The unique indexes are kept exactly if the tasks are apart. -/
theorem uniqueIndexes_kept_iff (h : ∀ t ∈ ts, t.IsStorable) :
    (uniqueIndexes.all fun i => i.isKept (records ts)) = true ↔ Memory.Apart ts := by
  have hids : primaryKey.isKept (records ts) = true ↔ (ts.map Task.id).Nodup := by
    rw [Index.isKept, decide_eq_true_eq, records, List.pairwise_map, List.Nodup, List.pairwise_map]
    simp only [← Bool.not_eq_true, collides_primaryKey, ne_eq]
  have hkeys : Schema.inFlightIndex.isKept (records ts) = true ↔ ts.Pairwise fun t u =>
      t.status.isActive = true → u.status.isActive = true → t.key ≠ u.key := by
    rw [Index.isKept, decide_eq_true_eq, records, List.pairwise_map]
    refine List.Pairwise.iff_of_mem fun ht hu => ?_
    rw [← Bool.not_eq_true, collides_inFlightIndex (h _ ht) (h _ hu)]
    simp only [not_and, ne_eq]
  rw [all_uniqueIndexes, Bool.and_eq_true, hids, hkeys]
  exact ⟨fun h => ⟨h.1, h.2⟩, fun h => ⟨h.ids, h.keys⟩⟩

theorem breach?_records (ts : List Task) : (records ts).findSome? Record.breach? = none := by
  rw [List.findSome?_eq_none_iff]
  intro r hr
  obtain ⟨t, -, rfl⟩ := List.mem_map.1 hr
  exact breach?_ofTask t

/-- Tasks that are apart break no rule of the table. -/
theorem breach?_of_apart (h : ∀ t ∈ ts, t.IsStorable) (hapart : Memory.Apart ts) :
    Table.breach? (records ts) = none := by
  rw [Table.breach?, breach?_records, if_pos ((uniqueIndexes_kept_iff h).2 hapart)]
  rfl

/-- Tasks that are not apart break the rule of a unique index. -/
theorem breach?_of_not_apart (h : ∀ t ∈ ts, t.IsStorable) (hapart : ¬ Memory.Apart ts) :
    Table.breach? (records ts) = some uniqueViolation := by
  rw [Table.breach?, breach?_records,
    if_neg fun hkept => hapart ((uniqueIndexes_kept_iff h).1 hkept)]
  rfl

end Database

end Backlog
