import Backlog.Proofs.Database.Records
import Backlog.Proofs.Store.Count
import Backlog.Proofs.Store.Order
import Backlog.Proofs.Workshop.Calls
import Mathlib.Data.List.Perm.Basic
/-!
# The store in a database and the store in memory

The two stores do almost everything in different ways.  A guarded update in the database does not
look at the life of a task, its index compares the names of kinds and takes a missing fingerprint
for the empty text, and its searches go by three truth values over a column that can be `NULL`.
They agree because of the calls that are made (`StoreCall.IsIssued`): a task is inserted as a
checked submission makes it, a search is by a kind that its name denotes, and each update is made
under a guard that allows only what has the arrow.  A search by another kind of a known name is not
among them, and tells the stores apart (`stores_disagree_on_raw_kind`).

A table corresponds to a store in memory if its records are those of the stored tasks, in whatever
order (`Matches`).  One call is followed in two steps.  On the records of some tasks the statement
does what the store in memory does to the tasks (`exec_records`), and the order of the tasks makes
no difference to the store in memory (`Memory.perform_of_perm`).

What can be sent to a server is a matter of the call and of the clock (`StoreCall.IsSendable`): no
text has the character U+0000, and instants are of whole microseconds and inside the range of a
database.  A limit that does not fit the database's integers is sent as the greatest one, so the
two stores list the same only as long as they hold no more tasks than that.

## Main results

* `exec_records` — one call on the records of some tasks.
* `Matches.exec` — one call on a table and the store it corresponds to.
* `stores_agree` — any sequence of calls, and the calls of any run.
* `search_of_unnamed` — the search that tells the stores apart.
-/

namespace Backlog

namespace StoreCall

/-- The texts of a call. -/
def texts : StoreCall → List String
  | insert t =>
    [t.owner, t.kind.name, t.target, t.creator] ++ t.fingerprint.toList ++ t.error.toList
  | get _ | oldestQueued => []
  | getForOwner owner _ => [owner]
  | findActive k => [k.kind.name, k.owner, k.target] ++ k.fingerprint.toList
  | updateIf _ g u => u.error.toList ++ g.owner.toList
  | failStale _ error => [error]
  | listForOwner owner _ _ => [owner]

/-- The JSON values of a call. -/
def jsons : StoreCall → List Json
  | insert t => t.result.toList
  | updateIf _ _ u => u.result.toList
  | _ => []

/-- The instants of a call. -/
def instants : StoreCall → List Instant
  | insert t => [t.createdAt, t.updatedAt]
  | failStale cutoff _ => [cutoff]
  | _ => []

/-- A call can be sent to a server when the clock reads `now`. -/
@[mk_iff] structure IsSendable (now : Instant) (c : StoreCall) : Prop where
  clock : now.IsStorable
  texts : ∀ s ∈ c.texts, Database.hasNul s = false
  jsons : ∀ j ∈ c.jsons, Database.jsonHasNul j = false
  instants : ∀ t ∈ c.instants, t.IsStorable

instance (now : Instant) (c : StoreCall) : Decidable (c.IsSendable now) :=
  decidable_of_iff' _ (isSendable_iff now c)

/-- The task that an issued insert brings can be kept. -/
theorem IsIssued.isStorable {t : Task} {now : Instant} (h : IsIssued (.insert t))
    (hs : IsSendable now (.insert t)) : t.IsStorable where
  named := h.of_insert.1
  fingerprint := h.of_insert.2
  createdAt := hs.instants _ (by simp [StoreCall.instants])
  updatedAt := hs.instants _ (by simp [StoreCall.instants])

end StoreCall

/-- An update at a moment that can be kept leaves a task that can be kept. -/
theorem Task.IsStorable.apply {t : Task} (h : t.IsStorable) (u : Update) {now : Instant}
    (hnow : now.IsStorable) : (u.apply t now).IsStorable :=
  ⟨h.named, h.fingerprint, h.createdAt, hnow⟩

namespace Database

open Record (ofTask)

variable {us : List Task} {now : Instant} {c : StoreCall}

/-! ## Parameters that are accepted -/

theorem refusal?_text {s : String} (h : hasNul s = false) : (Value.text s).refusal? = none := by
  rw [Value.refusal?, h, if_neg Bool.false_ne_true]

theorem refusal?_textOrNull {s : Option String} (h : ∀ x ∈ s.toList, hasNul x = false) :
    (Value.textOrNull s).refusal? = none := by
  cases s with
  | none => rfl
  | some s => exact refusal?_text (h s List.mem_cons_self)

theorem refusal?_jsonOrNull {j : Option Json} (h : ∀ x ∈ j.toList, jsonHasNul x = false) :
    (Value.jsonOrNull j).refusal? = none := by
  cases j with
  | none => rfl
  | some j =>
      show (if jsonHasNul j then some invalidJson else none) = none
      rw [h j List.mem_cons_self, if_neg Bool.false_ne_true]

theorem refusal?_ofInstant {t : Instant} (h : t.IsStorable) :
    (Value.ofInstant t).refusal? = none :=
  if_pos ⟨h.first, h.last⟩

theorem hasNul_status (s : Status) : hasNul s.name = false := by
  cases s <;> decide

theorem refusal?_statuses (ss : List Status) :
    (Value.texts (ss.map Status.name)).refusal? = none := by
  have hnone : (ss.map Status.name).any hasNul = false := by
    simp only [List.any_map, List.any_eq_false, Function.comp_apply, hasNul_status,
      Bool.false_eq_true, not_false_eq_true, implies_true]
  rw [Value.refusal?, hnone, if_neg Bool.false_ne_true]

/-- The parameters of a call that can be sent are accepted. -/
theorem params_accepted (hs : c.IsSendable now) :
    (Query.ofCall now c).params.findSome? Value.refusal? = none := by
  obtain ⟨hclock, htexts, hjsons, hinstants⟩ := hs
  rw [List.findSome?_eq_none_iff]
  cases c with
  | insert t =>
      simp only [StoreCall.texts, List.mem_append, List.mem_cons, List.not_mem_nil, or_false,
        StoreCall.jsons, StoreCall.instants, forall_eq, or_imp, forall_and]
        at htexts hjsons hinstants
      obtain ⟨⟨⟨howner, hkind, htarget, hcreator⟩, hfingerprint⟩, herror⟩ := htexts
      simp only [Query.ofCall, taskValues, List.forall_mem_cons, List.not_mem_nil,
        false_imp_iff, implies_true, and_true]
      exact ⟨rfl, refusal?_text howner, refusal?_text hkind, refusal?_text htarget,
        refusal?_textOrNull hfingerprint, refusal?_text (hasNul_status _), refusal?_text hcreator,
        refusal?_jsonOrNull hjsons, refusal?_textOrNull herror, refusal?_ofInstant hinstants.1,
        refusal?_ofInstant hinstants.2⟩
  | get id => exact List.forall_mem_singleton.2 rfl
  | getForOwner owner id =>
      have howner := htexts owner List.mem_cons_self
      exact List.forall_mem_cons.2 ⟨rfl, List.forall_mem_singleton.2 (refusal?_text howner)⟩
  | findActive k =>
      simp only [StoreCall.texts, List.mem_append, List.mem_cons, List.not_mem_nil, or_false,
        forall_eq, or_imp, forall_and] at htexts
      obtain ⟨⟨hkind, howner, htarget⟩, hfingerprint⟩ := htexts
      simp only [Query.ofCall, List.forall_mem_cons, List.not_mem_nil, false_imp_iff,
        implies_true, and_true]
      exact ⟨refusal?_text hkind, refusal?_text howner, refusal?_text htarget,
        refusal?_textOrNull hfingerprint⟩
  | oldestQueued => exact fun v hv => (List.not_mem_nil hv).elim
  | updateIf id g u =>
      simp only [StoreCall.texts, StoreCall.jsons, List.mem_append, or_imp, forall_and]
        at htexts hjsons
      simp only [Query.ofCall, List.forall_mem_cons, List.not_mem_nil, false_imp_iff,
        implies_true, and_true]
      exact ⟨refusal?_text (hasNul_status _), refusal?_jsonOrNull hjsons,
        refusal?_textOrNull htexts.1, refusal?_ofInstant hclock, rfl, refusal?_statuses _,
        refusal?_textOrNull htexts.2⟩
  | failStale cutoff error =>
      have herror := htexts error List.mem_cons_self
      have hcutoff := hinstants cutoff List.mem_cons_self
      simp only [Query.ofCall, List.forall_mem_cons, List.not_mem_nil, false_imp_iff,
        implies_true, and_true]
      exact ⟨refusal?_text herror, refusal?_ofInstant hclock, refusal?_ofInstant hcutoff⟩
  | listForOwner owner status limit =>
      have howner := htexts owner List.mem_cons_self
      have hstatus : (Value.textOrNull (status.map Status.name)).refusal? = none := by
        cases status with
        | none => rfl
        | some s => exact refusal?_text (hasNul_status s)
      simp only [Query.ofCall, List.forall_mem_cons, List.not_mem_nil, false_imp_iff,
        implies_true, and_true]
      exact ⟨refusal?_text howner, hstatus, rfl⟩

/-- A call that can be sent is executed. -/
theorem exec_of_sendable (hs : c.IsSendable now) (rows : Table) :
    rows.exec now c =
      ((rows.execute (Query.ofCall now c).params (Query.ofCall now c).statement).1,
        (ask .reachable
          (rows.execute (Query.ofCall now c).params (Query.ofCall now c).statement).2 now
            c).2) := by
  simp only [Table.exec, Table.serve, params_accepted hs]

/-! ## Selections and changes on the records of tasks -/

variable {ps : List Value} {wheres : List Condition} {p : Task → Bool}

/-- Conditions that say of records what `p` says of their tasks select the records of those. -/
theorem filter_records (h : ∀ t ∈ us, Condition.allHold ps wheres (ofTask t) = p t) :
    (records us).filter (Condition.allHold ps wheres) = records (us.filter p) := by
  rw [records, List.filter_map, records]
  exact congrArg _ (List.filter_congr h)

/-- A selection without a limit. -/
theorem answer_records (h : ∀ t ∈ us, Condition.allHold ps wheres (ofTask t) = p t) :
    (records us).answer ps wheres none = records (us.filter p) :=
  filter_records h

/-- A selection with a limit is in the order of the queue. -/
theorem answer_records_limit (hus : ∀ t ∈ us, t.IsStorable)
    (h : ∀ t ∈ us, Condition.allHold ps wheres (ofTask t) = p t) (limit : Limit) :
    (records us).answer ps wheres (some limit) =
      limit.cut ps (records (Memory.inOrder (us.filter p))) := by
  have hkept : ∀ t ∈ us.filter p, t.IsStorable := fun t ht => hus t (List.mem_filter.1 ht).1
  rw [Table.answer, filter_records h, mergeSort_records hkept]

/-- A statement that leaves the records of tasks that are apart is carried out. -/
theorem settle_of_apart {ts : List Task} (hts : ∀ t ∈ ts, t.IsStorable) (h : Memory.Apart ts)
    (rows : Table) (n : Nat) : rows.settle (records ts) n = (records ts, .done [] n) := by
  rw [Table.settle, breach?_of_apart hts h]

/-- A statement that would leave the records of tasks that are not apart is refused. -/
theorem settle_of_not_apart {ts : List Task} (hts : ∀ t ∈ ts, t.IsStorable)
    (h : ¬ Memory.Apart ts) (rows : Table) (n : Nat) :
    rows.settle (records ts) n = (rows, refusal uniqueViolation) := by
  rw [Table.settle, breach?_of_not_apart hts h]

/-- An update that assigns to the records what `u` makes of their tasks changes the records of
those that `p` selects. -/
theorem execute_update {u : Update} {sets : List (Column × Term)}
    (h : ∀ t ∈ us, Condition.allHold ps wheres (ofTask t) = p t)
    (hsets : ∀ t, (ofTask t).assign ps sets = ofTask (u.apply t now))
    (hstorable : ∀ t ∈ us.map fun t => if p t = true then u.apply t now else t, t.IsStorable)
    (hapart : Memory.Apart (us.map fun t => if p t = true then u.apply t now else t)) :
    (records us).execute ps (.update sets wheres) =
      (records (us.map fun t => if p t = true then u.apply t now else t),
        .done [] (us.countP p)) := by
  have hrows : ((records us).map fun r =>
      if Condition.allHold ps wheres r = true then r.assign ps sets else r) =
        records (us.map fun t => if p t = true then u.apply t now else t) := by
    rw [records, records, List.map_map, List.map_map]
    refine List.map_congr_left fun t ht => ?_
    show (if Condition.allHold ps wheres (ofTask t) = true then (ofTask t).assign ps sets
      else ofTask t) = ofTask (if p t = true then u.apply t now else t)
    rw [h t ht, hsets, apply_ite ofTask]
  have hcount : (records us).countP (Condition.allHold ps wheres) = us.countP p := by
    rw [records, List.countP_map]
    exact List.countP_congr fun t ht => by rw [Function.comp_apply, h t ht]
  rw [Table.execute, hrows, hcount, settle_of_apart hstorable hapart]

/-! ## One call on the records of some tasks -/

/-- Tasks that are apart stay so with one more exactly if they do not bar it. -/
theorem apart_append_iff (h : Memory.Apart us) {t : Task} :
    Memory.Apart (us ++ [t]) ↔ ¬ Memory.Bars us t := by
  refine ⟨fun happend => ?_, fun hfree => h.effect (.add hfree)⟩
  have hlast : t ∈ us ++ [t] := List.mem_append_right us List.mem_cons_self
  have hdisjoint := (List.nodup_append.1 (happend.ids.of_map Task.id)).2.2
  rintro (⟨u, hu, hid⟩ | ⟨hactive, u, hu, huactive, hkey⟩)
  · have hmem := List.mem_append_left [t] hu
    exact hdisjoint u hu t List.mem_cons_self (happend.eq_of_id hmem hlast hid)
  · have hmem := List.mem_append_left [t] hu
    exact hdisjoint u hu t List.mem_cons_self
      (happend.eq_of_key hmem hlast huactive hactive hkey)

/-- What an issued call leaves can be kept, if all there was can. -/
theorem storable_perform {m : Memory} (h : ∀ t ∈ m.tasks, t.IsStorable) (hc : c.IsIssued)
    (hs : c.IsSendable now) : ∀ t ∈ (m.perform now c).1, t.IsStorable := by
  cases c with
  | insert t =>
      simp only [Memory.perform]
      cases m.collision? t with
      | some e => exact h
      | none => exact List.forall_mem_append.2 ⟨h, List.forall_mem_singleton.2 (hc.isStorable hs)⟩
  | updateIf id g u =>
      intro t ht
      obtain ⟨t', ht', rfl⟩ := List.mem_map.1 ht
      split
      · exact (h t' ht').apply u hs.clock
      · exact h t' ht'
  | failStale cutoff error =>
      intro t ht
      obtain ⟨t', ht', rfl⟩ := List.mem_map.1 ht
      split
      · exact (h t' ht').apply _ hs.clock
      · exact h t' ht'
  | _ => exact h

theorem exec_insert (hus : ∀ t ∈ us, t.IsStorable) (hapart : Memory.Apart us) {t : Task}
    (ht : t.IsStorable) (hs : (StoreCall.insert t).IsSendable now) :
    ((records us).exec now (.insert t)).1 =
        records ((Memory.mk us true).perform now (.insert t)).1 ∧
      SameReply ((records us).exec now (.insert t)).2
        ((Memory.mk us true).perform now (.insert t)).2 := by
  have hall : ∀ v ∈ us ++ [t], v.IsStorable :=
    List.forall_mem_append.2 ⟨hus, List.forall_mem_singleton.2 ht⟩
  have hrows : records us ++ [Record.ofValues (taskValues t)] = records (us ++ [t]) := by
    rw [records, records, List.map_append, Record.ofValues_taskValues, List.map_singleton]
  have hexec : (records us).execute (taskValues t) .insert =
      (records us).settle (records (us ++ [t])) 1 := by
    rw [Table.execute, hrows]
  rw [exec_of_sendable hs]
  simp only [Query.ofCall, hexec, Memory.perform]
  cases hcollision : (Memory.mk us true).collision? t with
  | none =>
      have hfree := Memory.collision?_eq_none_iff.1 hcollision
      rw [settle_of_apart hall ((apart_append_iff hapart).2 hfree)]
      exact ⟨rfl, .ok ()⟩
  | some e =>
      have hbars : ¬ Memory.Apart (us ++ [t]) := by
        intro happend
        have hfree := (apart_append_iff hapart).1 happend
        rw [Memory.collision?_eq_none_iff.2 hfree] at hcollision
        cases hcollision
      obtain ⟨reason, rfl⟩ := Memory.conflict_of_collision hcollision
      rw [settle_of_not_apart hall hbars]
      exact ⟨rfl, .conflict _ _⟩

theorem exec_get (hus : ∀ t ∈ us, t.IsStorable) {id : TaskId}
    (hs : (StoreCall.get id).IsSendable now) :
    (records us).exec now (.get id) = (records us, .ok (us.find? fun t => t.id == id)) := by
  have hholds : ∀ t ∈ us,
      Condition.allHold [.uuid id] [.matchesParam .id 1] (ofTask t) = (t.id == id) := by
    intro t _
    rw [Bool.eq_iff_iff, Condition.allHold, List.all_cons, List.all_nil, Bool.and_true,
      Condition.holds_matchesId rfl, beq_iff_eq]
  have hkept : ∀ t ∈ us.filter fun t => t.id == id, t.IsStorable :=
    fun t ht => hus t (List.mem_filter.1 ht).1
  rw [exec_of_sendable hs]
  show (records us, readFirst (((records us).answer [.uuid id] [.matchesParam .id 1] none).map
    Record.row)) = _
  rw [answer_records hholds, readFirst_rows hkept, List.head?_filter]

/-- Under distinct identifiers a search by identifier and owner looks at one task. -/
theorem find?_and_owner (hids : (us.map Task.id).Nodup) (id : TaskId) (owner : String) :
    us.find? (fun t => t.id == id && t.owner == owner) =
      (us.find? fun t => t.id == id).filter fun t => t.owner == owner := by
  cases hf : us.find? fun t => t.id == id with
  | none =>
      rw [Option.filter_none, List.find?_eq_none]
      intro t ht hboth
      rw [Bool.and_eq_true] at hboth
      exact List.find?_eq_none.1 hf t ht hboth.1
  | some u =>
      obtain ⟨hu, hid⟩ := (Memory.find?_eq_some_iff_of_nodup hids).1 hf
      have honly : ∀ t ∈ us, t.id = id → t = u :=
        fun t ht hti => List.inj_on_of_nodup_map hids ht hu (hti.trans hid.symm)
      by_cases howner : u.owner = owner
      · rw [Option.filter_some, if_pos (beq_iff_eq.2 howner)]
        cases hb : us.find? fun t => t.id == id && t.owner == owner with
        | none =>
            have hnot := List.find?_eq_none.1 hb u hu
            rw [hid, howner, beq_self_eq_true, beq_self_eq_true] at hnot
            exact absurd rfl hnot
        | some v =>
            have hv := List.find?_some hb
            rw [Bool.and_eq_true, beq_iff_eq] at hv
            rw [honly v (List.mem_of_find?_eq_some hb) hv.1]
      · rw [Option.filter_some, if_neg (mt beq_iff_eq.1 howner), List.find?_eq_none]
        intro t ht hboth
        rw [Bool.and_eq_true, beq_iff_eq, beq_iff_eq] at hboth
        rw [honly t ht hboth.1] at hboth
        exact howner hboth.2

theorem exec_getForOwner (hus : ∀ t ∈ us, t.IsStorable) (hapart : Memory.Apart us)
    {owner : String} {id : TaskId} (hs : (StoreCall.getForOwner owner id).IsSendable now) :
    (records us).exec now (.getForOwner owner id) =
      (records us, .ok ((us.find? fun t => t.id == id).filter fun t => t.owner == owner)) := by
  have hholds : ∀ t ∈ us,
      Condition.allHold [.uuid id, .text owner] [.matchesParam .id 1, .matchesParam .owner 2]
        (ofTask t) = (t.id == id && t.owner == owner) := by
    intro t _
    rw [Bool.eq_iff_iff, Condition.allHold, List.all_cons, List.all_cons, List.all_nil,
      Bool.and_true, Bool.and_eq_true, Bool.and_eq_true, Condition.holds_matchesId rfl,
      Condition.holds_matchesText (a := t.owner) rfl rfl, beq_iff_eq, beq_iff_eq]
  have hkept : ∀ t ∈ us.filter fun t => t.id == id && t.owner == owner, t.IsStorable :=
    fun t ht => hus t (List.mem_filter.1 ht).1
  rw [exec_of_sendable hs]
  show (records us, readFirst (((records us).answer [.uuid id, .text owner]
    [.matchesParam .id 1, .matchesParam .owner 2] none).map Record.row)) = _
  rw [answer_records hholds, readFirst_rows hkept, List.head?_filter,
    find?_and_owner hapart.ids]

/-- Of sorted tasks, a limit of one leaves the first. -/
theorem head?_take_inOrder {ts : List Task} (hids : (ts.map Task.id).Nodup) :
    ((Memory.inOrder ts).take 1).head? = Memory.earliest? ts := by
  rw [Memory.earliest?_eq_head? hids]
  cases Memory.inOrder ts <;> rfl

/-- The rows of a selection that is limited to one denote the first of the selected tasks. -/
theorem readFirst_limited (hus : ∀ t ∈ us, t.IsStorable) (hapart : Memory.Apart us)
    (h : ∀ t ∈ us, Condition.allHold ps wheres (ofTask t) = p t) :
    readFirst (((records us).answer ps wheres (some (.count 1))).map Record.row) =
      .ok (Memory.earliest? (us.filter p)) := by
  have hkept : ∀ t ∈ (Memory.inOrder (us.filter p)).take 1, t.IsStorable := by
    intro t ht
    have hmem := (Memory.inOrder_perm _).mem_iff.1 (List.mem_of_mem_take ht)
    exact hus t (List.mem_filter.1 hmem).1
  rw [answer_records_limit hus h]
  show readFirst (((Memory.inOrder (us.filter p)).map ofTask |>.take 1).map Record.row) = _
  rw [← List.map_take]
  show readFirst ((records ((Memory.inOrder (us.filter p)).take 1)).map Record.row) = _
  rw [readFirst_rows hkept, head?_take_inOrder (Memory.nodup_ids_filter hapart.ids p)]

theorem exec_findActive (hus : ∀ t ∈ us, t.IsStorable) (hapart : Memory.Apart us) {k : WorkKey}
    (hk : k.kind.isNamed = true) (hs : (StoreCall.findActive k).IsSendable now) :
    (records us).exec now (.findActive k) =
      (records us,
        .ok (Memory.earliest? (us.filter fun t => t.status.isActive && k.finds t))) := by
  have hholds : ∀ t ∈ us,
      Condition.allHold
        [.text k.kind.name, .text k.owner, .text k.target, .textOrNull k.fingerprint]
        [ .matchesParam .kind 1, .matchesParam .owner 2, .matchesParam .target 3, .isActive,
          .matchesIfGiven .fingerprint 4 ] (ofTask t) = (t.status.isActive && k.finds t) := by
    intro t ht
    rw [Bool.eq_iff_iff, Bool.and_eq_true, WorkKey.finds_iff]
    simp only [Condition.allHold, List.all_cons, List.all_nil, Bool.and_true, Bool.and_eq_true]
    rw [Condition.holds_matchesText (a := t.kind.name) rfl rfl,
      Condition.holds_matchesText (a := t.owner) rfl rfl,
      Condition.holds_matchesText (a := t.target) rfl rfl, Condition.holds_isActive,
      Condition.holds_matchesIfGiven (a := t.fingerprint) (b := k.fingerprint) rfl rfl,
      TaskKind.eq_of_name_eq (hus t ht).named hk]
    exact ⟨fun ⟨hkind, howner, htarget, hactive, hf⟩ => ⟨hactive, hkind, howner, htarget, hf⟩,
      fun ⟨hactive, hkind, howner, htarget, hf⟩ => ⟨hkind, howner, htarget, hactive, hf⟩⟩
  rw [exec_of_sendable hs]
  exact congrArg _ (readFirst_limited hus hapart hholds)

theorem exec_oldestQueued (hus : ∀ t ∈ us, t.IsStorable) (hapart : Memory.Apart us)
    (hs : StoreCall.oldestQueued.IsSendable now) :
    (records us).exec now .oldestQueued =
      (records us, .ok (Memory.earliest? (us.filter fun t => t.status == .queued))) := by
  have hholds : ∀ t ∈ us,
      Condition.allHold [] [.hasStatus .queued] (ofTask t) = (t.status == .queued) := by
    intro t _
    rw [Bool.eq_iff_iff, Condition.allHold, List.all_cons, List.all_nil, Bool.and_true,
      Condition.holds_hasStatus, beq_iff_eq]
  rw [exec_of_sendable hs]
  exact congrArg _ (readFirst_limited hus hapart hholds)

theorem exec_updateIf (hus : ∀ t ∈ us, t.IsStorable) (hapart : Memory.Apart us) {id : TaskId}
    {g : Guard} {u : Update} (hc : (StoreCall.updateIf id g u).IsIssued)
    (hs : (StoreCall.updateIf id g u).IsSendable now) :
    (records us).exec now (.updateIf id g u) =
      (records (Memory.updated us id g u now), .ok (Memory.changes us id g u)) := by
  have hholds : ∀ t ∈ us,
      Condition.allHold
        [ .text u.status.name, .jsonOrNull u.result, .textOrNull u.error, .ofInstant now, .uuid id,
          .texts (g.expected.map Status.name), .textOrNull g.owner ]
        [.matchesParam .id 5, .memberOf (.column .status) 6, .matchesIfGiven .owner 7]
        (ofTask t) = decide (t.id = id ∧ u.mayChange g t = true) := by
    intro t _
    rw [Bool.eq_iff_iff, decide_eq_true_eq, hc.mayChange_eq, Guard.allows_iff]
    simp only [Condition.allHold, List.all_cons, List.all_nil, Bool.and_true, Bool.and_eq_true]
    rw [Condition.holds_matchesId rfl, Condition.holds_memberOf rfl,
      Condition.holds_matchesIfGiven (a := some t.owner) (b := g.owner) rfl rfl,
      eq_comm (b := g.owner)]
  have hupdated : Memory.updated us id g u now = us.map fun t =>
      if decide (t.id = id ∧ u.mayChange g t = true) = true then u.apply t now else t := by
    simp only [Memory.updated, decide_eq_true_eq]
  have hafter : ∀ t ∈ Memory.updated us id g u now, t.IsStorable :=
    storable_perform (m := ⟨us, true⟩) hus hc hs
  have hapartAfter : Memory.Apart (Memory.updated us id g u now) :=
    hapart.effect (.rewrite (Memory.advances_updated id g u now))
  rw [hupdated] at hafter hapartAfter ⊢
  rw [exec_of_sendable hs, Memory.changes_eq_countP hapart.ids]
  simp only [Query.ofCall]
  rw [execute_update hholds (fun t => by funext c; cases c <;> rfl) hafter hapartAfter]
  rfl

theorem exec_failStale (hus : ∀ t ∈ us, t.IsStorable) (hapart : Memory.Apart us)
    {cutoff : Instant} {error : String} (hc : (StoreCall.failStale cutoff error).IsIssued)
    (hs : (StoreCall.failStale cutoff error).IsSendable now) :
    (records us).exec now (.failStale cutoff error) =
      (records (us.map fun t =>
          if Memory.isStale cutoff t = true then (Update.fail error).apply t now else t),
        .ok (us.countP (Memory.isStale cutoff))) := by
  have hholds : ∀ t ∈ us,
      Condition.allHold [.text error, .ofInstant now, .ofInstant cutoff]
        [.hasStatus .processing, .less (.column .updatedAt) (.param 3)] (ofTask t) =
        Memory.isStale cutoff t := by
    intro t ht
    have hcutoff := hs.instants cutoff List.mem_cons_self
    rw [Bool.eq_iff_iff, Memory.isStale, Bool.and_eq_true, beq_iff_eq]
    simp only [Condition.allHold, List.all_cons, List.all_nil, Bool.and_true, Bool.and_eq_true]
    rw [Condition.holds_hasStatus, Condition.holds_updatedBefore (hus t ht).updatedAt hcutoff rfl]
  have hafter := storable_perform (m := ⟨us, true⟩) hus hc hs
  have hapartAfter := hapart.effect (.rewrite (Memory.advances_swept cutoff error now))
  rw [exec_of_sendable hs]
  simp only [Query.ofCall]
  rw [execute_update hholds (fun t => by funext c; cases c <;> rfl) hafter hapartAfter]
  rfl

/-- A limit beyond the greatest one of the database is none to fewer tasks. -/
theorem cut_records {ts : List Task} (h : ts.length ≤ limitCeiling) (limit : Nat) :
    (records ts).take (min (limit : Int) limitCeiling).toNat = records (ts.take limit) := by
  have hmin : (min (limit : Int) limitCeiling).toNat = min limit limitCeiling := by omega
  rw [hmin, records, ← List.map_take, records]
  congr 1
  rw [List.take_eq_take_iff]
  omega

theorem exec_listForOwner (hus : ∀ t ∈ us, t.IsStorable) {owner : String}
    {status : Option Status} {limit : Nat} (hroom : us.length ≤ limitCeiling)
    (hs : (StoreCall.listForOwner owner status limit).IsSendable now) :
    (records us).exec now (.listForOwner owner status limit) =
      (records us, .ok ((Memory.inOrder (us.filter fun t =>
        t.owner == owner && (status.isNone || status == some t.status))).take limit)) := by
  have hholds : ∀ t ∈ us,
      Condition.allHold
        [.text owner, .textOrNull (status.map Status.name), .integer (min limit limitCeiling)]
        [.matchesParam .owner 1, .matchesIfGiven .status 2] (ofTask t) =
        (t.owner == owner && (status.isNone || status == some t.status)) := by
    intro t _
    have hstatus : status.map Status.name = none ∨ some t.status.name = status.map Status.name ↔
        status = none ∨ status = some t.status := by
      cases status with
      | none => simp
      | some s => simp [Status.name_inj, eq_comm]
    rw [Bool.eq_iff_iff, Bool.and_eq_true, Bool.or_eq_true, beq_iff_eq, Option.isNone_iff_eq_none,
      beq_iff_eq, ← hstatus]
    simp only [Condition.allHold, List.all_cons, List.all_nil, Bool.and_true, Bool.and_eq_true]
    rw [Condition.holds_matchesText (a := t.owner) rfl rfl,
      Condition.holds_matchesIfGiven (a := some t.status.name) rfl rfl]
  have hsorted := Memory.inOrder_perm
    (us.filter fun t => t.owner == owner && (status.isNone || status == some t.status))
  have hlength := hsorted.length_eq
  have hfiltered := List.length_filter_le
    (fun t => t.owner == owner && (status.isNone || status == some t.status)) us
  have hanswer := answer_records_limit hus hholds (.param 3)
  have hcut := cut_records (Nat.le_trans hlength.le (Nat.le_trans hfiltered hroom)) limit
  have hkept : ∀ t ∈ (Memory.inOrder (us.filter fun t =>
      t.owner == owner && (status.isNone || status == some t.status))).take limit,
      t.IsStorable := by
    intro t ht
    have hmem := hsorted.mem_iff.1 (List.mem_of_mem_take ht)
    exact hus t (List.mem_filter.1 hmem).1
  rw [exec_of_sendable hs]
  show (records us, (((records us).answer
    [.text owner, .textOrNull (status.map Status.name), .integer (min limit limitCeiling)]
    [.matchesParam .owner 1, .matchesIfGiven .status 2] (some (.param 3))).map
      Record.row).mapM readTask) = _
  rw [hanswer]
  show (records us, (((records (Memory.inOrder (us.filter _))).take
    (min (limit : Int) limitCeiling).toNat).map Record.row).mapM readTask) = _
  rw [hcut, mapM_readTask hkept]

/-- **One call on the records of some tasks.**  The statement does to the records what the store in
memory does to the tasks. -/
theorem exec_records (hus : ∀ t ∈ us, t.IsStorable) (hapart : Memory.Apart us)
    (hroom : us.length ≤ limitCeiling) (hc : c.IsIssued) (hs : c.IsSendable now) :
    ((records us).exec now c).1 = records ((Memory.mk us true).perform now c).1 ∧
      SameReply ((records us).exec now c).2 ((Memory.mk us true).perform now c).2 := by
  cases c with
  | insert t => exact exec_insert hus hapart (hc.isStorable hs) hs
  | get id =>
      rw [exec_get hus hs]
      exact ⟨rfl, .ok _⟩
  | getForOwner owner id =>
      rw [exec_getForOwner hus hapart hs]
      exact ⟨rfl, .ok _⟩
  | findActive k =>
      rw [exec_findActive hus hapart hc.of_findActive hs]
      exact ⟨rfl, .ok _⟩
  | oldestQueued =>
      rw [exec_oldestQueued hus hapart hs]
      exact ⟨rfl, .ok _⟩
  | updateIf id g u =>
      rw [exec_updateIf hus hapart hc hs]
      exact ⟨rfl, .ok _⟩
  | failStale cutoff error =>
      rw [exec_failStale hus hapart hc hs]
      exact ⟨rfl, .ok _⟩
  | listForOwner owner status limit =>
      rw [exec_listForOwner hus hroom hs]
      exact ⟨rfl, .ok _⟩

/-! ## A table and the store it corresponds to -/

/-- A table holds the records of the tasks of a store, in whatever order. -/
structure Matches (rows : Table) (m : Memory) : Prop where
  online : m.online = true
  rows : rows.Perm (records m.tasks)
  storable : ∀ t ∈ m.tasks, t.IsStorable
  apart : Memory.Apart m.tasks

theorem matches_empty : Matches [] Memory.empty where
  online := rfl
  rows := .nil
  storable := fun _ ht => (List.not_mem_nil ht).elim
  apart := .nil

/-- Rearranged records are the records of rearranged tasks. -/
theorem exists_records {rows : Table} {ts : List Task} (h : rows.Perm (records ts)) :
    ∃ us, us.Perm ts ∧ rows = records us := by
  have hcomp : Relation.Comp (fun a b => a = records b) List.Perm rows ts := by
    rw [show (fun a b => a = records b) = fun a b => a = List.map ofTask b from rfl,
      List.eq_map_comp_perm]
    exact h
  obtain ⟨us, hrows, hperm⟩ := hcomp
  exact ⟨us, hperm, hrows⟩

/-- An issued call is answered alike, and the table corresponds to the store after it. -/
theorem Matches.exec {rows : Table} {m : Memory} (h : Matches rows m)
    (hroom : m.tasks.length ≤ limitCeiling) (hc : c.IsIssued) (hs : c.IsSendable now) :
    SameReply (rows.exec now c).2 (m.exec now c).2 ∧
      Matches (rows.exec now c).1 (m.exec now c).1 := by
  obtain ⟨us, hperm, rfl⟩ := exists_records h.rows
  have hus : ∀ t ∈ us, t.IsStorable := fun t ht => h.storable t (hperm.mem_iff.1 ht)
  have hids : (us.map Task.id).Nodup := Memory.nodup_ids_of_perm h.apart.ids hperm.symm
  have hapart : Memory.Apart us := by
    refine ⟨hids, ?_⟩
    refine hperm.symm.pairwise h.apart.keys ?_
    intro t u htu hu ht heq
    exact htu ht hu heq.symm
  have hlength : us.length ≤ limitCeiling := hperm.length_eq ▸ hroom
  obtain ⟨hrecords, hreply⟩ := exec_records hus hapart hlength hc hs
  obtain ⟨htasks, hsame⟩ := Memory.perform_of_perm (m := ⟨us, true⟩) (n := m) hids hperm now c
  rw [Memory.exec_of_online h.online]
  refine ⟨hreply.trans hsame, h.online, ?_, ?_, ?_⟩
  · rw [hrecords]
    exact htasks.map ofTask
  · exact storable_perform h.storable hc hs
  · exact h.apart.effect (Memory.effect_perform m now c)

/-- A search by a key whose kind no name denotes finds nothing in memory, while the database looks
for the kind that has the name. -/
theorem search_of_unnamed {rows : Table} {m : Memory} (h : Matches rows m) (now : Instant)
    {k : WorkKey} (hk : k.kind.isNamed = false) :
    (m.exec now (.findActive k)).2 = .ok none ∧
      (rows.exec now (.findActive k)).2 =
        (rows.exec now (.findActive { k with kind := TaskKind.ofName k.kind.name })).2 := by
  have hnone : m.tasks.filter (fun t => t.status.isActive && k.finds t) = [] := by
    rw [List.filter_eq_nil_iff]
    intro t ht hmatch
    have hkind := (WorkKey.finds_iff.1 (Bool.and_eq_true_iff.1 hmatch).2).1
    have hnamed := (h.storable t ht).named
    rw [hkind, hk] at hnamed
    cases hnamed
  constructor
  · rw [Memory.exec_of_online h.online]
    show Except.ok (Memory.earliest? (m.tasks.filter fun t => t.status.isActive && k.finds t)) = _
    rw [hnone]
    rfl
  · have hquery : Query.ofCall now (.findActive { k with kind := TaskKind.ofName k.kind.name }) =
        Query.ofCall now (.findActive k) := by
      simp only [Query.ofCall, TaskKind.name_ofName]
    simp only [Table.exec, ask, hquery, answerOf]

/-- A call adds one task at most. -/
theorem length_exec_le (m : Memory) (now : Instant) (c : StoreCall) :
    (m.exec now c).1.tasks.length ≤ m.tasks.length + 1 := by
  have heffect := Memory.effect_exec m now c
  generalize (m.exec now c).1.tasks = ts at heffect
  cases heffect with
  | keep => exact Nat.le_succ _
  | add _ => rw [List.length_append, List.length_singleton]
  | rewrite _ =>
      rw [List.length_map]
      exact Nat.le_succ _

/-- Some calls, each at its reading of the clock, are answered alike by a table and a store, and the
two correspond before and after each; before each the server may have its rows in another order. -/
def Agree (rows : Table) (m : Memory) : List (Instant × StoreCall) → Prop
  | [] => Matches rows m
  | (now, c) :: cs =>
    Matches rows m ∧ ∀ arranged : Table, arranged.Perm rows →
      SameReply (arranged.exec now c).2 (m.exec now c).2 ∧
        Agree (arranged.exec now c).1 (m.exec now c).1 cs

/-- Calls of the list that can be sent to a server are answered alike, one after the other. -/
theorem agree_of_issued {rows : Table} {m : Memory} (h : Matches rows m)
    {cs : List (Instant × StoreCall)} (hroom : m.tasks.length + cs.length ≤ limitCeiling)
    (hissued : ∀ e ∈ cs, e.2.IsIssued) (hsendable : ∀ e ∈ cs, e.2.IsSendable e.1) :
    Agree rows m cs := by
  induction cs generalizing rows m with
  | nil => exact h
  | cons e cs ih =>
      obtain ⟨now, c⟩ := e
      refine ⟨h, fun arranged harranged => ?_⟩
      have hmatches : Matches arranged m :=
        ⟨h.online, harranged.trans h.rows, h.storable, h.apart⟩
      have hlength : m.tasks.length + (cs.length + 1) ≤ limitCeiling := hroom
      have hgrows := length_exec_le m now c
      obtain ⟨hreply, hafter⟩ := hmatches.exec (by omega)
        (hissued (now, c) List.mem_cons_self) (hsendable (now, c) List.mem_cons_self)
      refine ⟨hreply, ih hafter (by omega) ?_ ?_⟩
      · exact fun e he => hissued e (List.mem_cons_of_mem _ he)
      · exact fun e he => hsendable e (List.mem_cons_of_mem _ he)

/-- **The stores agree.**  A table and a store in memory that correspond, and hold no more tasks
than the database can count, are asked the same calls at the same readings of the clock: calls that
the service and the engine make, and that can be sent to a server.  They give the same answers, a
conflict for a conflict, and correspond after every call, in whatever order the server comes across
its rows.  The calls of a run, whoever takes part in it and in whatever order, are such calls. -/
theorem stores_agree (H : Type) {rows : Table} {m : Memory} (h : Matches rows m) :
    (∀ cs : List (Instant × StoreCall), m.tasks.length + cs.length ≤ limitCeiling →
      (∀ e ∈ cs, e.2.IsIssued) → (∀ e ∈ cs, e.2.IsSendable e.1) → Agree rows m cs) ∧
    ∀ xs : List (Happening H),
      let cs := (Workshop.opened m).calls xs
      m.tasks.length + cs.length ≤ limitCeiling → (∀ e ∈ cs, e.2.IsSendable e.1) →
        Agree rows m cs := by
  constructor
  · intro cs hroom hissued hsendable
    exact agree_of_issued h hroom hissued hsendable
  · intro xs cs hroom hsendable
    exact agree_of_issued h hroom (Workshop.calls_issued m xs) hsendable

/-! ## One invoice -/

open Workshop (idOf invoiceForm invoiceRegistry opened)

/-- A checked submission of one invoice. -/
def invoiceSubmission : Submission := ⟨.invoiceOcr, "u1", "u1", "inv1", none⟩

theorem isChecked_invoiceSubmission : invoiceSubmission.IsChecked :=
  ⟨invoiceForm, by decide +kernel⟩

/-- The invoice is submitted twice at once, and the one task that is taken is carried out. -/
def invoiceCalls : List (Instant × StoreCall) :=
  [ (.epoch, .findActive invoiceSubmission.key),
    (.epoch, .insert (invoiceSubmission.task (idOf 1) .epoch)),
    (.epoch, .insert (invoiceSubmission.task (idOf 2) .epoch)),
    (.epoch, .oldestQueued),
    (.epoch, .updateIf (idOf 1) (Guard.status .queued) Update.claim),
    (.epoch, .updateIf (idOf 1) (Guard.status .processing)
      (Attempt.verdictUpdate (.ok (.str "12.50")))),
    (.epoch, .listForOwner "u1" none 20) ]

/-- Two who submit the invoice at once, and an attempt that carries it out. -/
def invoiceRun : List (Happening Unit) :=
  [ .arrive (.submit invoiceForm), .arrive (.submit invoiceForm),
    .arrive (.attempt invoiceRegistry),
    .turn 0 .epoch (idOf 1) none, .turn 1 .epoch (idOf 2) none,
    .turn 0 .epoch (idOf 3) none, .turn 1 .epoch (idOf 3) none, .turn 1 .epoch (idOf 3) none,
    .turn 2 .epoch (idOf 3) none, .turn 2 .epoch (idOf 3) none, .turn 2 .epoch (idOf 3) none,
    .finish 2 (.returned (.str "12.50")), .turn 2 .epoch (idOf 3) none ]

/-- The two stores agree on one invoice, from the start: call by call, and on the nine calls of a
run. -/
theorem stores_agree_on_invoice :
    Agree [] Memory.empty invoiceCalls ∧
      Agree [] Memory.empty (Workshop.calls (opened Memory.empty) invoiceRun) ∧
      (Workshop.calls (opened Memory.empty) invoiceRun).length = 9 := by
  obtain ⟨hcalls, hrun⟩ := stores_agree Unit matches_empty
  refine ⟨hcalls invoiceCalls (by decide) ?_ (by decide +kernel),
    hrun invoiceRun (by decide +kernel) (by decide +kernel), by decide +kernel⟩
  simp only [invoiceCalls, List.forall_mem_cons, List.not_mem_nil, false_imp_iff, implies_true,
    and_true]
  exact ⟨.findActive rfl, .insert isChecked_invoiceSubmission _ _,
    .insert isChecked_invoiceSubmission _ _, .oldestQueued, .claim _, .complete _ _,
    .listForOwner _ _ _⟩

/-- The key of the invoice, but with another kind of the same name. -/
def rawKey : WorkKey := { invoiceSubmission.key with kind := .custom "invoice_ocr" }

/-- The invoice comes in, and somebody searches by that key. -/
def rawCalls : List (Instant × StoreCall) :=
  [ (.epoch, .insert (invoiceSubmission.task (idOf 1) .epoch)), (.epoch, .findActive rawKey) ]

/-- **A search that tells the stores apart.**  The table has the task of the invoice for a key that
only shares the name of its kind; the store in memory has none. -/
theorem stores_disagree_on_raw_kind :
    let t := invoiceSubmission.task (idOf 1) .epoch
    let m := (Memory.empty.exec .epoch (.insert t)).1
    let rows := (Table.exec [] .epoch (.insert t)).1
    (∀ e ∈ rawCalls, e.2.IsSendable e.1) ∧
      (m.exec .epoch (.findActive rawKey)).2 = .ok none ∧
      (rows.exec .epoch (.findActive rawKey)).2 = .ok (some t) ∧
      ¬ Agree [] Memory.empty rawCalls := by
  intro t m rows
  have hsendable : ∀ e ∈ rawCalls, e.2.IsSendable e.1 := by decide +kernel
  have hinsert : (StoreCall.insert t).IsSendable .epoch :=
    hsendable (.epoch, .insert t) List.mem_cons_self
  have hsearch : (StoreCall.findActive invoiceSubmission.key).IsSendable .epoch := by
    decide +kernel
  have hmatches : Matches rows m :=
    (matches_empty.exec (by decide) (.insert isChecked_invoiceSubmission _ _) hinsert).2
  have hraw : rawKey.kind.isNamed = false := by decide
  obtain ⟨hnone, hnamed⟩ := search_of_unnamed hmatches .epoch hraw
  have hfound : (rows.exec .epoch (.findActive rawKey)).2 = .ok (some t) := by
    have hsame := (hmatches.exec (by decide) (.findActive rfl) hsearch).1
    exact hnamed.trans (hsame.eq_ok rfl)
  refine ⟨hsendable, hnone, hfound, fun hagree => ?_⟩
  have hsame := ((hagree.2 [] (.refl _)).2.2 rows (.refl _)).1
  rw [hfound, hnone] at hsame
  cases hsame

end Database

end Backlog
