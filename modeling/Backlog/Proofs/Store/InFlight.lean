import Backlog.Proofs.Distinct
import Backlog.Proofs.Store.History
/-!
# One task in flight for each key

Only `insert` looks at keys, and it looks at the tasks that are in flight at that moment.  That it
suffices rests on the life of a task: an update or a sweep may end a task or move it on, but what
is in flight after it was in flight before it, under the same key.  So no other call can bring a
second task of a key into flight, whatever guard and update it is made with.

`Memory.Apart` is the invariant: stored tasks differ in their identifiers, and those in flight
differ in their keys.  Every effect of a call keeps it (`Apart.effect`), so it holds after every
history of the empty store.

## Main results

* `Effect.nodup_ids` — identifiers stay distinct.
* `Apart.effect`, `apart_after` — the invariant of one call and of a history.
* `Apart.frees` — a task that has ended no longer bars its key.
* `one_in_flight_per_key` — the invariant, and what it makes of the answer to an insert.
-/

namespace Backlog

namespace Memory

/-! ## Distinct identifiers -/

/-- Under distinct identifiers a search finds a task exactly if it is there. -/
theorem find?_eq_some_iff_of_nodup {ts : List Task} (hids : (ts.map Task.id).Nodup) {id : TaskId}
    {t : Task} :
    ts.find? (fun u => u.id == id) = some t ↔ t ∈ ts ∧ t.id = id :=
  find?_key_iff hids

/-- An update that counts no row leaves the store as it was. -/
theorem updateIf_zero {m : Memory} (hids : (m.tasks.map Task.id).Nodup) {now : Instant}
    {fault : Option StoreError} {id : TaskId} {g : Guard} {u : Update}
    (hreply : (m.answer now fault (.updateIf id g u)).2 = .ok 0) :
    (m.answer now fault (.updateIf id g u)).1 = m := by
  obtain ⟨heq, hrows⟩ := answer_ok hreply
  have hzero : changes m.tasks id g u = 0 := Except.ok.inj hrows
  have hkeep : ∀ t ∈ m.tasks, ¬ (t.id = id ∧ u.mayChange g t = true) := by
    rintro t ht ⟨hid, hmay⟩
    have hfound : m.find? id = some t := (find?_eq_some_iff_of_nodup hids).2 ⟨ht, hid⟩
    have hpos := changes_pos_iff.2 ⟨t, hfound, hmay⟩
    omega
  have hsame : updated m.tasks id g u now = m.tasks := by
    rw [updated, List.map_congr_left fun t ht => if_neg (hkeep t ht), List.map_id']
  rw [heq]
  show { m with tasks := updated m.tasks id g u now } = m
  rw [hsame]

/-- Identifiers stay distinct through one effect. -/
theorem Effect.nodup_ids {ts us : List Task} (he : Effect ts us)
    (hids : (ts.map Task.id).Nodup) : (us.map Task.id).Nodup := by
  cases he with
  | keep => exact hids
  | @add t free =>
      rw [List.map_append, List.nodup_append]
      refine ⟨hids, List.nodup_singleton _, ?_⟩
      intro a ha b hb hab
      obtain ⟨u, hu, rfl⟩ := List.mem_map.1 ha
      rw [List.map_singleton, List.mem_singleton] at hb
      exact free (Or.inl ⟨u, hu, hab.trans hb⟩)
  | @rewrite f advances =>
      have hsame : (ts.map f).map Task.id = ts.map Task.id := by
        rw [List.map_map]
        exact List.map_congr_left fun t _ => (advances t).id_eq
      rw [hsame]
      exact hids

/-! ## Distinct keys in flight -/

/-- Stored tasks differ in their identifiers, and those in flight in their keys. -/
structure Apart (ts : List Task) : Prop where
  ids : (ts.map Task.id).Nodup
  keys : ts.Pairwise fun t u =>
    t.status.isActive = true → u.status.isActive = true → t.key ≠ u.key

theorem Apart.nil : Apart [] := ⟨List.nodup_nil, .nil⟩

theorem Apart.eq_of_id {ts : List Task} (h : Apart ts) {t u : Task} (ht : t ∈ ts) (hu : u ∈ ts)
    (hid : t.id = u.id) : t = u :=
  List.inj_on_of_nodup_map h.ids ht hu hid

/-- Of the tasks in flight a key has one. -/
theorem Apart.eq_of_key {ts : List Task} (h : Apart ts) {t u : Task} (ht : t ∈ ts) (hu : u ∈ ts)
    (hta : t.status.isActive = true) (hua : u.status.isActive = true) (hkey : t.key = u.key) :
    t = u := by
  by_contra hne
  have hsymm : Std.Symm fun t u : Task =>
      t.status.isActive = true → u.status.isActive = true → t.key ≠ u.key :=
    ⟨fun a b hab hb ha heq => hab ha hb heq.symm⟩
  exact h.keys.forall ht hu hne hta hua hkey

/-- A task in the list is the one its identifier finds. -/
theorem Apart.find?_of_mem {m : Memory} (h : Apart m.tasks) {t : Task} (ht : t ∈ m.tasks) :
    m.find? t.id = some t :=
  (find?_eq_some_iff_of_nodup h.ids).2 ⟨ht, rfl⟩

theorem Apart.updateIf_zero {m : Memory} (h : Apart m.tasks) {now : Instant}
    {fault : Option StoreError} {id : TaskId} {g : Guard} {u : Update}
    (hreply : (m.answer now fault (.updateIf id g u)).2 = .ok 0) :
    (m.answer now fault (.updateIf id g u)).1 = m :=
  Memory.updateIf_zero h.ids hreply

/-- The invariant through one effect. -/
theorem Apart.effect {ts us : List Task} (h : Apart ts) (he : Effect ts us) : Apart us := by
  refine ⟨he.nodup_ids h.ids, ?_⟩
  cases he with
  | keep => exact h.keys
  | @add t free =>
      rw [List.pairwise_append]
      refine ⟨h.keys, List.pairwise_singleton _ _, ?_⟩
      intro u hu b hb hua hba hkey
      rw [List.mem_singleton] at hb
      subst hb
      exact free (Or.inr ⟨hba, u, hu, hua, hkey⟩)
  | @rewrite f advances =>
      rw [List.pairwise_map]
      refine h.keys.imp ?_
      intro t u htu hta hua hkey
      refine htu ((advances t).isActive hta) ((advances u).isActive hua) ?_
      rw [← (advances t).sameWork.key_eq, ← (advances u).sameWork.key_eq]
      exact hkey

theorem Apart.meet {m : Memory} (h : Apart m.tasks) (e : StoreEvent) : Apart (m.meet e).tasks :=
  h.effect (effect_meet m e)

/-- The invariant after a history. -/
theorem Apart.after {m : Memory} (h : Apart m.tasks) (es : List StoreEvent) :
    Apart (m.after es).tasks := by
  induction es generalizing m with
  | nil => exact h
  | cons e es ih => exact ih (h.meet e)

theorem apart_after (es : List StoreEvent) : Apart (empty.after es).tasks :=
  Apart.nil.after es

/-! ## What bars an insert -/

/-- The answer of an online store to an insert. -/
theorem insert_reply {m : Memory} (h : m.online = true) (now : Instant) (t : Task) :
    ((∃ reason, (m.exec now (.insert t)).2 = .error (.conflict reason)) ↔ Bars m.tasks t) ∧
      ((m.exec now (.insert t)).2 = .ok () ↔ ¬ Bars m.tasks t) := by
  rw [exec_of_online h]
  simp only [perform]
  cases hc : m.collision? t with
  | none =>
      have hfree := collision?_eq_none_iff.1 hc
      simp [hfree]
  | some e =>
      have hbars : Bars m.tasks t := by
        by_contra hfree
        rw [collision?_eq_none_iff.2 hfree] at hc
        cases hc
      obtain ⟨reason, rfl⟩ := conflict_of_collision hc
      simp [hbars]

/-- Once the task in flight of a key has ended, nothing in flight has that key. -/
theorem Apart.frees {ts us : List Task} (h : Apart ts) (he : Effect ts us) {t t' : Task}
    (ht : t ∈ ts) (hta : t.status.isActive = true) (ht' : t' ∈ us) (hid : t'.id = t.id)
    (hend : t'.status.isTerminal = true) :
    ∀ u ∈ us, u.status.isActive = true → u.key ≠ t.key := by
  have hne : t' ≠ t := by
    rintro rfl
    rw [Status.isTerminal, hta] at hend
    cases hend
  intro u hu hua hkey
  cases he with
  | keep => exact hne (h.eq_of_id ht' ht hid)
  | @add x free =>
      rcases List.mem_append.1 ht' with hold | hnew
      · exact hne (h.eq_of_id hold ht hid)
      · rw [List.mem_singleton] at hnew
        subst hnew
        exact free (Or.inl ⟨t, ht, hid.symm⟩)
  | @rewrite f advances =>
      obtain ⟨u₀, hu₀, rfl⟩ := List.mem_map.1 hu
      obtain ⟨t₀, ht₀, rfl⟩ := List.mem_map.1 ht'
      have hut : u₀ = t := by
        refine h.eq_of_key hu₀ ht ((advances u₀).isActive hua) hta ?_
        rw [← (advances u₀).sameWork.key_eq]
        exact hkey
      have htt : t₀ = t := h.eq_of_id ht₀ ht ((advances t₀).id_eq.symm.trans hid)
      rw [hut] at hua
      rw [htt, Status.isTerminal, hua] at hend
      cases hend

/-- **One task in flight for each key.**  After every history of the empty store, stored tasks
differ in their identifiers and those in flight in their keys; an online store answers an insert
with a conflict exactly when the identifier is stored or the task and a stored one of its key are
both in flight, and takes the task otherwise; and as soon as the task in flight of a key has
ended, a new task of that key is taken. -/
theorem one_in_flight_per_key (es : List StoreEvent) :
    Apart (empty.after es).tasks ∧
    ((empty.after es).online = true → ∀ now t,
      ((∃ reason, ((empty.after es).exec now (.insert t)).2 = .error (.conflict reason)) ↔
        Bars (empty.after es).tasks t) ∧
      (((empty.after es).exec now (.insert t)).2 = .ok () ↔ ¬ Bars (empty.after es).tasks t)) ∧
    (∀ e, ∀ u ∈ (empty.after es).tasks, u.status.isActive = true →
      ∀ v ∈ ((empty.after es).meet e).tasks, v.id = u.id → v.status.isTerminal = true →
      ((empty.after es).meet e).online = true → ∀ now t, t.key = u.key →
      ((empty.after es).meet e).find? t.id = none →
      (((empty.after es).meet e).exec now (.insert t)).2 = .ok ()) := by
  have hapart := apart_after es
  refine ⟨hapart, ?_, ?_⟩
  · intro hon now t
    exact insert_reply hon now t
  · intro e u hu hua v hv hid hend hon now t hkey hfresh
    rw [(insert_reply hon now t).2]
    rintro (⟨w, hw, hwt⟩ | ⟨_, w, hw, hwa, hwk⟩)
    · exact find?_none_iff.1 hfresh w hw hwt
    · exact hapart.frees (effect_meet _ e) hu hua hv hid hend w hw hwa (hwk.trans hkey)

end Memory

end Backlog
