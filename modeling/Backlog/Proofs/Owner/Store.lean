import Backlog.Proofs.Store.Order
import Backlog.Service.Cancel
/-!
# What an owner can see of a store

A store keeps the tasks of every owner in one list, and three of the calls that serve one owner look
at all of it: an insert looks for its identifier and for its key among all tasks, a search by key
goes through all of them, and a read by identifier does not ask for an owner at all.  Two stores
that hold the same tasks of an owner are nevertheless the same to that owner (`SameFor`).  A key
names an owner, so what collides with it or is found by it is the owner's; a guarded update of the
owner changes nothing else; and a fresh identifier is taken by nobody, which has to be assumed.

The read by identifier is where two such stores can differ: under an identifier that is no task of
the owner, one can hold a task of somebody else and the other none (`SameFor.find?_cases`).

## Main results

* `SameFor.answer` — a call made for the owner leaves the stores the same for the owner.
* `others_answer` — such a call leaves the tasks of everybody else as they were.
* `SameFor.reply_insert`, `SameFor.reply_findActive` and their neighbours — the replies to such
  calls.
-/

namespace Backlog

/-- The calls that are made for an owner; `F` are the identifiers a new task can have. -/
inductive StoreCall.IsFor (A : String) (F : List TaskId) : StoreCall → Prop where
  | insert {t : Task} (owner : t.owner = A) (fresh : t.id ∈ F) : IsFor A F (.insert t)
  | get (id : TaskId) : IsFor A F (.get id)
  | getForOwner (id : TaskId) : IsFor A F (.getForOwner A id)
  | findActive {k : WorkKey} (owner : k.owner = A) : IsFor A F (.findActive k)
  | cancel (id : TaskId) : IsFor A F (.updateIf id (Cancel.guard A) Update.cancel)
  | listForOwner (status : Option Status) (limit : Nat) : IsFor A F (.listForOwner A status limit)

/-- Only its owner can call a task off. -/
theorem Cancel.owner_of_mayChange {owner : String} {t : Task}
    (h : Update.cancel.mayChange (Cancel.guard owner) t = true) : t.owner = owner := by
  rw [Update.mayChange, Bool.and_eq_true] at h
  rcases (Guard.allows_iff.1 h.1).2 with hnone | hsome
  · cases hnone
  · exact (Option.some.inj hsome).symm

namespace Memory

variable {A : String} {F : List TaskId} {m n : Memory}

/-- The stored tasks of an owner. -/
def tasksOf (m : Memory) (A : String) : List Task := m.tasks.filter fun t => t.owner == A

/-- The stored tasks of everybody else. -/
def tasksOfOthers (m : Memory) (A : String) : List Task := m.tasks.filter fun t => !(t.owner == A)

theorem mem_tasksOf {t : Task} : t ∈ m.tasksOf A ↔ t ∈ m.tasks ∧ t.owner = A := by
  rw [tasksOf, List.mem_filter, beq_iff_eq]

theorem mem_tasksOfOthers {t : Task} : t ∈ m.tasksOfOthers A ↔ t ∈ m.tasks ∧ t.owner ≠ A := by
  rw [tasksOfOthers, List.mem_filter, Bool.not_eq_true', beq_eq_false_iff_ne]

/-- Two stores that an owner cannot tell apart: they hold the same tasks of the owner, and nobody
else has a task under an identifier of `F`. -/
structure SameFor (A : String) (F : List TaskId) (m n : Memory) : Prop where
  online : m.online = n.online
  ids : (m.tasks.map Task.id).Nodup
  ids' : (n.tasks.map Task.id).Nodup
  own : (m.tasksOf A).Perm (n.tasksOf A)
  fresh : ∀ t ∈ m.tasks, t.id ∈ F → t.owner = A
  fresh' : ∀ t ∈ n.tasks, t.id ∈ F → t.owner = A

namespace SameFor

theorem symm (h : SameFor A F m n) : SameFor A F n m :=
  ⟨h.online.symm, h.ids', h.ids, h.own.symm, h.fresh', h.fresh⟩

theorem mem_iff (h : SameFor A F m n) {t : Task} (ht : t.owner = A) :
    t ∈ m.tasks ↔ t ∈ n.tasks := by
  have hmem := h.own.mem_iff (a := t)
  rw [mem_tasksOf, mem_tasksOf] at hmem
  constructor
  · exact fun hm => (hmem.1 ⟨hm, ht⟩).1
  · exact fun hn => (hmem.2 ⟨hn, ht⟩).1

/-- What only tasks of the owner meet, the same tasks meet. -/
theorem filter_perm (h : SameFor A F m n) {p : Task → Bool}
    (hp : ∀ t, p t = true → t.owner = A) : (m.tasks.filter p).Perm (n.tasks.filter p) := by
  have hfilter : ∀ ts : List Task,
      ts.filter p = (ts.filter fun t => t.owner == A).filter p := by
    intro ts
    rw [List.filter_filter]
    refine List.filter_congr fun t _ => ?_
    by_cases ht : p t = true
    · rw [ht, hp t ht, beq_self_eq_true, Bool.and_self]
    · rw [Bool.not_eq_true] at ht
      rw [ht, Bool.false_and]
  rw [hfilter m.tasks, hfilter n.tasks]
  exact h.own.filter p

/-- A task of the owner that one store has, the other has. -/
theorem find?_own (h : SameFor A F m n) {id : TaskId} {t : Task} (hf : m.find? id = some t)
    (ht : t.owner = A) : n.find? id = some t := by
  have hmem := (find?_eq_some_iff_of_nodup h.ids).1 hf
  exact (find?_eq_some_iff_of_nodup h.ids').2 ⟨(h.mem_iff ht).1 hmem.1, hmem.2⟩

/-- Under one identifier the stores have the same task of the owner, or neither has one. -/
theorem find?_cases (h : SameFor A F m n) (id : TaskId) :
    (∃ t, t.owner = A ∧ m.find? id = some t ∧ n.find? id = some t) ∨
      ((∀ t, m.find? id = some t → t.owner ≠ A) ∧ ∀ t, n.find? id = some t → t.owner ≠ A) := by
  by_cases hown : ∃ t, m.find? id = some t ∧ t.owner = A
  · obtain ⟨t, hf, ht⟩ := hown
    exact Or.inl ⟨t, ht, hf, h.find?_own hf ht⟩
  · refine Or.inr ⟨fun t hf ht => hown ⟨t, hf, ht⟩, fun t hf ht => ?_⟩
    exact hown ⟨t, h.symm.find?_own hf ht, ht⟩

/-- What bars a new task of the owner in one store, bars it in the other. -/
theorem bars_imp (h : SameFor A F m n) {t : Task} (ht : t.owner = A) (hid : t.id ∈ F)
    (hbars : Bars m.tasks t) : Bars n.tasks t := by
  rcases hbars with ⟨u, hu, heq⟩ | ⟨hactive, u, hu, huactive, hkey⟩
  · have howner := h.fresh u hu (heq ▸ hid)
    exact Or.inl ⟨u, (h.mem_iff howner).1 hu, heq⟩
  · have howner : u.owner = A := (congrArg WorkKey.owner hkey).trans ht
    exact Or.inr ⟨hactive, u, (h.mem_iff howner).1 hu, huactive, hkey⟩

theorem collision?_eq_none (h : SameFor A F m n) {t : Task} (ht : t.owner = A) (hid : t.id ∈ F) :
    m.collision? t = none ↔ n.collision? t = none := by
  rw [collision?_eq_none_iff, collision?_eq_none_iff]
  exact not_congr ⟨h.bars_imp ht hid, h.symm.bars_imp ht hid⟩

/-! ## Replies -/

/-- Stores that would answer alike do so, whether they are reached or not. -/
theorem reply (h : SameFor A F m n) {now : Instant} {c : StoreCall}
    (heq : (m.perform now c).2 = (n.perform now c).2) (fault : Option StoreError) :
    (m.answer now fault c).2 = (n.answer now fault c).2 := by
  cases fault with
  | some e => rfl
  | none =>
      rw [answer, answer]
      cases hon : m.online with
      | false => rw [exec_offline hon, exec_offline (h.online ▸ hon)]
      | true => rw [exec_of_online hon, exec_of_online (h.online ▸ hon), heq]

theorem reply_findActive (h : SameFor A F m n) {k : WorkKey} (hk : k.owner = A) (now : Instant)
    (fault : Option StoreError) :
    (m.answer now fault (.findActive k)).2 = (n.answer now fault (.findActive k)).2 := by
  refine h.reply ?_ fault
  refine congrArg Except.ok ?_
  refine earliest?_of_perm (nodup_ids_filter h.ids _) (h.filter_perm fun t ht => ?_)
  rw [Bool.and_eq_true, WorkKey.finds_iff] at ht
  exact ht.2.2.1.trans hk

theorem reply_getForOwner (h : SameFor A F m n) (id : TaskId) (now : Instant)
    (fault : Option StoreError) :
    (m.answer now fault (.getForOwner A id)).2 = (n.answer now fault (.getForOwner A id)).2 := by
  refine h.reply ?_ fault
  refine congrArg Except.ok ?_
  rcases h.find?_cases id with ⟨t, -, hm, hn⟩ | ⟨hm, hn⟩
  · rw [hm, hn]
  · have hnone : ∀ o : Option Task, (∀ t, o = some t → t.owner ≠ A) →
        (o.filter fun t => t.owner == A) = none := by
      intro o ho
      rw [Option.filter_eq_none_iff]
      intro t ht
      rw [beq_iff_eq]
      exact ho t ht
    rw [hnone _ hm, hnone _ hn]

theorem reply_listForOwner (h : SameFor A F m n) (status : Option Status) (limit : Nat)
    (now : Instant) (fault : Option StoreError) :
    (m.answer now fault (.listForOwner A status limit)).2 =
      (n.answer now fault (.listForOwner A status limit)).2 := by
  refine h.reply ?_ fault
  refine congrArg Except.ok (congrArg (List.take limit) ?_)
  refine inOrder_of_perm (nodup_ids_filter h.ids _) (h.filter_perm fun t ht => ?_)
  rw [Bool.and_eq_true, beq_iff_eq] at ht
  exact ht.1

theorem reply_cancel (h : SameFor A F m n) (id : TaskId) (now : Instant)
    (fault : Option StoreError) :
    (m.answer now fault (.updateIf id (Cancel.guard A) Update.cancel)).2 =
      (n.answer now fault (.updateIf id (Cancel.guard A) Update.cancel)).2 := by
  have hzero : ∀ l : Memory, (∀ t, l.find? id = some t → t.owner ≠ A) →
      changes l.tasks id (Cancel.guard A) Update.cancel = 0 := by
    intro l hl
    by_contra hne
    obtain ⟨t, ht, hmay⟩ := changes_pos_iff.1 (Nat.pos_of_ne_zero hne)
    exact hl t ht (Cancel.owner_of_mayChange hmay)
  refine h.reply ?_ fault
  refine congrArg Except.ok ?_
  rcases h.find?_cases id with ⟨t, -, hm, hn⟩ | ⟨hm, hn⟩
  · rw [find?] at hm hn
    rw [changes, changes, hm, hn]
  · rw [hzero m hm, hzero n hn]

/-- An insert is taken by both stores, or refused by both as a conflict, or reaches neither. -/
theorem reply_insert (h : SameFor A F m n) {t : Task} (ht : t.owner = A) (hid : t.id ∈ F)
    (now : Instant) (fault : Option StoreError) :
    (m.answer now fault (.insert t)).2 = (n.answer now fault (.insert t)).2 ∨
      SameReply (m.answer now fault (.insert t)).2 (n.answer now fault (.insert t)).2 := by
  have hcollision := h.collision?_eq_none ht hid
  cases fault with
  | some e => exact Or.inl rfl
  | none =>
      rw [answer, answer]
      cases hon : m.online with
      | false => exact Or.inl (by rw [exec_offline hon, exec_offline (h.online ▸ hon)])
      | true =>
          rw [exec_of_online hon, exec_of_online (h.online ▸ hon)]
          simp only [perform]
          cases hm : m.collision? t with
          | none =>
              rw [hcollision.1 hm]
              exact Or.inl rfl
          | some e =>
              cases hn : n.collision? t with
              | none =>
                  rw [hcollision.2 hn] at hm
                  cases hm
              | some e' =>
                  obtain ⟨r, rfl⟩ := conflict_of_collision hm
                  obtain ⟨s, rfl⟩ := conflict_of_collision hn
                  exact Or.inr (.conflict r s)

end SameFor

/-! ## The tasks after a call -/

/-- The owners of the tasks that an update leaves. -/
theorem owner_updated (id : TaskId) (g : Guard) (u : Update) (now : Instant) (t : Task) :
    (if t.id = id ∧ u.mayChange g t = true then u.apply t now else t).owner = t.owner := by
  split <;> rfl

/-- A rewriting that keeps owners rewrites the tasks of each owner. -/
theorem filter_owner_map {f : Task → Task} (hf : ∀ t, (f t).owner = t.owner)
    (q : String → Bool) (ts : List Task) :
    (ts.map f).filter (fun t => q t.owner) = (ts.filter fun t => q t.owner).map f := by
  rw [List.filter_map]
  congr 2
  funext t
  rw [Function.comp_apply, hf]

/-- A call made for an owner leaves the tasks of everybody else as they were. -/
theorem others_perform {c : StoreCall} (hc : c.IsFor A F) (m : Memory) (now : Instant) :
    (m.perform now c).1.filter (fun t => !(t.owner == A)) = m.tasksOfOthers A := by
  cases hc with
  | @insert t owner fresh =>
      simp only [perform]
      cases m.collision? t with
      | some e => rfl
      | none =>
          show (m.tasks ++ [t]).filter _ = _
          rw [List.filter_append, List.filter_singleton, owner, beq_self_eq_true, Bool.not_true,
            cond_false, List.append_nil]
          rfl
  | cancel id =>
      show (updated m.tasks id (Cancel.guard A) Update.cancel now).filter _ = _
      rw [updated, filter_owner_map (owner_updated id _ _ now) (fun o => !(o == A))]
      have hsame : ∀ t ∈ m.tasks.filter fun t => !(t.owner == A),
          (if t.id = id ∧ Update.cancel.mayChange (Cancel.guard A) t = true then
            Update.cancel.apply t now else t) = t := by
        intro t ht
        refine if_neg fun hmay => (mem_tasksOfOthers.1 ht).2 ?_
        exact Cancel.owner_of_mayChange hmay.2
      rw [List.map_congr_left hsame, List.map_id']
      rfl
  | get | getForOwner | findActive | listForOwner => rfl

/-- A call made for an owner leaves the tasks of everybody else as they were, whether it reaches the
store or not. -/
theorem others_answer {c : StoreCall} (hc : c.IsFor A F) (m : Memory) (now : Instant)
    (fault : Option StoreError) :
    (m.answer now fault c).1.tasksOfOthers A = m.tasksOfOthers A := by
  cases fault with
  | some e => rfl
  | none =>
      rw [answer]
      cases hon : m.online with
      | false => rw [exec_offline hon]
      | true =>
          rw [exec_of_online hon]
          exact others_perform hc m now

namespace SameFor

/-- Stores that stay the same for the owner under every rewriting of the owner's tasks. -/
theorem perform (h : SameFor A F m n) {c : StoreCall} (hc : c.IsFor A F) (now : Instant) :
    SameFor A F { m with tasks := (m.perform now c).1 }
      { n with tasks := (n.perform now c).1 } := by
  cases hc with
  | @insert t owner fresh =>
      have hcollision := h.collision?_eq_none owner fresh
      simp only [Memory.perform]
      cases hm : m.collision? t with
      | none =>
          have hn := hcollision.1 hm
          have hids : ∀ l : Memory, (l.tasks.map Task.id).Nodup → l.collision? t = none →
              ((l.tasks ++ [t]).map Task.id).Nodup := by
            intro l hl hnone
            rw [List.map_append, List.map_singleton, List.nodup_append]
            refine ⟨hl, List.nodup_singleton _, fun a ha b hb hab => ?_⟩
            obtain ⟨u, hu, rfl⟩ := List.mem_map.1 ha
            rw [List.mem_singleton] at hb
            exact collision?_eq_none_iff.1 hnone (Or.inl ⟨u, hu, hab.trans hb⟩)
          rw [hn]
          refine ⟨h.online, hids m h.ids hm, hids n h.ids' hn, ?_, ?_, ?_⟩
          · show ((m.tasks ++ [t]).filter _).Perm ((n.tasks ++ [t]).filter _)
            rw [List.filter_append, List.filter_append]
            exact h.own.append_right _
          · exact List.forall_mem_append.2
              ⟨h.fresh, List.forall_mem_singleton.2 fun _ => owner⟩
          · exact List.forall_mem_append.2
              ⟨h.fresh', List.forall_mem_singleton.2 fun _ => owner⟩
      | some e =>
          cases hn : n.collision? t with
          | none =>
              rw [hcollision.2 hn] at hm
              cases hm
          | some e' => exact h
  | cancel id =>
      have howner := owner_updated id (Cancel.guard A) Update.cancel now
      have hfresh : ∀ l : Memory, (∀ t ∈ l.tasks, t.id ∈ F → t.owner = A) →
          ∀ t ∈ updated l.tasks id (Cancel.guard A) Update.cancel now, t.id ∈ F → t.owner = A := by
        intro l hl t ht hid
        obtain ⟨u, hu, rfl⟩ := List.mem_map.1 ht
        rw [howner]
        refine hl u hu ?_
        rwa [(advances_updated id (Cancel.guard A) Update.cancel now u).id_eq] at hid
      refine ⟨h.online, ?_, ?_, ?_, hfresh m h.fresh, hfresh n h.fresh'⟩
      · show ((updated m.tasks id _ _ now).map Task.id).Nodup
        rw [ids_updated]
        exact h.ids
      · show ((updated n.tasks id _ _ now).map Task.id).Nodup
        rw [ids_updated]
        exact h.ids'
      · show ((updated m.tasks id _ _ now).filter fun t => t.owner == A).Perm
          ((updated n.tasks id _ _ now).filter fun t => t.owner == A)
        rw [updated, updated, filter_owner_map howner (fun o => o == A),
          filter_owner_map howner (fun o => o == A)]
        exact h.own.map _
  | get | getForOwner | findActive | listForOwner => exact h

/-- A call made for the owner leaves the stores the same for the owner. -/
theorem answer (h : SameFor A F m n) {c : StoreCall} (hc : c.IsFor A F) (now : Instant)
    (fault : Option StoreError) :
    SameFor A F (m.answer now fault c).1 (n.answer now fault c).1 := by
  cases fault with
  | some e => exact h
  | none =>
      rw [Memory.answer, Memory.answer]
      cases hon : m.online with
      | false =>
          rw [exec_offline hon, exec_offline (h.online ▸ hon)]
          exact h
      | true =>
          rw [exec_of_online hon, exec_of_online (h.online ▸ hon)]
          exact h.perform hc now

end SameFor

end Memory

end Backlog
