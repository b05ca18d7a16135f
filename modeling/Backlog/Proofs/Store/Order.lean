import Backlog.Proofs.Store.Match
import Mathlib.Data.List.Nodup
/-!
# The order of the list of tasks does not matter

Two stores that hold the same tasks under distinct identifiers answer every lookup alike, however
their lists are arranged: a search by identifier has one task it can find, and the order of
`Task.isBefore` has no ties left between tasks that differ in their identifiers, so a sorted list
is determined by what is in it.

The first of some tasks is the head of their sorted list (`earliest?_eq_head?`).  A store that
sorts its rows and answers with the first of them therefore gives the same answer as one that only
looks for the first.

## Main results

* `find?_of_perm`, `inOrder_of_perm`, `earliest?_of_perm` — lookups of rearranged tasks.
* `earliest?_eq_head?` — the first task heads the sorted list.
* `perform_of_perm` — a call of a store whose tasks are rearranged.
-/

namespace Backlog

/-- Two replies of stores are the same, but for the text of a conflict. -/
inductive SameReply {α : Type} : Except StoreError α → Except StoreError α → Prop where
  | ok (a : α) : SameReply (.ok a) (.ok a)
  | conflict (r s : String) : SameReply (.error (.conflict r)) (.error (.conflict s))

theorem SameReply.of_eq {α : Type} {r s : Except StoreError α} {a : α} (hr : r = .ok a)
    (hs : s = .ok a) : SameReply r s := by
  rw [hr, hs]
  exact .ok a

theorem SameReply.eq_ok {α : Type} {r s : Except StoreError α} {a : α} (h : SameReply r s)
    (hs : s = .ok a) : r = .ok a := by
  cases h with
  | ok _ => exact hs
  | conflict _ _ => cases hs

theorem SameReply.trans {α : Type} {r s q : Except StoreError α} (h : SameReply r s)
    (h' : SameReply s q) : SameReply r q := by
  cases h with
  | ok a => exact h'
  | conflict r s =>
      cases h' with
      | conflict s q => exact .conflict r q

namespace Task

/-- Coming no later is transitive. -/
theorem isBefore_false_trans {a b c : Task} (h : b.isBefore a = false) (h' : c.isBefore b = false) :
    c.isBefore a = false := by
  rw [← Bool.not_eq_true, isBefore_iff] at *
  omega

/-- Of two tasks at least one comes no later than the other. -/
theorem isBefore_false_total (a b : Task) : b.isBefore a = false ∨ a.isBefore b = false := by
  rw [← Bool.not_eq_true, ← Bool.not_eq_true, isBefore_iff, isBefore_iff]
  omega

/-- Tasks of which neither comes first have one identifier. -/
theorem id_eq_of_isBefore_false {a b : Task} (h : b.isBefore a = false)
    (h' : a.isBefore b = false) : a.id = b.id := by
  by_contra hne
  rw [isBefore_of_ne hne h] at h'
  cases h'

end Task

namespace Memory

variable {ts us : List Task}

/-- Distinct identifiers stay distinct in any other order. -/
theorem nodup_ids_of_perm (hids : (ts.map Task.id).Nodup) (h : ts.Perm us) :
    (us.map Task.id).Nodup :=
  (h.map Task.id).nodup_iff.1 hids

/-- A search by identifier does not depend on the order. -/
theorem find?_of_perm (hids : (ts.map Task.id).Nodup) (h : ts.Perm us) (id : TaskId) :
    ts.find? (fun t => t.id == id) = us.find? fun t => t.id == id := by
  ext t
  rw [find?_eq_some_iff_of_nodup hids, find?_eq_some_iff_of_nodup (nodup_ids_of_perm hids h),
    h.mem_iff]

/-- A sorted list holds what was sorted. -/
theorem inOrder_perm (ts : List Task) : (inOrder ts).Perm ts := List.mergeSort_perm ts _

/-- In a sorted list nothing comes before what stands to its left. -/
theorem pairwise_inOrder (ts : List Task) :
    (inOrder ts).Pairwise fun a b => b.isBefore a = false := by
  have hsorted := @List.pairwise_mergeSort Task (fun a b => !b.isBefore a)
    (fun a b c hab hbc => by
      rw [Bool.not_eq_true'] at *
      exact Task.isBefore_false_trans hab hbc)
    (fun a b => by
      rw [Bool.or_eq_true, Bool.not_eq_true', Bool.not_eq_true']
      exact Task.isBefore_false_total a b)
    ts
  simpa only [inOrder, Bool.not_eq_true'] using hsorted

/-- A sorted list does not depend on the order before it. -/
theorem inOrder_of_perm (hids : (ts.map Task.id).Nodup) (h : ts.Perm us) :
    inOrder ts = inOrder us := by
  refine List.Perm.eq_of_pairwise ?_ (pairwise_inOrder ts) (pairwise_inOrder us)
    (((inOrder_perm ts).trans h).trans (inOrder_perm us).symm)
  intro a b ha hb hab hba
  have hat := (inOrder_perm ts).mem_iff.1 ha
  have hbt := h.mem_iff.2 ((inOrder_perm us).mem_iff.1 hb)
  exact List.inj_on_of_nodup_map hids hat hbt (Task.id_eq_of_isBefore_false hab hba)

/-- Under distinct identifiers the first task is the one nothing comes before. -/
theorem earliest?_eq_some_of_first (hids : (ts.map Task.id).Nodup) {t : Task} (ht : t ∈ ts)
    (hfirst : ∀ u ∈ ts, u.isBefore t = false) : earliest? ts = some t := by
  cases he : earliest? ts with
  | none =>
      rw [earliest?_eq_none_iff.1 he] at ht
      cases ht
  | some u =>
      have hu := mem_of_earliest? he
      have hid := Task.id_eq_of_isBefore_false (not_isBefore_of_earliest? he t ht) (hfirst u hu)
      rw [List.inj_on_of_nodup_map hids hu ht hid]

/-- The first task heads the sorted list. -/
theorem earliest?_eq_head? (hids : (ts.map Task.id).Nodup) :
    earliest? ts = (inOrder ts).head? := by
  cases hs : inOrder ts with
  | nil =>
      have hnil := inOrder_perm ts
      rw [hs] at hnil
      rw [hnil.nil_eq.symm]
      rfl
  | cons t rest =>
      have hperm := inOrder_perm ts
      have hsorted := pairwise_inOrder ts
      rw [hs] at hperm hsorted
      refine earliest?_eq_some_of_first hids (hperm.mem_iff.1 List.mem_cons_self) ?_
      intro u hu
      rcases List.mem_cons.1 (hperm.mem_iff.2 hu) with rfl | hrest
      · exact Task.isBefore_irrefl u
      · exact (List.pairwise_cons.1 hsorted).1 u hrest

/-- The first task does not depend on the order. -/
theorem earliest?_of_perm (hids : (ts.map Task.id).Nodup) (h : ts.Perm us) :
    earliest? ts = earliest? us := by
  rw [earliest?_eq_head? hids, earliest?_eq_head? (nodup_ids_of_perm hids h),
    inOrder_of_perm hids h]

/-! ## Calls of a rearranged store -/

/-- Some of the tasks have distinct identifiers if all have. -/
theorem nodup_ids_filter (hids : (ts.map Task.id).Nodup) (p : Task → Bool) :
    ((ts.filter p).map Task.id).Nodup :=
  hids.sublist (List.filter_sublist.map Task.id)

theorem bars_of_perm (h : ts.Perm us) {t : Task} : Bars ts t ↔ Bars us t := by
  simp only [Bars, h.mem_iff]

/-- A store whose tasks are rearranged answers every call alike, and holds the same tasks after
it. -/
theorem perform_of_perm {m n : Memory} (hids : (m.tasks.map Task.id).Nodup)
    (h : m.tasks.Perm n.tasks) (now : Instant) (c : StoreCall) :
    (m.perform now c).1.Perm (n.perform now c).1 ∧
      SameReply (m.perform now c).2 (n.perform now c).2 := by
  cases c with
  | insert t =>
      simp only [perform]
      cases hm : m.collision? t with
      | none =>
          have hn : n.collision? t = none := by
            rwa [collision?_eq_none_iff, ← bars_of_perm h, ← collision?_eq_none_iff]
          rw [hn]
          exact ⟨h.append_right [t], .ok ()⟩
      | some e =>
          cases hn : n.collision? t with
          | none =>
              rw [collision?_eq_none_iff, ← bars_of_perm h, ← collision?_eq_none_iff, hm] at hn
              cases hn
          | some e' =>
              obtain ⟨r, rfl⟩ := conflict_of_collision hm
              obtain ⟨s, rfl⟩ := conflict_of_collision hn
              exact ⟨h, .conflict r s⟩
  | get id => exact ⟨h, .of_eq (congrArg _ (find?_of_perm hids h id)) rfl⟩
  | getForOwner owner id =>
      refine ⟨h, .of_eq (congrArg Except.ok ?_) rfl⟩
      exact congrArg (Option.filter _) (find?_of_perm hids h id)
  | findActive k =>
      refine ⟨h, .of_eq (congrArg Except.ok ?_) rfl⟩
      exact earliest?_of_perm (nodup_ids_filter hids _) (h.filter _)
  | oldestQueued =>
      refine ⟨h, .of_eq (congrArg Except.ok ?_) rfl⟩
      exact earliest?_of_perm (nodup_ids_filter hids _) (h.filter _)
  | updateIf id g u =>
      refine ⟨h.map _, .of_eq (congrArg Except.ok ?_) rfl⟩
      rw [changes, changes, find?_of_perm hids h]
  | failStale cutoff error =>
      exact ⟨h.map _, .of_eq (congrArg Except.ok (h.countP_eq _)) rfl⟩
  | listForOwner owner status limit =>
      refine ⟨h, .of_eq (congrArg Except.ok ?_) rfl⟩
      exact congrArg (List.take limit) (inOrder_of_perm (nodup_ids_filter hids _) (h.filter _))

end Memory

end Backlog
