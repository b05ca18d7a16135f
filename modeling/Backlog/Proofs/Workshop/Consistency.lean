import Backlog.Proofs.Store.History
import Backlog.Proofs.Workshop.Turns
/-!
# Outcomes agree with statuses

A task has a result when it succeeded, an error when it failed, and otherwise neither.  The store
does not see to that: an update writes whatever status, result and error it is made with.  It is the
parties who see to it, since each of them asks for one of four updates only, and submissions insert
tasks that have no outcome (`Party.Asks.isSound`).  An update writes all three fields or none, so no
race can leave a record with the status of one write and the outcome of another.

What a party is answered with it has from the store, or made itself.  So records that agree with
their status are all that comes out of a workshop, if they are all that was in its store
(`consistent_after`).

## Main results

* `Party.Asks.isSound` — no party asks for a write that could leave an inconsistent record.
* `Memory.consistent_answer` — a sound call keeps a store of consistent records.
* `Consistent.step` — consistent records, through everything that can happen.
* `consistent_after` — the records that are stored, and those that requests are answered with.
-/

namespace Backlog

variable {H : Type}

namespace StoreCall

/-- A call that writes consistent records, whatever it meets. -/
def IsSound : StoreCall → Prop
  | insert t => t.isConsistent = true
  | updateIf _ _ u => ∀ t now, (u.apply t now).isConsistent = true
  | _ => True

/-- The tasks that a reply speaks of. -/
def found : (c : StoreCall) → c.Reply → List Task
  | get _, .ok r | getForOwner _ _, .ok r | findActive _, .ok r | oldestQueued, .ok r => r.toList
  | listForOwner _ _ _, .ok ts => ts
  | _, _ => []

end StoreCall

namespace Memory

/-- What a reply speaks of is stored. -/
theorem mem_of_found {m : Memory} {now : Instant} {fault : Option StoreError} {c : StoreCall}
    {t : Task} (h : t ∈ c.found (m.answer now fault c).2) : t ∈ m.tasks := by
  cases hr : (m.answer now fault c).2 with
  | error e =>
      rw [hr] at h
      cases c <;> cases h
  | ok a =>
      have hreply := (answer_ok hr).2
      rw [hr] at h
      cases c with
      | insert _ | updateIf _ _ _ | failStale _ _ => cases h
      | get id =>
          cases hreply
          exact (find?_some (Option.mem_toList.1 h)).1
      | getForOwner owner id =>
          cases hreply
          exact (find?_some (Option.eq_some_of_filter_eq_some (Option.mem_toList.1 h))).1
      | findActive k | oldestQueued =>
          cases hreply
          exact (List.mem_filter.1 (mem_of_earliest? (Option.mem_toList.1 h))).1
      | listForOwner owner status limit =>
          cases hreply
          exact (List.mem_filter.1 (List.mem_mergeSort.1 (List.mem_of_mem_take h))).1

/-- A sound call keeps a store of consistent records. -/
theorem consistent_answer {m : Memory} (h : ∀ t ∈ m.tasks, t.isConsistent = true)
    {c : StoreCall} (hc : c.IsSound) (now : Instant) (fault : Option StoreError) :
    ∀ t ∈ (m.answer now fault c).1.tasks, t.isConsistent = true := by
  cases hr : (m.answer now fault c).2 with
  | error e =>
      rw [answer_error hr]
      exact h
  | ok a =>
      rw [(answer_ok hr).1]
      intro t ht
      cases c with
      | insert u =>
          simp only [perform] at ht
          cases hcollision : m.collision? u with
          | some e =>
              rw [hcollision] at ht
              exact h t ht
          | none =>
              rw [hcollision] at ht
              rcases List.mem_append.1 ht with hold | hnew
              · exact h t hold
              · rw [List.mem_singleton.1 hnew]
                exact hc
      | updateIf id g u =>
          obtain ⟨s, hs, rfl⟩ := List.mem_map.1 ht
          split
          · exact hc s now
          · exact h s hs
      | failStale cutoff error =>
          obtain ⟨s, hs, rfl⟩ := List.mem_map.1 ht
          split
          · exact Update.isConsistent_apply_fail error s now
          · exact h s hs
      | _ => exact h t ht

end Memory

namespace Party

/-- The tasks that a request is about to insert, or answers with. -/
def tasks : Party H → List Task
  | submit (.insert _ t) | submit (.signal t) | submit (.done (.ok t)) => [t]
  | lookup (.done (.ok t)) => [t]
  | listing (.done (.ok ts)) => ts
  | _ => []

/-- No party asks for a write that could leave an inconsistent record. -/
theorem Asks.isSound {now : Instant} {fresh : TaskId} {p : Party H} {c : StoreCall}
    {next : c.Reply → Party H} (asks : p.Asks now fresh c next)
    (h : ∀ t ∈ p.tasks, t.isConsistent = true) : c.IsSound := by
  cases asks with
  | claim => exact Update.isConsistent_apply_claim
  | @complete _ _ v =>
      cases v with
      | ok value => exact Update.isConsistent_apply_succeed value
      | error e => exact Update.isConsistent_apply_fail e
  | insert => exact h _ List.mem_cons_self
  | cancelWrite => exact Update.isConsistent_apply_cancel
  | _ => trivial

theorem tasks_answerWith (t : Task) : (submit (Submit.answerWith t) : Party H).tasks = [t] := by
  unfold Submit.answerWith
  split <;> rfl

/-- What a party goes on with it had before, or was told, or has just made. -/
theorem Asks.tasks_next {now : Instant} {fresh : TaskId} {p : Party H} {c : StoreCall}
    {next : c.Reply → Party H} (asks : p.Asks now fresh c next) (reply : c.Reply) {t : Task}
    (ht : t ∈ (next reply).tasks) : t ∈ p.tasks ∨ t ∈ c.found reply ∨ t.isConsistent = true := by
  cases asks with
  | poll | claim | recheck | complete => cases ht
  | @search s =>
      rcases reply with _ | _ | u
      · cases ht
      · rw [List.mem_singleton.1 ht]
        exact Or.inr (Or.inr (s.isConsistent_task fresh now))
      · have hu : t ∈ [u] := tasks_answerWith (H := H) u ▸ ht
        exact Or.inr (Or.inl hu)
  | insert =>
      rcases reply with (_ | _ | _) | _
      · cases ht
      · cases ht
      · cases ht
      · exact Or.inl ht
  | searchAgain =>
      rcases reply with _ | _ | u
      · cases ht
      · cases ht
      · have hu : t ∈ [u] := tasks_answerWith (H := H) u ▸ ht
        exact Or.inr (Or.inl hu)
  | cancelWrite | cancelRead => cases ht
  | sweep => cases ht
  | lookup =>
      rcases reply with _ | _ | u
      · cases ht
      · cases ht
      · exact Or.inr (Or.inl ht)
  | listing =>
      cases reply with
      | error e => cases ht
      | ok ts => exact Or.inr (Or.inl ht)

end Party

namespace Workshop

variable {w w' : Workshop H}

/-- The records that are stored agree with their status, and so do those that requests carry. -/
structure Consistent (w : Workshop H) : Prop where
  stored : ∀ t ∈ w.memory.tasks, t.isConsistent = true
  carried : ∀ (i : Nat) (p : Party H), w.parties[i]? = some p →
    ∀ t ∈ p.tasks, t.isConsistent = true

theorem consistent_opened {m : Memory} (h : ∀ t ∈ m.tasks, t.isConsistent = true) :
    (opened m : Workshop H).Consistent where
  stored := h
  carried := by intro i p hi; cases hi

/-- Nobody arrives with a task. -/
theorem tasks_arrival (a : Arrival H) : a.party.tasks = [] := by
  cases a with
  | attempt _ | sweep _ _ | cancel _ _ => rfl
  | submit form =>
      simp only [Arrival.party, Submit.start]
      split <;> rfl
  | lookup owner idText =>
      simp only [Arrival.party, Lookup.start]
      split
      · rfl
      · split <;> rfl
  | listing owner status limit =>
      simp only [Arrival.party, Listing.start]
      split <;> rfl

/-- Consistent records, through everything that can happen. -/
theorem Consistent.step (hs : w.Step w') (h : w.Consistent) : w'.Consistent := by
  refine ⟨?_, ?_⟩
  · cases hs with
    | idle | switch _ | arrive _ | signal _ | handled _ _ => exact h.stored
    | ask fault stands asks =>
        exact Memory.consistent_answer h.stored (asks.isSound (h.carried _ _ stands)) _ fault
  · intro i q hi t ht
    rcases hs.proceeded hi with ⟨a, rfl⟩ | ⟨p, hp, hproceeds⟩
    · rw [tasks_arrival] at ht
      cases ht
    · have hcarried := h.carried i p hp
      cases hproceeds with
      | stay => exact hcarried t ht
      | ask fault asks here =>
          rcases asks.tasks_next _ ht with hold | hfound | hmade
          · exact hcarried t hold
          · exact h.stored t (Memory.mem_of_found hfound)
          · exact hmade
      | signal stood =>
          subst stood
          exact hcarried t ht
      | handled outcome stood => cases ht

/-- What can be seen of a workshop from outside is consistent: the stored records, and the tasks that
requests were answered with. -/
structure ShowsConsistent (w : Workshop H) : Prop where
  stored : ∀ t ∈ w.memory.tasks, t.isConsistent = true
  submitted : ∀ (i : Nat) (t : Task), w.parties[i]? = some (.submit (.done (.ok t))) →
    t.isConsistent = true
  lookedUp : ∀ (i : Nat) (t : Task), w.parties[i]? = some (.lookup (.done (.ok t))) →
    t.isConsistent = true
  listed : ∀ (i : Nat) (ts : List Task), w.parties[i]? = some (.listing (.done (.ok ts))) →
    ∀ t ∈ ts, t.isConsistent = true

/-- **Outcomes agree with statuses.**  Where every stored record agrees with its status, every one
does after every run, whoever takes part in it and whichever calls fail; and so does every task
that a submission, a lookup or a listing has answered with. -/
theorem consistent_after (m : Memory) (h : ∀ t ∈ m.tasks, t.isConsistent = true)
    (xs : List (Happening H)) : ((opened m).after xs).ShowsConsistent := by
  have hconsistent : ((opened m).after xs).Consistent :=
    keeps_of_step (fun _ _ hs h => h.step hs) (consistent_opened h) xs
  refine ⟨hconsistent.stored, ?_, ?_, ?_⟩
  · intro i t hi
    exact hconsistent.carried i _ hi t List.mem_cons_self
  · intro i t hi
    exact hconsistent.carried i _ hi t List.mem_cons_self
  · intro i ts hi t ht
    exact hconsistent.carried i _ hi t ht

/-- A store with an invoice that waits for its recognition and one whose recognition is done. -/
def invoiceStore : Memory :=
  ⟨[Memory.invoiceTask .queued,
    { Memory.invoiceTask .succeeded with id := idOf 8, result := some (.str "paid") }], true⟩

/-- The waiting one is begun and called off, and its handler returns a value all the same; then the
owner lists his tasks. -/
def calledOffWhileRunning : List (Happening Unit) :=
  .arrive (.attempt invoiceRegistry) :: threeTurns 0 (idOf 0) ++
    [.arrive (.cancel "00000000-0000-0000-0000-000000000007" "u1"), .turn 1 .epoch (idOf 0) none,
      .finish 0 (.returned (.str "late")), .turn 0 .epoch (idOf 0) none,
      .arrive (.listing "u1" none 10), .turn 2 .epoch (idOf 0) none]

/-- The value that comes too late leaves no trace. -/
theorem consistent_when_called_off :
    (∀ t ∈ invoiceStore.tasks, t.isConsistent = true) ∧
      ((opened invoiceStore).after calledOffWhileRunning).ShowsConsistent :=
  ⟨by decide, consistent_after invoiceStore (by decide) calledOffWhileRunning⟩

example : ((opened invoiceStore).after calledOffWhileRunning).memory.tasks.map
    (fun t => (t.status, t.result.isSome, t.error.isSome)) =
      [(.canceled, false, false), (.succeeded, true, false)] := by
  decide +kernel

end Workshop

end Backlog
