import Backlog.Proofs.Store.Effect
import Mathlib.Data.List.Chain
/-!
# Histories of the store in memory

A history is a list of calls, each with the reading of the clock at which it is made, and of turns
of the switch that simulates an outage.  Every call may occur in it with any arguments: tasks in
any status can be inserted, under identifiers that are taken, and updates to any status can be
made under any guard.

Such a history can do little to a task that is stored.  The task stays stored under its identifier;
from one state to the next its record either stays as it is or is the same work moved along one
arrow of the life of a task (`advances_meet`).  So the records it takes form a path of that life,
it is queued only as long as it was never touched, and its record is fixed once it is terminal
(`life_of_stored_task`).

## Main results

* `effect_meet` — what one event may do to the stored tasks.
* `advances_meet` — what one event makes of one stored task.
* `life_of_stored_task` — the records of a stored task over any history.
-/

namespace Backlog

/-- Something that happens to a store in memory. -/
inductive StoreEvent where
  /-- A call is made at a reading of the clock. -/
  | call (now : Instant) (c : StoreCall)
  /-- The store goes offline or comes back. -/
  | switch (online : Bool)

namespace Memory

/-- The store after an event. -/
def meet (m : Memory) : StoreEvent → Memory
  | .call now c => (m.exec now c).1
  | .switch online => { m with online := online }

/-- The store after a history. -/
def after (m : Memory) (es : List StoreEvent) : Memory := es.foldl meet m

/-- All states of the store during a history, the one before it first. -/
def states (m : Memory) (es : List StoreEvent) : List Memory := es.scanl meet m

/-- What one event may do to the stored tasks. -/
theorem effect_meet (m : Memory) (e : StoreEvent) : Effect m.tasks (m.meet e).tasks := by
  cases e with
  | call now c => exact effect_exec m now c
  | switch online => exact .keep

/-- What one event makes of one stored task. -/
theorem advances_meet {m : Memory} {id : TaskId} {t : Task} (h : m.find? id = some t)
    (e : StoreEvent) : ∃ u, (m.meet e).find? id = some u ∧ t.Advances u :=
  (effect_meet m e).find? h

/-- A stored task has a record in every state of a history, and each record advances to the
next. -/
theorem records_of_history {id : TaskId} (es : List StoreEvent) :
    ∀ {m : Memory} {t : Task}, m.find? id = some t →
      ∃ life : List Task, (m.states es).map (fun n => n.find? id) = (t :: life).map some ∧
        (t :: life).IsChain Task.Advances := by
  induction es with
  | nil =>
      intro m t h
      refine ⟨[], ?_, .singleton t⟩
      simp [states, h]
  | cons e es ih =>
      intro m t h
      obtain ⟨u, hu, hadv⟩ := advances_meet h e
      obtain ⟨life, hlife, hchain⟩ := ih hu
      refine ⟨u :: life, ?_, .cons_cons hadv hchain⟩
      simp only [states, List.scanl_cons, List.map_cons, h] at hlife ⊢
      rw [hlife]

/-- Whatever holds of a record and what it advances to, and is transitive, holds of every record
and every later one. -/
theorem pairwise_of_records {R : Task → Task → Prop} (step : ∀ t u, t.Advances u → R t u)
    (trans : ∀ t u v, R t u → R u v → R t v) {life : List Task}
    (h : life.IsChain Task.Advances) : life.Pairwise R := by
  have : Trans R R R := ⟨fun {a b c} hab hbc => trans a b c hab hbc⟩
  exact List.isChain_iff_pairwise.1 (h.imp step)

/-- **The life of a stored task.**  Over any history it stays stored under its identifier and stays
the same work; from each state to the next its record is unchanged or its status has moved along
an arrow; a record that is followed by a queued one, or is terminal, is followed by itself. -/
theorem life_of_stored_task {m : Memory} {id : TaskId} {t : Task} (h : m.find? id = some t)
    (es : List StoreEvent) :
    ∃ life : List Task, (m.states es).map (fun n => n.find? id) = (t :: life).map some ∧
      (∀ u ∈ life, t.SameWork u) ∧
      (t :: life).IsChain (fun a b => b = a ∨ a.status.canBecome b.status = true) ∧
      (t :: life).Pairwise (fun a b => b.status = .queued → b = a) ∧
      (t :: life).Pairwise (fun a b => a.status.isTerminal = true → b = a) := by
  obtain ⟨life, hlife, hchain⟩ := records_of_history es h
  refine ⟨life, hlife, ?_, ?_, ?_, ?_⟩
  · have hwork := pairwise_of_records (fun _ _ => Task.Advances.sameWork)
      (fun _ _ _ => Task.SameWork.trans) hchain
    exact (List.pairwise_cons.1 hwork).1
  · refine hchain.imp ?_
    intro a b hab
    cases hab with
    | stay => exact Or.inl rfl
    | move _ arrow => exact Or.inr arrow
  · refine pairwise_of_records (fun a b hab => hab.eq_of_queued) ?_ hchain
    intro a b c hab hbc hc
    have hcb := hbc hc
    rw [hcb]
    exact hab (hcb ▸ hc)
  · refine pairwise_of_records (fun a b hab => hab.eq_of_terminal) ?_ hchain
    intro a b c hab hbc ha
    have hba := hab ha
    rw [hbc (hba ▸ ha), hba]

/-- A task in some status, the recognition of one invoice. -/
def invoiceTask (status : Status) : Task :=
  ⟨⟨7, by decide⟩, "u1", .invoiceOcr, "inv1", none, status, "u1", none, none, .epoch, .epoch⟩

/-- The life of a task that is claimed, goes through an outage, and is failed by a sweep. -/
theorem life_of_invoiceTask :
    (Memory.mk [invoiceTask .queued] true).find? ⟨7, by decide⟩ = some (invoiceTask .queued) ∧
    ∃ life : List Task,
      ((Memory.mk [invoiceTask .queued] true).states
        [.call .epoch (.updateIf ⟨7, by decide⟩ (Guard.status .queued) Update.claim),
          .switch false, .call .latest (.failStale .latest "late"), .switch true,
          .call .latest (.failStale .latest "late")]).map (fun n => n.find? ⟨7, by decide⟩) =
        (invoiceTask .queued :: life).map some ∧
      (∀ u ∈ life, (invoiceTask .queued).SameWork u) ∧
      (invoiceTask .queued :: life).IsChain
        (fun a b => b = a ∨ a.status.canBecome b.status = true) ∧
      (invoiceTask .queued :: life).Pairwise (fun a b => b.status = .queued → b = a) ∧
      (invoiceTask .queued :: life).Pairwise (fun a b => a.status.isTerminal = true → b = a) :=
  ⟨rfl, life_of_stored_task rfl _⟩

end Memory

end Backlog
