import Backlog.Proofs.Store.Count
import Backlog.Proofs.Workshop.Endings
import Backlog.Proofs.Workshop.Sound
import Mathlib.Algebra.BigOperators.Group.Finset.Basic
/-!
# What the parties have brought about

Every task that is stored as succeeded or failed was brought there by one party, and the party knows:
an attempt that ended with that outcome, or a sweep that says how many tasks it failed.  Nothing else
writes these statuses, and whoever wrote them learns from the reply whether the write took effect.
So what the finished parties report adds up to what is stored (`Yields`), whatever else goes on.

Tasks in processing are the other side of the account (`Attended`).  A task is in processing from a
claim on, and the attempt that won the claim either holds it still or ended with a store error: an
attempt that ends in any other way has written the outcome, or has seen that the task was taken
from it.

## Main results

* `total_append`, `total_set`, `Step.total_eq` — sums over the parties.
* `Yields.step` — stored outcomes are those that parties report.
* `Attended.step` — who has to do with a task in processing.
-/

namespace Backlog

variable {H : Type}

namespace Party

/-- How many tasks a party that has ended brought into a status. -/
def yield (s : Status) : Party H → Nat
  | attempt _ (.done (.ok (some (.succeeded _)))) => if s = .succeeded then 1 else 0
  | attempt _ (.done (.ok (some (.failed _)))) => if s = .failed then 1 else 0
  | sweep (.done (.ok n)) => if s = .failed then n else 0
  | _ => 0

/-- Who arrives has brought nothing about. -/
theorem yield_arrival (s : Status) (a : Arrival H) : a.party.yield s = 0 := by
  cases a <;> rfl

/-- Who still asks for something has not ended. -/
theorem yield_asking (s : Status) {now : Instant} {fresh : TaskId} {p : Party H} {c : StoreCall}
    {next : c.Reply → Party H} (asks : p.Asks now fresh c next) : p.yield s = 0 := by
  cases asks <;> rfl

/-- What an attempt yields by the reply to its outcome. -/
theorem yield_completed {s : Status} (r : Registry H) (t : Task)
    (v : Except String Json) {m : Memory} {now : Instant} {fault : Option StoreError}
    {reply : Except StoreError Nat}
    (hr : (m.answer now fault (.updateIf t.id (Guard.status .processing)
      (Attempt.verdictUpdate v))).2 = reply) :
    (attempt r (Attempt.completed t v reply).1).yield s =
      Memory.gain s (.updateIf t.id (Guard.status .processing) (Attempt.verdictUpdate v)) reply := by
  cases reply with
  | error e => rfl
  | ok rows =>
      have hle : rows ≤ 1 := by
        rw [← Except.ok.inj (Memory.answer_ok hr).2]
        exact Memory.changes_le_one _ _ _ _
      simp only [Attempt.completed, Memory.gain]
      split
      · next hzero =>
          subst hzero
          simp [yield]
      · next hpos =>
          have hone : rows = 1 := by omega
          subst hone
          cases v <;> simp [yield, Attempt.verdictUpdate, Update.succeed, Update.fail, eq_comm]

/-- What a party yields after a call is what the call brought about. -/
theorem yield_of_asks {s : Status} (hs : s = .succeeded ∨ s = .failed) {now : Instant}
    {fresh : TaskId} {p : Party H} {c : StoreCall} {next : c.Reply → Party H}
    (asks : p.Asks now fresh c next)
    (hq : ∀ s t, p = submit (.insert s t) → t.status = .queued) (m : Memory)
    (fault : Option StoreError) :
    (next (m.answer now fault c).2).yield s = Memory.gain s c (m.answer now fault c).2 := by
  generalize hr : (m.answer now fault c).2 = reply
  cases asks with
  | complete => exact yield_completed _ _ _ hr
  | poll => rcases reply with _ | _ | _ <;> rfl
  | claim =>
      rcases reply with _ | rows
      · rfl
      · have hgain : Memory.gain s (.updateIf _ (Guard.status .queued) Update.claim)
            (.ok rows) = 0 := by
          rcases hs with rfl | rfl <;> rfl
        rw [hgain]
        simp only [Attempt.claimed]
        split <;> rfl
  | recheck =>
      rcases reply with _ | _ | u
      · simp only [Attempt.rechecked, Attempt.dispatch]
        split <;> rfl
      · rfl
      · simp only [Attempt.rechecked, Attempt.dispatch]
        split
        · split <;> rfl
        · rfl
  | search | searchAgain => rcases reply with _ | _ | _ <;> rfl
  | insert =>
      rcases reply with (_ | _ | _) | _
      · rfl
      · rfl
      · rfl
      · have hqueued := hq _ _ rfl
        simp only [Memory.gain, hqueued]
        rcases hs with rfl | rfl <;> rfl
  | cancelWrite =>
      rcases reply with _ | rows
      · rfl
      · have hgain : Memory.gain s (.updateIf _ (Cancel.guard _) Update.cancel) (.ok rows) = 0 := by
          rcases hs with rfl | rfl <;> rfl
        exact hgain.symm
  | sweep => cases reply <;> rfl
  | cancelRead | lookup => rcases reply with _ | _ | _ <;> rfl
  | listing => cases reply <;> rfl

end Party

namespace Workshop

variable {w w' : Workshop H}

/-! ## Sums over the parties -/

section Total

variable {g g' : Nat → Party H → Nat} {ps qs : List (Party H)}

/-- What parties add up to, each counted by its place and the point it stands at. -/
def total (g : Nat → Party H → Nat) (ps : List (Party H)) : Nat :=
  ∑ i ∈ Finset.range ps.length, (ps[i]?).elim 0 (g i)

/-- Parties that count the same add up to the same. -/
theorem total_congr (h : ∀ i p, ps[i]? = some p → g i p = g' i p) : total g ps = total g' ps := by
  refine Finset.sum_congr rfl fun i _ => ?_
  cases hi : ps[i]? with
  | none => rfl
  | some p => exact h i p hi

theorem total_add (g g' : Nat → Party H → Nat) (ps : List (Party H)) :
    total g ps + total g' ps = total (fun i p => g i p + g' i p) ps := by
  unfold total
  rw [← Finset.sum_add_distrib]
  refine Finset.sum_congr rfl fun i _ => ?_
  cases ps[i]? <;> rfl

/-- Two sums that differ at one place. -/
theorem total_except {k : Nat} (hlen : qs.length = ps.length) (hk : k < ps.length)
    (h : ∀ i, i ≠ k → (qs[i]?).elim 0 (g' i) = (ps[i]?).elim 0 (g i)) :
    total g' qs + (ps[k]?).elim 0 (g k) = total g ps + (qs[k]?).elim 0 (g' k) := by
  have hmem : k ∈ Finset.range ps.length := Finset.mem_range.2 hk
  have hothers : ∑ i ∈ (Finset.range ps.length).erase k, (qs[i]?).elim 0 (g' i) =
      ∑ i ∈ (Finset.range ps.length).erase k, (ps[i]?).elim 0 (g i) :=
    Finset.sum_congr rfl fun i hi => h i (Finset.ne_of_mem_erase hi)
  have hnew := Finset.add_sum_erase _ (fun i => (qs[i]?).elim 0 (g' i)) hmem
  have hold := Finset.add_sum_erase _ (fun i => (ps[i]?).elim 0 (g i)) hmem
  unfold total
  rw [hlen]
  omega

/-- One party is counted differently. -/
theorem total_recount {k : Nat} {p : Party H} (hk : ps[k]? = some p)
    (h : ∀ i, i ≠ k → g' i = g i) : total g' ps + g k p = total g ps + g' k p := by
  have hlt : k < ps.length := (List.getElem?_eq_some_iff.1 hk).1
  have hothers : ∀ i, i ≠ k → (ps[i]?).elim 0 (g' i) = (ps[i]?).elim 0 (g i) := by
    intro i hi
    rw [h i hi]
  have hsum := total_except rfl hlt hothers
  rw [hk] at hsum
  exact hsum

/-- One party goes on. -/
theorem total_set {k : Nat} {p : Party H} (hk : ps[k]? = some p) (q : Party H) :
    total g (ps.set k q) + g k p = total g ps + g k q := by
  have hlt : k < ps.length := (List.getElem?_eq_some_iff.1 hk).1
  have hothers : ∀ i, i ≠ k → ((ps.set k q)[i]?).elim 0 (g i) = (ps[i]?).elim 0 (g i) := by
    intro i hi
    rw [List.getElem?_set_ne (Ne.symm hi)]
  have hsum := total_except List.length_set hlt hothers
  rw [hk, List.getElem?_set_self hlt] at hsum
  exact hsum

/-- One more party adds what it counts. -/
theorem total_append (g : Nat → Party H → Nat) (ps : List (Party H)) (p : Party H) :
    total g (ps ++ [p]) = total g ps + g ps.length p := by
  unfold total
  rw [List.length_append, List.length_singleton, Finset.sum_range_succ,
    List.getElem?_concat_length]
  refine congrArg (· + g ps.length p) (Finset.sum_congr rfl fun i hi => ?_)
  rw [List.getElem?_append_left (Finset.mem_range.1 hi)]

/-- A step leaves a sum as it is where arrivals count nothing and nobody counts anew. -/
theorem Step.total_eq (hs : w.Step w') (harrive : ∀ a : Arrival H, g w.parties.length a.party = 0)
    (h : ∀ i p q, w.parties[i]? = some p → Proceeds w w' i p q → g i q = g i p) :
    total g w'.parties = total g w.parties := by
  have hgo : ∀ {k : Nat} {p q : Party H}, w.parties[k]? = some p →
      w'.parties = w.parties.set k q → total g w'.parties = total g w.parties := by
    intro k p q hk hq
    obtain ⟨q', hq', hproceeds⟩ := hs.proceeds hk
    rw [hq, List.getElem?_set_self (List.getElem?_eq_some_iff.1 hk).1] at hq'
    cases hq'
    have hsum := total_set (g := g) hk q
    rw [h k p q hk hproceeds] at hsum
    rw [hq]
    exact Nat.add_right_cancel hsum
  cases hs with
  | idle | switch _ => rfl
  | arrive a => exact (total_append g w.parties a.party).trans (by rw [harrive, Nat.add_zero])
  | signal stands => exact hgo stands rfl
  | ask _ stands _ => exact hgo stands rfl
  | handled _ stands => exact hgo stands rfl

end Total

/-! ## Stored outcomes -/

/-- What is stored as succeeded or failed is what parties report. -/
def Yields (w : Workshop H) : Prop :=
  ∀ s, s = .succeeded ∨ s = .failed → w.memory.tally s = total (fun _ p => p.yield s) w.parties

theorem yields_opened {m : Memory} (h : m.tasks = []) : (opened m : Workshop H).Yields := by
  intro s _
  rw [Memory.tally, opened, h]
  rfl

/-- What is stored is what parties report, through everything that can happen. -/
theorem Yields.step (hs : w.Step w') (h : w.Yields) (ho : w.Orderly)
    (ha : Memory.Apart w.memory.tasks) : w'.Yields := by
  intro s hstatus
  have hterminal : s.isTerminal = true := by rcases hstatus with rfl | rfl <;> rfl
  have hold := h s hstatus
  cases hs with
  | idle | switch _ => exact hold
  | arrive a =>
      refine hold.trans ((total_append _ w.parties a.party).trans ?_).symm
      rw [Party.yield_arrival, Nat.add_zero]
  | @signal i t stands =>
      have hsum := total_set (g := fun _ p => p.yield s) stands (.submit (.done (.ok t)))
      exact hold.trans hsum.symm
  | @handled i r t k outcome stands =>
      have hsum := total_set (g := fun _ p => p.yield s) stands
        (.attempt r ((Attempt.handle t k).handled outcome))
      exact hold.trans hsum.symm
  | @ask i p c next now fresh fault stands asks =>
      have hqueued : ∀ f t, p = .submit (.insert f t) → t.status = .queued := by
        rintro f t rfl
        exact ho.queued i f t stands
      have hsum := total_set (g := fun _ p => p.yield s) stands (next (w.memory.answer now fault c).2)
      simp only [Party.yield_asking s asks, Nat.add_zero,
        Party.yield_of_asks hstatus asks hqueued w.memory fault] at hsum
      rw [← hold] at hsum
      exact (Memory.tally_answer ha hterminal now fault c).trans hsum.symm

/-! ## Tasks in processing -/

/-- Who has to do with a task in processing: the attempt that won its claim, and holds it or ended
with a store error. -/
def AttendedBy (w : Workshop H) (id : TaskId) (i : Nat) : Prop :=
  (∃ d ∈ w.history, d.party = i ∧ d.isClaimOf id = true) ∧
    ∃ (r : Registry H) (a : Attempt H), w.parties[i]? = some (.attempt r a) ∧
      ((∃ t, a.claimed? = some t ∧ t.id = id) ∨ ∃ e, a = .done (.error e))

/-- Every task in processing has such an attempt. -/
def Attended (w : Workshop H) : Prop :=
  ∀ u ∈ w.memory.tasks, u.status = .processing → ∃ i, w.AttendedBy u.id i

/-- An attempt that holds a task goes on with it, or ends with a store error, as long as the task
is left alone. -/
theorem held_of_asks {now : Instant} {fresh : TaskId} {r : Registry H} {a : Attempt H}
    {c : StoreCall} {next : c.Reply → Party H} (asks : (Party.attempt r a).Asks now fresh c next)
    {m : Memory} {fault : Option StoreError} {t u : Task} (ha : a.claimed? = some t)
    (hu : m.find? t.id = some u) (hprocessing : u.status = .processing)
    (hafter : (m.answer now fault c).1.find? t.id = some u) :
    ∃ b, next (m.answer now fault c).2 = .attempt r b ∧
      (b.claimed? = some t ∨ ∃ e, b = .done (.error e)) := by
  have hdispatch : (Attempt.dispatch r t).claimed? = some t := by
    unfold Attempt.dispatch
    split <;> rfl
  cases asks with
  | poll | claim => cases ha
  | recheck =>
      cases ha
      refine ⟨_, rfl, ?_⟩
      rcases hr : (m.answer now fault (.get t.id)).2 with e | found
      · exact Or.inl hdispatch
      · obtain ⟨_, hfound⟩ := Memory.answer_ok hr
        have hsame : found = some u := (Except.ok.inj hfound).symm.trans hu
        rw [hsame]
        simp only [Attempt.rechecked, if_pos hprocessing]
        exact Or.inl hdispatch
  | @complete _ _ v =>
      cases ha
      refine ⟨_, rfl, Or.inr ?_⟩
      rcases hr : (m.answer now fault (.updateIf t.id (Guard.status .processing)
        (Attempt.verdictUpdate v))).2 with e | rows
      · exact ⟨e, rfl⟩
      · exfalso
        have hmay : (Attempt.verdictUpdate v).mayChange (Guard.status .processing) u = true := by
          simp only [Update.mayChange, Guard.status, Guard.allows, hprocessing]
          cases v <;> rfl
        by_cases hrows : rows = 0
        · subst hrows
          exact Memory.mayChange_of_zero hr hu hmay
        · obtain ⟨_, _, _, hwritten⟩ := Memory.updateIf_ok hr (Nat.pos_of_ne_zero hrows)
          rw [hafter] at hwritten
          rw [Option.some.inj hwritten, Update.status_apply] at hprocessing
          cases v <;> cases hprocessing

/-- A task that is left in processing keeps the attempt that has to do with it. -/
theorem AttendedBy.step (hs : w.Step w') {u : Task} {i : Nat}
    (hby : w.AttendedBy u.id i) (hu : w.memory.find? u.id = some u)
    (hprocessing : u.status = .processing) (hafter : w'.memory.find? u.id = some u) :
    w'.AttendedBy u.id i := by
  obtain ⟨⟨d, hd, hdi, hclaim⟩, r, a, hi, hpoint⟩ := hby
  refine ⟨⟨d, hs.grows.history hd, hdi, hclaim⟩, ?_⟩
  obtain ⟨q, hq, hproceeds⟩ := hs.proceeds hi
  cases hproceeds with
  | stay => exact ⟨r, a, hq, hpoint⟩
  | signal stood => cases stood
  | handled outcome stood =>
      cases stood
      rcases hpoint with ⟨t, ht, hid⟩ | ⟨e, he⟩
      · exact ⟨_, _, hq, Or.inl ⟨t, ht, hid⟩⟩
      · cases he
  | ask fault asks here =>
      rcases hpoint with ⟨t, ht, hid⟩ | ⟨e, he⟩
      · rw [here] at hafter
        rw [← hid] at hu hafter
        obtain ⟨b, hb, hheld⟩ := held_of_asks asks ht hu hprocessing hafter
        rw [hb] at hq
        refine ⟨r, b, hq, ?_⟩
        rcases hheld with hheld | herror
        · exact Or.inl ⟨t, hheld, hid⟩
        · exact Or.inr herror
      · subst he
        cases asks

theorem attended_opened {m : Memory} (h : m.tasks = []) : (opened m : Workshop H).Attended := by
  intro u hu
  rw [opened, h] at hu
  cases hu

/-- Whoever has to do with a task in processing, through everything that can happen. -/
theorem Attended.step (hs : w.Step w') (h : w.Attended) (hsound : w.Sound) : w'.Attended := by
  have hsound' := hsound.step hs
  intro u hmem hprocessing
  have hafter := hsound'.apart.find?_of_mem hmem
  rcases hs.origin hsound.orderly hafter with ⟨t, ht, rfl | ⟨i, hrewrites⟩⟩ | ⟨_, hqueued, _⟩
  · obtain ⟨i, hby⟩ := h u (Memory.find?_some ht).1 hprocessing
    exact ⟨i, hby.step hs ht hprocessing hafter⟩
  · cases hrewrites with
    | claim _ target _ stands =>
        obtain ⟨d, hd, hdi, hclaim⟩ := hsound'.orderly.won stands rfl
        refine ⟨i, ⟨d, hd, hdi, ?_⟩, _, _, stands, Or.inl ⟨_, rfl, target.symm⟩⟩
        rw [Update.id_apply, target]
        exact hclaim
    | @outcome _ _ v _ _ _ _ _ _ => cases v <;> cases hprocessing
    | cancel _ _ _ => cases hprocessing
    | sweep _ _ _ => cases hprocessing
  · rw [hqueued] at hprocessing
    cases hprocessing

end Workshop

end Backlog
