import Backlog.Proofs.Errand.Report
import Backlog.Proofs.Task.RoundTrip
/-!
# The outcome of an errand, read back

The record with which an errand ends a task stays as it was written, since nobody can change a task
that has ended (`Lasting`).  So a task that is reported as succeeded is stored with the very value
that its handler returned, then and at every later time.

Its JSON form tells whoever reads it that the task succeeded and with what, for every value but one.
An optional field that is absent is written as `null`, and so is a result that is `null`: it reads
as no result, and the task that is read back has succeeded without one, which no stored task ever
has.

## Main results

* `Lasting.after` — what an errand ended stays as it was written.
* `Task.SucceededWith.read_back` — what the JSON form of a succeeded task tells.
* `succeeded_read_back` — both for the task that an errand reports as succeeded.
-/

namespace Backlog

/-! ## Succeeded tasks -/

namespace Task

/-- The task succeeded with a value. -/
structure SucceededWith (t : Task) (v : Json) : Prop where
  status : t.status = .succeeded
  result : t.result = some v
  error : t.error = none

variable {t u : Task} {v : Json}

theorem SucceededWith.isConsistent (h : t.SucceededWith v) : t.isConsistent = true := by
  rw [Task.isConsistent, h.status, h.result, h.error]
  rfl

theorem succeededWith_apply (v : Json) (t : Task) (now : Instant) :
    ((Update.succeed v).apply t now).SucceededWith v := by
  constructor <;> rfl

/-- The JSON form of a succeeded task is read as a succeeded task: with its value, unless that is
`null`, and then without a result. -/
theorem SucceededWith.read_back (h : t.SucceededWith v) :
    ∃ u, Task.ofJson? t.toJson = some u ∧ u.status = .succeeded ∧ u.error = none ∧
      (v ≠ .null → u.SucceededWith v ∧ u.isConsistent = true) ∧
      (v = .null → u.result = none ∧ u.isConsistent = false) := by
  obtain ⟨created, updated, hread⟩ := t.exists_ofJson?_toJson
  refine ⟨_, hread, h.status, h.error, fun hv => ?_, fun hv => ?_⟩
  · have hwith : SucceededWith { t with
        kind := .ofName t.kind.name
        result := Json.kept t.result
        createdAt := created
        updatedAt := updated } v := by
      constructor
      · exact h.status
      · rw [h.result]
        exact Json.kept_of_ne_null hv
      · exact h.error
    exact ⟨hwith, hwith.isConsistent⟩
  · subst hv
    have hkept : Json.kept t.result = none := by
      rw [h.result]
      rfl
    refine ⟨hkept, ?_⟩
    rw [Task.isConsistent]
    simp only [h.status, hkept]
    rfl

end Task

namespace Errand

variable {H : Type} {r : Registry H} {e : Errand H}

/-! ## What was ended stays -/

/-- Every record with which the errand ended a task is still stored as it was written. -/
def Lasting (e : Errand H) : Prop :=
  ∀ q ∈ e.calls, ∀ a u, q.Writes a u → u.status.isTerminal = true →
    e.memory.Holds a.id (· = u.apply a q.now)

/-- No advance changes a record that has ended. -/
theorem eq_of_advances_of_ended {a : Task} {u : Update} {now : Instant}
    (hu : u.status.isTerminal = true) :
    ∀ b c, Task.Advances b c → b = u.apply a now → c = u.apply a now := by
  rintro b c hadv rfl
  exact hadv.eq_of_terminal hu

theorem lasting_start (m : Memory) : (start m : Errand H).Lasting := by
  intro q hq
  exact absurd hq List.not_mem_nil

theorem Lasting.wait (h : e.Lasting) (es : List StoreEvent) : (e.wait es).Lasting := by
  intro q hq a u hwrites hu
  exact (h q hq a u hwrites hu).after (eq_of_advances_of_ended hu) es

/-- A request undoes no end, and the end that it writes itself is stored. -/
theorem Lasting.ask (h : e.Lasting) (now : Instant) (fault : Option StoreError) (c : StoreCall)
    (next : c.Reply → Attempt H) : (e.ask now fault c next).Lasting := by
  intro q hq a u hwrites hu
  rcases List.mem_cons.1 hq with rfl | hq
  · exact ⟨_, hwrites.left, rfl⟩
  · exact (h q hq a u hwrites hu).answer (eq_of_advances_of_ended hu) now fault c

theorem Lasting.go (h : e.Lasting) (now : Instant) (fault : Option StoreError)
    (outcome : HandlerOutcome) : (e.go r now fault outcome).Lasting := by
  obtain ⟨m, a, calls, begun, ended⟩ := e
  cases a with
  | handle t k => exact h
  | done x => exact h
  | poll | claim t | recheck t | complete t v => exact h.ask now fault _ _

/-- What an errand ended stays as it was written. -/
theorem Lasting.after (h : e.Lasting) (bs : List Beat) : (e.after r bs).Lasting := by
  induction bs generalizing e with
  | nil => exact h
  | cons b bs ih => exact ih ((h.wait b.others).go b.now b.fault b.outcome)

/-! ## The outcome -/

/-- **A reported success is stored with the value of the handler and read back from its JSON form**,
with that value, unless the value is `null`: then without a result, though the task has succeeded.
This is so at every time after the errand has ended, whatever others do. -/
theorem succeeded_read_back (r : Registry H) {m : Memory} (hids : (m.tasks.map Task.id).Nodup)
    (bs : List Beat) {id : TaskId}
    (hdone : ((start m).after r bs).attempt = .done (.ok (some (.succeeded id)))) :
    ∃ v t u, ((start m).after r bs).ended = [.returned v] ∧
      ((start m).after r bs).memory.find? id = some t ∧ t.SucceededWith v ∧
      Task.ofJson? t.toJson = some u ∧ u.status = .succeeded ∧ u.error = none ∧
      (v ≠ .null → u.SucceededWith v ∧ u.isConsistent = true) ∧
      (v = .null → u.result = none ∧ u.isConsistent = false) := by
  have hreport : Report r ((start m).after r bs) := (Trail.poll.after hids bs).report
  obtain ⟨p, k, v, -, hid, -, hended, q, hq, a, hsame, -, hwrites⟩ := hreport.succeeded id hdone
  have hlasting : ((start m).after r bs).Lasting := (lasting_start m).after bs
  obtain ⟨t, hfind, rfl⟩ := hlasting q hq a _ hwrites rfl
  have haid : a.id = id := hsame.id.trans hid
  have hsucceeded := Task.succeededWith_apply v a q.now
  obtain ⟨u, hu⟩ := hsucceeded.read_back
  exact ⟨v, _, u, hended, haid ▸ hfind, hsucceeded, hu⟩

/-- The recognition of an invoice whose handler returns a value. -/
def returning (v : Json) : List Beat :=
  List.replicate 5 ⟨[], .epoch, none, .returned v⟩

/-- An invoice is read back with the value of its handler. -/
theorem succeeded_read_back_of_number :
    ((Memory.mk [Memory.invoiceTask .queued] true).tasks.map Task.id).Nodup ∧
      ((start ⟨[Memory.invoiceTask .queued], true⟩).after Workshop.invoiceRegistry
        (returning (.int 7))).attempt = .done (.ok (some (.succeeded ⟨7, by decide⟩))) ∧
      ∃ v t u, ((start ⟨[Memory.invoiceTask .queued], true⟩).after Workshop.invoiceRegistry
          (returning (.int 7))).ended = [.returned v] ∧
        ((start ⟨[Memory.invoiceTask .queued], true⟩).after Workshop.invoiceRegistry
          (returning (.int 7))).memory.find? ⟨7, by decide⟩ = some t ∧ t.SucceededWith v ∧
        Task.ofJson? t.toJson = some u ∧ u.status = .succeeded ∧ u.error = none ∧
        (v ≠ .null → u.SucceededWith v ∧ u.isConsistent = true) ∧
        (v = .null → u.result = none ∧ u.isConsistent = false) :=
  ⟨by decide, rfl, succeeded_read_back Workshop.invoiceRegistry (by decide) (returning (.int 7)) rfl⟩

/-- The value `null` is lost: the invoice succeeded with it, and is read back without a result. -/
theorem null_is_not_read_back :
    ∃ t u, ((start ⟨[Memory.invoiceTask .queued], true⟩).after Workshop.invoiceRegistry
        (returning .null)).attempt = .done (.ok (some (.succeeded t.id))) ∧
      ((start ⟨[Memory.invoiceTask .queued], true⟩).after Workshop.invoiceRegistry
        (returning .null)).memory.find? t.id = some t ∧
      t.SucceededWith .null ∧ t.isConsistent = true ∧
      Task.ofJson? t.toJson = some u ∧ u.status = .succeeded ∧ u.result = none ∧
      u.isConsistent = false := by
  have hsucceeded := Task.succeededWith_apply .null (Memory.invoiceTask .processing) .epoch
  obtain ⟨u, hread, hstatus, -, -, hnull⟩ := hsucceeded.read_back
  have hlost := hnull rfl
  exact ⟨(Update.succeed .null).apply (Memory.invoiceTask .processing) .epoch, u, rfl, rfl,
    hsucceeded, hsucceeded.isConsistent, hread, hstatus, hlost.1, hlost.2⟩

end Errand

end Backlog
