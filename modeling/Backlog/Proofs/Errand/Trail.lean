import Backlog.Proofs.Errand.Basic
/-!
# The way of an errand

`Trail` says what lies behind an errand at each of its points, one case for each way to get there,
and `Trail.go` takes it through a move.  What others do in between can spoil little of it
(`Trail.wait`).  They cannot delete the task, so its record stays that of the same work.  A record
that was never touched is still the polled one, so the claim finds what the poll saw.  And a record
that has left the queue does not come back to it, so whoever finds it neither queued nor in
processing finds it ended, for good.

## Main results

* `Trail.wait` — what lies behind an errand, whatever others do.
* `trail_claimed`, `trail_rechecked`, `trail_completed` — the ways on from each point.
* `Trail.after` — what lies behind an errand after any beats.
-/

namespace Backlog

namespace Errand

variable {H : Type}

/-! ## The way of an errand -/

/-- Whether a result claims no work: nothing was found, or a request failed. -/
def IsIdle : Except StoreError (Option Processed) → Prop
  | .ok (some _) => False
  | .ok none | .error _ => True

/-- The requests that polled and claimed a task. -/
inductive Took (t : Task) : List Request → Prop where
  | claim {p c : Request} (polled : p.Polled t) (claimed : c.Writes t Update.claim) : Took t [c, p]

/-- The requests that also looked at the task again. -/
inductive Looked (t : Task) : List Request → Prop where
  | look {g : Request} {calls : List Request} (took : Took t calls) (call : g.call = .get t.id) :
      Looked t (g :: calls)

/-- A verdict on a task, the handler that began, and how it ended. -/
inductive Judged (r : Registry H) (t : Task) :
    Except String Json → List (Task × H) → List HandlerOutcome → Prop where
  | handled {h : H} (registered : r.find? t.kind = some h) (o : HandlerOutcome) :
      Judged r t o.verdict [(t, h)] [o]
  | unknown (missing : r.find? t.kind = none) :
      Judged r t (.error (TaskError.unknownKind t.kind.name).message) [] []

/-- What becomes of a task by a verdict. -/
def processed (t : Task) : Except String Json → Processed
  | .ok _ => .succeeded t.id
  | .error _ => .failed t.id

/-- What lies behind an errand, for each point and each way to get there. -/
inductive Trail (r : Registry H) : Errand H → Prop where
  | poll {m : Memory} : Trail r ⟨m, .poll, [], [], []⟩
  | unpolled {m : Memory} {p : Request} {result : Except StoreError (Option Processed)}
      (call : p.call = .oldestQueued) (none : ∀ u, ¬ p.Polled u) (idle : IsIdle result) :
      Trail r ⟨m, .done result, [p], [], []⟩
  | claim {m : Memory} {t : Task} {p : Request} (polled : p.Polled t)
      (stored : m.Holds t.id t.Unclaimed) : Trail r ⟨m, .claim t, [p], [], []⟩
  | unclaimed {m : Memory} {t : Task} {p c : Request}
      {result : Except StoreError (Option Processed)} (polled : p.Polled t)
      (call : c.call = .updateIf t.id (Guard.status .queued) Update.claim) (left : c.Idle)
      (idle : IsIdle result) : Trail r ⟨m, .done result, [c, p], [], []⟩
  | recheck {m : Memory} {t : Task} {calls : List Request} (took : Took t calls)
      (stored : m.Holds t.id t.Claimed) : Trail r ⟨m, .recheck t, calls, [], []⟩
  | skipped {m : Memory} {t u : Task} {g : Request} {calls : List Request} (took : Took t calls)
      (call : g.call = .get t.id) (reached : g.failed = false) (met : g.met.find? t.id = some u)
      (terminal : u.status.isTerminal = true) :
      Trail r ⟨m, .done (.ok (some (.skipped t.id))), g :: calls, [], []⟩
  | handle {m : Memory} {t : Task} {h : H} {calls : List Request} (looked : Looked t calls)
      (registered : r.find? t.kind = some h) (stored : m.Holds t.id t.Claimed) :
      Trail r ⟨m, .handle t h, calls, [(t, h)], []⟩
  | complete {m : Memory} {t : Task} {v : Except String Json} {calls : List Request}
      {begun : List (Task × H)} {ended : List HandlerOutcome} (looked : Looked t calls)
      (judged : Judged r t v begun ended) (stored : m.Holds t.id t.Claimed) :
      Trail r ⟨m, .complete t v, calls, begun, ended⟩
  | written {m : Memory} {t a : Task} {v : Except String Json} {d : Request}
      {calls : List Request} {begun : List (Task × H)} {ended : List HandlerOutcome}
      (looked : Looked t calls) (judged : Judged r t v begun ended) (same : t.SameWork a)
      (processing : a.status = .processing) (written : d.Writes a (Attempt.verdictUpdate v)) :
      Trail r ⟨m, .done (.ok (some (processed t v))), d :: calls, begun, ended⟩
  | superseded {m : Memory} {t u : Task} {v : Except String Json} {d : Request}
      {calls : List Request} {begun : List (Task × H)} {ended : List HandlerOutcome}
      (looked : Looked t calls) (judged : Judged r t v begun ended)
      (call : d.call = .updateIf t.id (Guard.status .processing) (Attempt.verdictUpdate v))
      (left : d.Idle) (met : d.met.find? t.id = some u) (terminal : u.status.isTerminal = true)
      (stored : m.Holds t.id (· = u)) :
      Trail r ⟨m, .done (.ok (some (.superseded t.id))), d :: calls, begun, ended⟩
  | refused {m : Memory} {t : Task} {v : Except String Json} {d : Request} {x : StoreError}
      {calls : List Request} {begun : List (Task × H)} {ended : List HandlerOutcome}
      (looked : Looked t calls) (judged : Judged r t v begun ended)
      (call : d.call = .updateIf t.id (Guard.status .processing) (Attempt.verdictUpdate v))
      (left : d.Idle) : Trail r ⟨m, .done (.error x), d :: calls, begun, ended⟩

variable {r : Registry H} {e : Errand H} {m : Memory} {t : Task}
variable {calls : List Request} {begun : List (Task × H)} {ended : List HandlerOutcome}
variable {now : Instant} {fault : Option StoreError} {outcome : HandlerOutcome}

/-- What an errand has behind it no others undo. -/
theorem Trail.wait (h : Trail r e) (es : List StoreEvent) : Trail r (e.wait es) := by
  cases h with
  | poll => exact .poll
  | unpolled call none idle => exact .unpolled call none idle
  | claim polled stored => exact .claim polled (stored.after Task.Unclaimed.advances es)
  | unclaimed polled call left idle => exact .unclaimed polled call left idle
  | recheck took stored => exact .recheck took (stored.after Task.Claimed.advances es)
  | skipped took call reached met terminal => exact .skipped took call reached met terminal
  | handle looked registered stored =>
    exact .handle looked registered (stored.after Task.Claimed.advances es)
  | complete looked judged stored =>
    exact .complete looked judged (stored.after Task.Claimed.advances es)
  | written looked judged same processing written =>
    exact .written looked judged same processing written
  | superseded looked judged call left met terminal stored =>
    refine .superseded looked judged call left met terminal (stored.after ?_ es)
    rintro a b hadv rfl
    exact hadv.eq_of_terminal terminal
  | refused looked judged call left => exact .refused looked judged call left

/-- From the poll an errand goes on with the first of the queue, or ends. -/
theorem trail_polled (hids : (m.tasks.map Task.id).Nodup) :
    Trail r ((⟨m, .poll, [], [], []⟩ : Errand H).go r now fault outcome) := by
  simp only [go, Attempt.move, ask]
  cases hr : (m.answer now fault .oldestQueued).2 with
  | error x => exact .unpolled rfl (fun u hu => by cases hr.symm.trans hu.answer) trivial
  | ok found =>
    cases found with
    | none => exact .unpolled rfl (fun u hu => by cases hr.symm.trans hu.answer) trivial
    | some t =>
      have hpolled := Request.polled_of_reply hids hr
      have hleft : (m.answer now fault .oldestQueued).1 = m := hpolled.idle
      rw [hleft]
      exact .claim hpolled ⟨t, hpolled.stored, .refl t, fun _ => rfl⟩

/-- A claim takes the very task that was polled, or nothing at all. -/
theorem trail_claimed (hids : (m.tasks.map Task.id).Nodup) {p : Request} (polled : p.Polled t)
    (stored : m.Holds t.id t.Unclaimed) :
    Trail r ((⟨m, .claim t, [p], [], []⟩ : Errand H).go r now fault outcome) := by
  simp only [go, Attempt.move, ask]
  cases hr : (m.answer now fault (.updateIf t.id (Guard.status .queued) Update.claim)).2 with
  | error x => exact .unclaimed polled rfl (Request.idle_of_error hr) trivial
  | ok rows =>
    by_cases hrows : rows = 0
    · subst hrows
      exact .unclaimed polled rfl (Request.idle_of_zero hids hr) trivial
    · obtain ⟨a, hid, hqueued, hwrites⟩ := Request.writes_of_pos hr (Nat.pos_of_ne_zero hrows)
      obtain ⟨u, hu, hsame, honly⟩ := stored
      have hmet : m.find? a.id = some a := hwrites.met
      obtain rfl : a = u := by
        rw [hid, hu] at hmet
        exact (Option.some.inj hmet).symm
      obtain rfl : a = t := honly hqueued
      simp only [Attempt.claimed, if_neg hrows]
      refine .recheck (.claim polled hwrites) ⟨_, hwrites.left, Update.sameWork_apply _ _ _, ?_⟩
      exact Status.noConfusion

/-- Unless the task has ended meanwhile, its handler begins, or its kind has none. -/
theorem trail_dispatched {g : Request} (took : Took t calls) (call : g.call = .get t.id)
    (stored : m.Holds t.id t.Claimed) :
    Trail r ⟨m, Attempt.dispatch r t, g :: calls, (Attempt.dispatch r t).opening, []⟩ := by
  unfold Attempt.dispatch
  cases hfind : r.find? t.kind with
  | some h => exact .handle (.look took call) hfind stored
  | none => exact .complete (.look took call) (.unknown hfind) stored

theorem trail_rechecked (took : Took t calls) (stored : m.Holds t.id t.Claimed) :
    Trail r ((⟨m, .recheck t, calls, [], []⟩ : Errand H).go r now fault outcome) := by
  have hleft : (m.answer now fault (.get t.id)).1 = m := Memory.answer_lookup rfl m now fault
  simp only [go, Attempt.move, ask, List.append_nil, hleft]
  cases hr : (m.answer now fault (.get t.id)).2 with
  | error x => exact trail_dispatched took rfl stored
  | ok found =>
    have hfound : m.find? t.id = found := Except.ok.inj (Memory.answer_ok hr).2
    obtain ⟨u, hu, hclaimed⟩ := stored
    rw [hu] at hfound
    subst hfound
    by_cases hstatus : u.status = .processing
    · simp only [Attempt.rechecked, if_pos hstatus]
      exact trail_dispatched took rfl ⟨u, hu, hclaimed⟩
    · simp only [Attempt.rechecked, if_neg hstatus]
      refine .skipped took rfl ?_ hu (hclaimed.isTerminal hstatus)
      rw [Request.failed, hr]

/-- The completion writes to the task if it is still in processing, and to nothing otherwise. -/
theorem trail_completed (hids : (m.tasks.map Task.id).Nodup) {v : Except String Json}
    (looked : Looked t calls) (judged : Judged r t v begun ended)
    (stored : m.Holds t.id t.Claimed) :
    Trail r ((⟨m, .complete t v, calls, begun, ended⟩ : Errand H).go r now fault outcome) := by
  simp only [go, Attempt.move, ask]
  obtain ⟨u, hu, hclaimed⟩ := stored
  cases hr : (m.answer now fault
      (.updateIf t.id (Guard.status .processing) (Attempt.verdictUpdate v))).2 with
  | error x => exact .refused looked judged rfl (Request.idle_of_error hr)
  | ok rows =>
    by_cases hrows : rows = 0
    · subst hrows
      have hidle := Request.idle_of_zero hids hr
      have hleft := hidle
      simp only [Request.Idle, Request.left] at hleft
      rw [hleft]
      have hstatus : u.status ≠ .processing := by
        intro hprocessing
        refine Memory.mayChange_of_zero hr hu ?_
        cases v <;> simp [Update.mayChange, Guard.allows, Guard.status, Attempt.verdictUpdate,
          Update.succeed, Update.fail, hprocessing, Status.canBecome]
      exact .superseded looked judged rfl hidle hu (hclaimed.isTerminal hstatus) ⟨u, hu, rfl⟩
    · obtain ⟨a, hid, hprocessing, hwrites⟩ := Request.writes_of_pos hr (Nat.pos_of_ne_zero hrows)
      have hmet : m.find? a.id = some a := hwrites.met
      obtain rfl : a = u := by
        rw [hid, hu] at hmet
        exact (Option.some.inj hmet).symm
      have hend := Trail.written (m := (m.answer now fault (.updateIf t.id
        (Guard.status .processing) (Attempt.verdictUpdate v))).1) looked judged hclaimed.1
        hprocessing hwrites
      cases v <;> simpa [Attempt.completed, hrows, Attempt.opening, processed] using hend

/-- What lies behind an errand after a move. -/
theorem Trail.go (h : Trail r e) (hids : (e.memory.tasks.map Task.id).Nodup) (now : Instant)
    (fault : Option StoreError) (outcome : HandlerOutcome) :
    Trail r (e.go r now fault outcome) := by
  cases h with
  | poll => exact trail_polled hids
  | claim polled stored => exact trail_claimed hids polled stored
  | recheck took stored => exact trail_rechecked took stored
  | handle looked registered stored =>
    exact .complete looked (.handled registered outcome) stored
  | complete looked judged stored => exact trail_completed hids looked judged stored
  | unpolled call none idle => exact .unpolled call none idle
  | unclaimed polled call left idle => exact .unclaimed polled call left idle
  | skipped took call reached met terminal => exact .skipped took call reached met terminal
  | written looked judged same processing written =>
    exact .written looked judged same processing written
  | superseded looked judged call left met terminal stored =>
    exact .superseded looked judged call left met terminal stored
  | refused looked judged call left => exact .refused looked judged call left

/-- What lies behind an errand after some beats. -/
theorem Trail.after (h : Trail r e) (hids : (e.memory.tasks.map Task.id).Nodup) (bs : List Beat) :
    Trail r (e.after r bs) := by
  induction bs generalizing e with
  | nil => exact h
  | cons b bs ih =>
    have hwait := Memory.nodup_ids_after hids b.others
    exact ih ((h.wait b.others).go hwait b.now b.fault b.outcome)
      ((effect_go (e.wait b.others) b.now b.fault b.outcome).nodup_ids hwait)

end Errand

end Backlog
