import Backlog.Proofs.Errand.Trail
/-!
# What an errand reports is so

The result of an errand says truly what the errand did to the store, whatever others did between its
requests, however its handler ended, and whichever of its requests failed.  `Report` has a field for
each result, and three that hold at every time: the errand touches no task but the one that its poll
answered, the first of the queue at that moment; the handler it begins is the one of that task; and
a second look that fails holds up no handler.

A result is read off the trail.  The requests all concern the one polled task (`Concern`), and each
of the ways to end has its own list of them.

## Main results

* `Trail.concern` — no request touches another task than the polled one.
* `Trail.of_idle`, `Trail.of_reported` — what stands behind a result.
* `reports_truly` — every errand ends, and what it reports is so.
-/

namespace Backlog

namespace Errand

variable {H : Type}

variable {r : Registry H} {e : Errand H} {m : Memory} {t : Task}
variable {calls : List Request} {begun : List (Task × H)} {ended : List HandlerOutcome}

/-! ## What the requests concern -/

/-- The requests polled one task, and left every other as it was. -/
structure Concern (t : Task) (calls : List Request) : Prop where
  polled : ∃ q ∈ calls, q.Polled t
  only : ∀ q ∈ calls, ∀ u, q.Polled u → u = t
  spares : ∀ q ∈ calls, q.Idle ∨ ∀ i, i ≠ t.id → q.left.find? i = q.met.find? i

theorem concern_polled {p : Request} (h : p.Polled t) : Concern t [p] where
  polled := ⟨p, List.mem_singleton_self p, h⟩
  only := by
    intro q hq u hu
    rw [List.mem_singleton.1 hq] at hu
    exact hu.unique h
  spares := by
    intro q hq
    rw [List.mem_singleton.1 hq]
    exact Or.inl h.idle

theorem Concern.cons {q : Request} (h : Concern t calls) (hcall : q.call ≠ .oldestQueued)
    (hq : q.Idle ∨ ∀ i, i ≠ t.id → q.left.find? i = q.met.find? i) : Concern t (q :: calls) where
  polled := by
    obtain ⟨p, hp, hpolled⟩ := h.polled
    exact ⟨p, List.mem_cons_of_mem q hp, hpolled⟩
  only := by
    intro p hp u hu
    rcases List.mem_cons.1 hp with rfl | hp
    · exact absurd hu.call hcall
    · exact h.only p hp u hu
  spares := List.forall_mem_cons.2 ⟨hq, h.spares⟩

/-- An idle update concerns no other task. -/
theorem Concern.idle {d : Request} {id : TaskId} {g : Guard} {u : Update} (h : Concern t calls)
    (hcall : d.call = .updateIf id g u) (hd : d.Idle) : Concern t (d :: calls) :=
  h.cons (by rw [hcall]; exact StoreCall.noConfusion) (Or.inl hd)

/-- An update of the task concerns no other task. -/
theorem Concern.writes {d : Request} {a : Task} {u : Update} (h : Concern t calls)
    (hid : a.id = t.id) (hd : d.Writes a u) : Concern t (d :: calls) :=
  h.cons (by rw [hd.call]; exact StoreCall.noConfusion) (Or.inr (hid ▸ hd.others))

theorem Took.concern (h : Took t calls) : Concern t calls := by
  cases h with
  | claim polled claimed => exact (concern_polled polled).writes rfl claimed

theorem look_concern {g : Request} (took : Took t calls) (call : g.call = .get t.id) :
    Concern t (g :: calls) :=
  took.concern.cons (by rw [call]; exact StoreCall.noConfusion)
    (Or.inl (Request.idle_of_lookup (by rw [call]; rfl)))

theorem Looked.concern (h : Looked t calls) : Concern t calls := by
  cases h with
  | look took call => exact look_concern took call

/-- All requests of an errand concern the one task that it polled, or there is none. -/
theorem Trail.concern (h : Trail r e) :
    (∃ t, Concern t e.calls) ∨ ∀ q ∈ e.calls, q.Idle ∧ ∀ u, ¬ q.Polled u := by
  cases h with
  | poll => exact Or.inr (by simp)
  | unpolled call none idle =>
    have hleft : Request.Idle _ := Request.idle_of_lookup (by rw [call]; rfl)
    exact Or.inr (by simpa using ⟨hleft, none⟩)
  | claim polled stored => exact Or.inl ⟨_, concern_polled polled⟩
  | unclaimed polled call left idle => exact Or.inl ⟨_, (concern_polled polled).idle call left⟩
  | recheck took stored => exact Or.inl ⟨_, took.concern⟩
  | skipped took call reached met terminal => exact Or.inl ⟨_, look_concern took call⟩
  | handle looked registered stored => exact Or.inl ⟨_, looked.concern⟩
  | complete looked judged stored => exact Or.inl ⟨_, looked.concern⟩
  | written looked judged same processing written =>
    exact Or.inl ⟨_, looked.concern.writes same.id written⟩
  | superseded looked judged call left met terminal stored =>
    exact Or.inl ⟨_, looked.concern.idle call left⟩
  | refused looked judged call left => exact Or.inl ⟨_, looked.concern.idle call left⟩

/-! ## The report -/

/-- The poll of the errand answered with the task. -/
def Polled (e : Errand H) (t : Task) : Prop := ∃ q ∈ e.calls, q.Polled t

/-- The errand found the task in processing and moved it by the update. -/
def Stored (e : Errand H) (t : Task) (u : Update) : Prop :=
  ∃ q ∈ e.calls, ∃ a, t.SameWork a ∧ a.status = .processing ∧ q.Writes a u

/-- What an errand reports, and what it did. -/
structure Report (r : Registry H) (e : Errand H) : Prop where
  /-- It polls at most one task, and leaves every other as it was. -/
  polled : ∀ t u, e.Polled t → e.Polled u → t = u
  spares : ∀ q ∈ e.calls, q.Idle ∨ ∃ t, e.Polled t ∧ ∀ i, i ≠ t.id → q.left.find? i = q.met.find? i
  handlers : e.begun = [] ∨ ∃ t h, e.Polled t ∧ r.find? t.kind = some h ∧ e.begun = [(t, h)]
  nothing : e.attempt = .done (.ok none) → (∀ q ∈ e.calls, q.Idle) ∧ e.begun = []
  /-- What is reported of a task was the polled one, and the errand itself claimed it. -/
  claimed : ∀ p, e.attempt = .done (.ok (some p)) →
    ∃ t, e.Polled t ∧ t.id = p.id ∧ ∃ c ∈ e.calls, c.Writes t Update.claim
  skipped : ∀ id, e.attempt = .done (.ok (some (.skipped id))) →
    e.begun = [] ∧ ∃ q ∈ e.calls, q.call = .get id ∧
      ∃ u, q.met.find? id = some u ∧ u.status.isTerminal = true
  succeeded : ∀ id, e.attempt = .done (.ok (some (.succeeded id))) →
    ∃ t h v, e.Polled t ∧ t.id = id ∧ e.begun = [(t, h)] ∧ e.ended = [.returned v] ∧
      e.Stored t (Update.succeed v)
  failed : ∀ id, e.attempt = .done (.ok (some (.failed id))) →
    ∃ t reason, e.Polled t ∧ t.id = id ∧ Judged r t (.error reason) e.begun e.ended ∧
      e.Stored t (Update.fail reason)
  /-- The outcome came too late: the task had ended, and it stays as it was found. -/
  superseded : ∀ id, e.attempt = .done (.ok (some (.superseded id))) →
    ∃ u, u.status.isTerminal = true ∧ e.memory.find? id = some u ∧
      ∃ q ∈ e.calls, ∃ v,
        q.call = .updateIf id (Guard.status .processing) (Attempt.verdictUpdate v) ∧
        q.Idle ∧ q.met.find? id = some u
  /-- Before the claim nothing was done, and after it nothing was written. -/
  error : ∀ x, e.attempt = .done (.error x) →
    ((∀ q ∈ e.calls, q.Idle) ∧ e.begun = []) ∨
      ∃ t c later earlier, e.Polled t ∧ e.calls = later ++ c :: earlier ∧
        c.Writes t Update.claim ∧ (∀ q ∈ later, q.Idle) ∧ ∀ q ∈ earlier, q.Idle
  /-- A second look that fails holds up no handler. -/
  undeterred : ∀ q ∈ e.calls, ∀ id, q.call = .get id → q.failed = true →
    ∃ t, e.Polled t ∧ t.id = id ∧
      (r.find? t.kind = none ∨ ∃ h, r.find? t.kind = some h ∧ e.begun = [(t, h)])

/-- A verdict is from the one handler of the task, or the task's kind has none. -/
theorem Judged.cases {v : Except String Json} (h : Judged r t v begun ended) :
    (r.find? t.kind = none ∧ begun = []) ∨ ∃ k, r.find? t.kind = some k ∧ begun = [(t, k)] := by
  cases h with
  | handled registered o => exact Or.inr ⟨_, registered, rfl⟩
  | unknown missing => exact Or.inl ⟨missing, rfl⟩

/-- A value is from a handler that returned it. -/
theorem Judged.returned {x : Json} (h : Judged r t (.ok x) begun ended) :
    ∃ k, begun = [(t, k)] ∧ ended = [.returned x] := by
  generalize hv : (Except.ok x : Except String Json) = v at h
  cases h with
  | handled registered o =>
    obtain rfl := HandlerOutcome.verdict_eq_ok_iff.1 hv.symm
    exact ⟨_, rfl, rfl⟩
  | unknown missing => cases hv

/-- The requests that polled and claimed a task are among those made since. -/
theorem Took.members (h : Took t calls) :
    (∃ p ∈ calls, p.Polled t) ∧ ∃ c ∈ calls, c.Writes t Update.claim := by
  cases h with
  | @claim p c polled claimed => exact ⟨⟨p, by simp, polled⟩, c, by simp, claimed⟩

theorem Looked.members (h : Looked t calls) :
    (∃ p ∈ calls, p.Polled t) ∧ ∃ c ∈ calls, c.Writes t Update.claim := by
  cases h with
  | look took call =>
    obtain ⟨⟨p, hp, hpolled⟩, c, hc, hclaimed⟩ := took.members
    exact ⟨⟨p, List.mem_cons_of_mem _ hp, hpolled⟩, c, List.mem_cons_of_mem _ hc, hclaimed⟩

/-- A request for a task by its identifier was the second look. -/
theorem Took.call_ne_get (h : Took t calls) {q : Request} (hq : q ∈ calls) (id : TaskId) :
    q.call ≠ .get id := by
  cases h with
  | claim polled claimed =>
    rcases List.mem_pair.1 hq with rfl | rfl
    · rw [claimed.call]
      exact StoreCall.noConfusion
    · rw [polled.call]
      exact StoreCall.noConfusion

theorem Looked.id_of_get (h : Looked t calls) {q : Request} (hq : q ∈ calls) {id : TaskId}
    (hcall : q.call = .get id) : t.id = id := by
  cases h with
  | look took call =>
    rcases List.mem_cons.1 hq with rfl | hq
    · rw [call] at hcall
      exact StoreCall.get.inj hcall
    · exact absurd hcall (took.call_ne_get hq id)

/-- A claimed task is the polled one. -/
theorem Trail.claimed (h : Trail r e) {p : Processed} (hdone : e.attempt = .done (.ok (some p))) :
    ∃ t, e.Polled t ∧ t.id = p.id ∧ ∃ c ∈ e.calls, c.Writes t Update.claim := by
  have hcons : ∀ {t : Task} {d : Request} {calls : List Request},
      ((∃ p ∈ calls, p.Polled t) ∧ ∃ c ∈ calls, c.Writes t Update.claim) →
      (∃ p ∈ d :: calls, p.Polled t) ∧ ∃ c ∈ d :: calls, c.Writes t Update.claim := by
    rintro t d calls ⟨⟨p, hp, hpolled⟩, c, hc, hclaimed⟩
    exact ⟨⟨p, List.mem_cons_of_mem d hp, hpolled⟩, c, List.mem_cons_of_mem d hc, hclaimed⟩
  cases h with
  | unpolled call none idle | unclaimed polled call left idle =>
    cases hdone
    exact idle.elim
  | skipped took call reached met terminal =>
    cases hdone
    obtain ⟨hpolled, hclaimed⟩ := hcons took.members
    exact ⟨_, hpolled, rfl, hclaimed⟩
  | @written m t a v d calls begun ended looked judged same processing written =>
    cases hdone
    obtain ⟨hpolled, hclaimed⟩ := hcons looked.members
    exact ⟨t, hpolled, by cases v <;> rfl, hclaimed⟩
  | superseded looked judged call left met terminal stored =>
    cases hdone
    obtain ⟨hpolled, hclaimed⟩ := hcons looked.members
    exact ⟨_, hpolled, rfl, hclaimed⟩
  | _ => cases hdone

/-- An errand that reports nothing of a task did nothing, or nothing after its claim. -/
theorem Trail.of_idle (h : Trail r e) {result : Except StoreError (Option Processed)}
    (hdone : e.attempt = .done result) (hidle : IsIdle result) :
    ((∀ q ∈ e.calls, q.Idle) ∧ e.begun = []) ∨
      (∃ x, result = .error x) ∧ ∃ t c later earlier, e.Polled t ∧
        e.calls = later ++ c :: earlier ∧ c.Writes t Update.claim ∧ (∀ q ∈ later, q.Idle) ∧
        ∀ q ∈ earlier, q.Idle := by
  cases h with
  | unpolled call none idle =>
    have hleft : Request.Idle _ := Request.idle_of_lookup (by rw [call]; rfl)
    exact Or.inl ⟨by simpa using hleft, rfl⟩
  | unclaimed polled call left idle => exact Or.inl ⟨by simpa using ⟨left, polled.idle⟩, rfl⟩
  | @refused m t v d x calls begun ended looked judged call left =>
    cases hdone
    cases looked with
    | @look g before took hget =>
      cases took with
      | @claim p c polled claimed =>
        have hg : g.Idle := Request.idle_of_lookup (by rw [hget]; rfl)
        exact Or.inr ⟨⟨x, rfl⟩, t, c, [d, g], [p], ⟨p, by simp, polled⟩, rfl, claimed,
          by simpa using ⟨left, hg⟩, by simpa using polled.idle⟩
  | poll | claim _ _ | recheck _ _ | handle _ _ _ | complete _ _ _ => cases hdone
  | skipped _ _ _ _ _ | written _ _ _ _ _ | superseded _ _ _ _ _ _ _ =>
    cases hdone
    exact hidle.elim

/-- A reported outcome was stored by the errand itself. -/
theorem Trail.of_reported (h : Trail r e) {p : Processed}
    (hdone : e.attempt = .done (.ok (some p))) :
    (∃ id, p = .skipped id) ∨ (∃ id, p = .superseded id) ∨
      ∃ t v, e.Polled t ∧ p = processed t v ∧ Judged r t v e.begun e.ended ∧
        e.Stored t (Attempt.verdictUpdate v) := by
  cases h with
  | unpolled call none idle | unclaimed polled call left idle =>
    cases hdone
    exact idle.elim
  | skipped took call reached met terminal =>
    cases hdone
    exact Or.inl ⟨_, rfl⟩
  | superseded looked judged call left met terminal stored =>
    cases hdone
    exact Or.inr (Or.inl ⟨_, rfl⟩)
  | @written m t a v d calls begun ended looked judged same processing written =>
    cases hdone
    obtain ⟨q, hq, hpolled⟩ := looked.members.1
    exact Or.inr (Or.inr ⟨t, v, ⟨q, List.mem_cons_of_mem d hq, hpolled⟩, rfl, judged,
      d, List.mem_cons_self, a, same, processing, written⟩)
  | _ => cases hdone

/-- Past the second look, failed or not, the handler of the task has begun or its kind has none;
before it no handler begins. -/
theorem Trail.past (h : Trail r e) :
    (e.begun = [] ∧ ∀ q ∈ e.calls, ∀ id, q.call = .get id → q.failed = false) ∨
      ∃ t, ((r.find? t.kind = none ∧ e.begun = []) ∨
          ∃ k, r.find? t.kind = some k ∧ e.begun = [(t, k)]) ∧
        ∃ later calls, e.calls = later ++ calls ∧ Looked t calls ∧
          ∀ q ∈ later, ∀ id, q.call ≠ .get id := by
  cases h with
  | poll => exact Or.inl ⟨rfl, by simp⟩
  | unpolled call none idle => exact Or.inl ⟨rfl, by simp [call]⟩
  | claim polled stored => exact Or.inl ⟨rfl, by simp [polled.call]⟩
  | unclaimed polled call left idle => exact Or.inl ⟨rfl, by simp [call, polled.call]⟩
  | recheck took stored =>
    exact Or.inl ⟨rfl, fun q hq id hget => absurd hget (took.call_ne_get hq id)⟩
  | skipped took call reached met terminal =>
    refine Or.inl ⟨rfl, List.forall_mem_cons.2 ⟨fun _ _ => reached, ?_⟩⟩
    exact fun q hq id hget => absurd hget (took.call_ne_get hq id)
  | handle looked registered stored =>
    exact Or.inr ⟨_, Or.inr ⟨_, registered, rfl⟩, [], _, rfl, looked, by simp⟩
  | complete looked judged stored =>
    exact Or.inr ⟨_, judged.cases, [], _, rfl, looked, by simp⟩
  | written looked judged same processing written =>
    exact Or.inr ⟨_, judged.cases, [_], _, rfl, looked, by simp [written.call]⟩
  | superseded looked judged call left met terminal stored =>
    exact Or.inr ⟨_, judged.cases, [_], _, rfl, looked, by simp [call]⟩
  | refused looked judged call left =>
    exact Or.inr ⟨_, judged.cases, [_], _, rfl, looked, by simp [call]⟩

/-- A skipped task had ended by the second look. -/
theorem Trail.of_skipped (h : Trail r e) {id : TaskId}
    (hdone : e.attempt = .done (.ok (some (.skipped id)))) :
    e.begun = [] ∧ ∃ q ∈ e.calls, q.call = .get id ∧
      ∃ u, q.met.find? id = some u ∧ u.status.isTerminal = true := by
  cases h with
  | unpolled call none idle | unclaimed polled call left idle =>
    cases hdone
    exact idle.elim
  | skipped took call reached met terminal =>
    cases hdone
    exact ⟨rfl, _, List.mem_cons_self, call, _, met, terminal⟩
  | @written m t a v d calls begun ended looked judged same processing written =>
    cases v <;> cases hdone
  | _ => cases hdone

/-- A discarded outcome met a task that had ended, and is not undone. -/
theorem Trail.of_superseded (h : Trail r e) {id : TaskId}
    (hdone : e.attempt = .done (.ok (some (.superseded id)))) :
    ∃ u, u.status.isTerminal = true ∧ e.memory.find? id = some u ∧
      ∃ q ∈ e.calls, ∃ v, q.call = .updateIf id (Guard.status .processing)
        (Attempt.verdictUpdate v) ∧ q.Idle ∧ q.met.find? id = some u := by
  cases h with
  | unpolled call none idle | unclaimed polled call left idle =>
    cases hdone
    exact idle.elim
  | superseded looked judged call left met terminal stored =>
    cases hdone
    obtain ⟨u, hu, rfl⟩ := stored
    exact ⟨u, terminal, hu, _, List.mem_cons_self, _, call, left, met⟩
  | @written m t a v d calls begun ended looked judged same processing written =>
    cases v <;> cases hdone
  | _ => cases hdone

/-- The report that a trail comes to. -/
theorem Trail.report (h : Trail r e) : Report r e where
  polled := by
    rintro t u ⟨q, hq, ht⟩ ⟨p, hp, hu⟩
    rcases h.concern with ⟨s, hs⟩ | hnone
    · rw [hs.only q hq t ht, hs.only p hp u hu]
    · exact absurd ht ((hnone q hq).2 t)
  spares := by
    intro q hq
    rcases h.concern with ⟨t, ht⟩ | hnone
    · exact (ht.spares q hq).imp_right fun hspares => ⟨t, ht.polled, hspares⟩
    · exact Or.inl (hnone q hq).1
  handlers := by
    rcases h.past with ⟨hnone, _⟩ | ⟨t, hbegun, later, calls, hcalls, looked, _⟩
    · exact Or.inl hnone
    · obtain ⟨q, hq, hpolled⟩ := looked.members.1
      refine hbegun.imp (·.2) fun ⟨k, hk, hbegun⟩ => ⟨t, k, ⟨q, ?_, hpolled⟩, hk, hbegun⟩
      rw [hcalls]
      exact List.mem_append_right later hq
  nothing := by
    intro hdone
    rcases h.of_idle hdone trivial with hidle | ⟨⟨x, hx⟩, _⟩
    · exact hidle
    · cases hx
  claimed := fun p hdone => h.claimed hdone
  skipped := fun id hdone => h.of_skipped hdone
  succeeded := by
    intro id hdone
    rcases h.of_reported hdone with ⟨_, hx⟩ | ⟨_, hx⟩ | ⟨t, v, hpolled, hv, judged, hstored⟩
    · cases hx
    · cases hx
    · cases v with
      | ok value =>
        cases hv
        obtain ⟨k, hbegun, hended⟩ := judged.returned
        exact ⟨t, k, value, hpolled, rfl, hbegun, hended, hstored⟩
      | error reason => cases hv
  failed := by
    intro id hdone
    rcases h.of_reported hdone with ⟨_, hx⟩ | ⟨_, hx⟩ | ⟨t, v, hpolled, hv, judged, hstored⟩
    · cases hx
    · cases hx
    · cases v with
      | ok value => cases hv
      | error reason =>
        cases hv
        exact ⟨t, reason, hpolled, rfl, judged, hstored⟩
  superseded := fun id hdone => h.of_superseded hdone
  error := by
    intro x hdone
    rcases h.of_idle hdone trivial with hidle | ⟨_, hclaimed⟩
    · exact Or.inl hidle
    · exact Or.inr hclaimed
  undeterred := by
    intro q hq id hget hfailed
    rcases h.past with ⟨_, hreached⟩ | ⟨t, hbegun, later, calls, hcalls, looked, hlater⟩
    · rw [hreached q hq id hget] at hfailed
      cases hfailed
    · obtain ⟨p, hp, hpolled⟩ := looked.members.1
      rw [hcalls] at hq
      have hlook : q ∈ calls :=
        (List.mem_append.1 hq).resolve_left fun hq => hlater q hq id hget
      refine ⟨t, ⟨p, ?_, hpolled⟩, looked.id_of_get hlook hget, hbegun.imp_left (·.1)⟩
      rw [hcalls]
      exact List.mem_append_right later hp

/-- **What an errand reports is so**, in every store, whatever others do between its requests, which
requests fail, and how its handler ends; and it ends, after five beats at most. -/
theorem reports_truly (r : Registry H) {m : Memory} (hids : (m.tasks.map Task.id).Nodup)
    (bs : List Beat) :
    Report r ((start m).after r bs) ∧
      (5 ≤ bs.length → ∃ x, ((start m : Errand H).after r bs).attempt = .done x) :=
  ⟨(Trail.poll.after hids bs).report, ends m⟩

/-- The recognition of an invoice, called off while its handler runs; the second look fails. -/
def calledOff : List Beat :=
  [ ⟨[.switch true], .epoch, none, .panicked none⟩, ⟨[], .epoch, none, .panicked none⟩,
    ⟨[], .epoch, some (.unavailable "reset"), .panicked none⟩,
    ⟨[.call .epoch (.updateIf (Memory.invoiceTask .queued).id (Guard.anyOf Status.activeOnes)
      Update.cancel)], .epoch, none, .returned (.str "paid")⟩,
    ⟨[.call .latest (.failStale .latest "late")], .latest, none, .panicked none⟩ ]

/-- Its handler began all the same, and its outcome is reported as discarded. -/
theorem reports_truly_when_called_off :
    ((Memory.mk [Memory.invoiceTask .queued] true).tasks.map Task.id).Nodup ∧
      ((start ⟨[Memory.invoiceTask .queued], true⟩).after Workshop.invoiceRegistry
        calledOff).attempt = .done (.ok (some (.superseded (Memory.invoiceTask .queued).id))) ∧
      Report Workshop.invoiceRegistry ((start ⟨[Memory.invoiceTask .queued], true⟩).after
        Workshop.invoiceRegistry calledOff) ∧
      (5 ≤ calledOff.length → ∃ x, ((start ⟨[Memory.invoiceTask .queued], true⟩).after
        Workshop.invoiceRegistry calledOff).attempt = .done x) :=
  ⟨by decide, rfl, reports_truly Workshop.invoiceRegistry (by decide) calledOff⟩

end Errand

end Backlog
