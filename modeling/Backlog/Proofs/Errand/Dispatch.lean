import Backlog.Proofs.Engine.Registrations
import Backlog.Proofs.Errand.Report
import Backlog.Proofs.Task.Check
/-!
# The handler of a submitted task

A submission goes by the trimmed text of its kind, and a registration by whatever kind it was made
for.  The two meet where the kinds are equal: an errand that takes up a submitted task runs the
handler of the last registration for the kind which the trimmed text denotes, on the trimmed target.
A kind whose name has a blank at an end and a custom kind with a built-in name are denoted by no
trimmed text, so whoever registers a handler under such a kind does so in vain (`IsVain`): the
errand would be the same without that registration.

What others do cannot bring another handler in; it can only keep this one from being run.  While
nothing fails and others leave the record of the task alone (`Undisturbed`), the errand goes its way
to the end (`Served`), and the task is stored with the outcome.

## Main results

* `TaskKind.IsVain.ne_of_check` — no submitted task has such a kind.
* `Served.after` — an undisturbed errand on its way.
* `after_congr` — an errand asks its registry only for the kind of its task.
* `runs_last_registered` — all of it for the errand that takes up a submitted task.
-/

namespace Backlog

open Text

/-- The kinds for which a handler is registered in vain. -/
inductive TaskKind.IsVain : TaskKind → Prop where
  | padded {a : String} (h : trim a ≠ a) : IsVain (.ofName a)
  | raw {n : String} (h : n = "payment_ocr" ∨ n = "invoice_ocr") : IsVain (.custom n)

/-- The kind of a submitted task is the one which its trimmed text denotes. -/
theorem Submission.kind_of_check {f : SubmissionForm} {s : Submission} (h : check f = .ok s) :
    s.kind = TaskKind.ofName (trim f.kind) := by
  obtain ⟨-, rfl⟩ := check_eq_ok_iff.1 h
  exact SubmissionForm.kind_normal

theorem Submission.target_of_check {f : SubmissionForm} {s : Submission} (h : check f = .ok s) :
    s.target = trim f.target := by
  obtain ⟨-, rfl⟩ := check_eq_ok_iff.1 h
  rfl

/-- No submitted task has a kind for which handlers are registered in vain. -/
theorem TaskKind.IsVain.ne_of_check {k : TaskKind} (h : k.IsVain) {f : SubmissionForm}
    {s : Submission} (hs : Submission.check f = .ok s) : k ≠ s.kind := by
  rw [Submission.kind_of_check hs]
  cases h with
  | padded hpadded =>
      intro heq
      have hname := TaskKind.ofName_injective heq
      rw [hname, trim_trim] at hpadded
      exact hpadded rfl
  | raw hraw => exact (TaskKind.ofName_ne_custom hraw).symm

/-- The attempt is past its poll, and at work on no other task. -/
def Attempt.IsFor {H : Type} (t : Task) : Attempt H → Prop
  | .poll => False
  | .claim u | .recheck u | .handle u _ | .complete u _ => u = t
  | .done _ => True

theorem Attempt.Follows.isFor {H : Type} {r : Registry H} {a b : Attempt H} {c : StoreCall}
    {reply : c.Reply} {t : Task} (h : Follows r a c reply b) (ha : a.IsFor t) : b.IsFor t := by
  cases h with
  | polled => exact ha.elim
  | claimed _ | dispatched _ | unknown _ => exact ha
  | ended => trivial

namespace Memory

variable {m : Memory} {now : Instant} {id : TaskId} {t : Task} {g : Guard} {u : Update}

/-- An update that may change the task it finds does so, and counts a row. -/
theorem updateIf_of_mayChange (now : Instant) (hon : m.online = true)
    (ht : m.find? id = some t) (hmay : u.mayChange g t = true) :
    ∃ rows, (m.answer now none (.updateIf id g u)).2 = .ok rows ∧ rows ≠ 0 ∧
      (m.answer now none (.updateIf id g u)).1.find? id = some (u.apply t now) := by
  have hreply : (m.answer now none (.updateIf id g u)).2 = .ok (changes m.tasks id g u) := by
    rw [answer, exec_of_online hon]
    rfl
  have hpos : 0 < changes m.tasks id g u := changes_pos_iff.2 ⟨t, ht, hmay⟩
  obtain ⟨a, ha, -, hleft⟩ := updateIf_ok hreply hpos
  obtain rfl : a = t := Option.some.inj (ha.symm.trans ht)
  exact ⟨_, hreply, Nat.ne_of_gt hpos, hleft⟩

theorem get_of_online (hon : m.online = true) :
    m.answer now none (.get id) = (m, .ok (m.find? id)) := by
  rw [answer, exec_of_online hon]
  rfl

end Memory

namespace Errand

variable {H : Type} {r r' : Registry H} {e : Errand H} {t : Task} {f : SubmissionForm}

/-- The handlers that began, each with the target that it runs on. -/
def runs (e : Errand H) : List (H × String) := e.begun.map fun b => (b.2, b.1.target)

/-! ## An undisturbed errand -/

/-- During some beats no request fails, and others leave the record of a task as it is. -/
def Undisturbed (r : Registry H) (id : TaskId) : Errand H → List Beat → Prop
  | _, [] => True
  | e, b :: bs =>
    b.fault = none ∧ (e.wait b.others).memory.online = true ∧
      (e.wait b.others).memory.find? id = e.memory.find? id ∧ Undisturbed r id (e.beat r b) bs

/-- The record of a task that is being worked on. -/
def InWork (t u : Task) : Prop := t.SameWork u ∧ u.status = .processing

/-- The record of a task that was ended with a verdict. -/
def EndedWith (t : Task) (v : Except String Json) (u : Task) : Prop :=
  ∃ a now, t.SameWork a ∧ u = (Attempt.verdictUpdate v).apply a now

/-- The way of an errand with a task that it polled, as long as nothing disturbs it. -/
inductive Served (r : Registry H) (t : Task) : Errand H → Prop where
  | claim {m : Memory} {calls : List Request} (queued : t.status = .queued)
      (stored : m.find? t.id = some t) : Served r t ⟨m, .claim t, calls, [], []⟩
  | recheck {m : Memory} {calls : List Request} (stored : m.Holds t.id (InWork t)) :
      Served r t ⟨m, .recheck t, calls, [], []⟩
  | handle {m : Memory} {calls : List Request} {h : H} (registered : r.find? t.kind = some h)
      (stored : m.Holds t.id (InWork t)) : Served r t ⟨m, .handle t h, calls, [(t, h)], []⟩
  | complete {m : Memory} {calls : List Request} {v : Except String Json}
      {begun : List (Task × H)} {ended : List HandlerOutcome} (judged : Judged r t v begun ended)
      (stored : m.Holds t.id (InWork t)) : Served r t ⟨m, .complete t v, calls, begun, ended⟩
  | done {m : Memory} {calls : List Request} {v : Except String Json}
      {begun : List (Task × H)} {ended : List HandlerOutcome} (judged : Judged r t v begun ended)
      (stored : m.Holds t.id (EndedWith t v)) :
      Served r t ⟨m, .done (.ok (some (processed t v))), calls, begun, ended⟩

/-- Others who leave the record of the task alone do not change the way of its errand. -/
theorem Served.wait (h : Served r t e) {es : List StoreEvent}
    (hsame : (e.wait es).memory.find? t.id = e.memory.find? t.id) : Served r t (e.wait es) := by
  cases h with
  | claim queued stored => exact .claim queued (hsame.trans stored)
  | recheck stored =>
      obtain ⟨u, hu, hwork⟩ := stored
      exact .recheck ⟨u, hsame.trans hu, hwork⟩
  | handle registered stored =>
      obtain ⟨u, hu, hwork⟩ := stored
      exact .handle registered ⟨u, hsame.trans hu, hwork⟩
  | complete judged stored =>
      obtain ⟨u, hu, hwork⟩ := stored
      exact .complete judged ⟨u, hsame.trans hu, hwork⟩
  | done judged stored =>
      obtain ⟨u, hu, hended⟩ := stored
      exact .done judged ⟨u, hsame.trans hu, hended⟩

/-- A move of an undisturbed errand takes it on. -/
theorem Served.go (h : Served r t e) (hon : e.memory.online = true) (now : Instant)
    (outcome : HandlerOutcome) : Served r t (e.go r now none outcome) := by
  cases h with
  | @claim m calls queued stored =>
      have hmay : Update.claim.mayChange (Guard.status .queued) t = true := by
        simp [Update.mayChange, Guard.allows, Guard.status, Update.claim, queued, Status.canBecome]
      obtain ⟨rows, hreply, hrows, hleft⟩ := Memory.updateIf_of_mayChange now hon stored hmay
      simp only [Errand.go, Attempt.move, ask, hreply, Attempt.claimed, if_neg hrows]
      exact .recheck ⟨_, hleft, Update.sameWork_apply _ _ _, rfl⟩
  | @recheck m calls stored =>
      obtain ⟨u, hu, hwork⟩ := stored
      simp only [Errand.go, Attempt.move, ask, Memory.get_of_online hon, hu, Attempt.rechecked,
        if_pos hwork.2, List.append_nil]
      unfold Attempt.dispatch
      cases hfind : r.find? t.kind with
      | some k => exact .handle hfind ⟨u, hu, hwork⟩
      | none => exact .complete (.unknown hfind) ⟨u, hu, hwork⟩
  | handle registered stored => exact .complete (.handled registered outcome) stored
  | @complete m calls v begun ended judged stored =>
      obtain ⟨u, hu, hsame, hprocessing⟩ := stored
      have hmay : (Attempt.verdictUpdate v).mayChange (Guard.status .processing) u = true := by
        cases v <;> simp [Update.mayChange, Guard.allows, Guard.status, Attempt.verdictUpdate,
          Update.succeed, Update.fail, hprocessing, Status.canBecome]
      obtain ⟨rows, hreply, hrows, hleft⟩ := Memory.updateIf_of_mayChange now hon hu hmay
      have hresult : (Attempt.completed (H := H) t v (.ok rows)).1 =
          .done (.ok (some (processed t v))) := by
        cases v <;> simp only [Attempt.completed, if_neg hrows, processed]
      simp only [Errand.go, Attempt.move, ask, hreply, hresult]
      exact .done judged ⟨_, hleft, u, now, hsame, rfl⟩
  | done judged stored => exact .done judged stored

/-- An undisturbed errand goes its way through any beats. -/
theorem Served.after (h : Served r t e) {bs : List Beat} (hquiet : Undisturbed r t.id e bs) :
    Served r t (e.after r bs) := by
  induction bs generalizing e with
  | nil => exact h
  | cons b bs ih =>
      obtain ⟨hfault, hon, hsame, hrest⟩ := hquiet
      have hgo := (h.wait hsame).go hon b.now b.outcome
      rw [← hfault] at hgo
      exact ih hgo hrest

/-- The end of an undisturbed errand. -/
theorem Served.ended (h : Served r t e) (hleft : e.attempt.stepsLeft = 0) :
    ∃ v, e.attempt = .done (.ok (some (processed t v))) ∧ Judged r t v e.begun e.ended ∧
      e.memory.Holds t.id (EndedWith t v) := by
  cases h with
  | done judged stored => exact ⟨_, rfl, judged, stored⟩
  | _ => exact absurd hleft (Nat.succ_ne_zero _)

/-! ## The registry and the task of an errand -/

/-- A move past the poll stays with the task. -/
theorem isFor_go (h : e.attempt.IsFor t) (now : Instant) (fault : Option StoreError)
    (outcome : HandlerOutcome) : (e.go r now fault outcome).attempt.IsFor t := by
  obtain ⟨m, a, calls, begun, ended⟩ := e
  cases a with
  | poll => exact h.elim
  | claim u | recheck u | complete u v => exact (follows_of_move (r := r) rfl _).isFor h
  | handle u k => exact h
  | done x => exact h

/-- A move asks the registry only for the kind of the task. -/
theorem go_congr (h : e.attempt.IsFor t) (hr : r.find? t.kind = r'.find? t.kind) (now : Instant)
    (fault : Option StoreError) (outcome : HandlerOutcome) :
    e.go r now fault outcome = e.go r' now fault outcome := by
  obtain ⟨m, a, calls, begun, ended⟩ := e
  cases a with
  | recheck u =>
      obtain rfl : u = t := h
      have hdispatch : Attempt.dispatch r u = Attempt.dispatch r' u := by
        rw [Attempt.dispatch, Attempt.dispatch, hr]
      have hrechecked : Attempt.rechecked r u = Attempt.rechecked r' u := by
        funext x
        unfold Attempt.rechecked
        rw [hdispatch]
      simp only [go, Attempt.move, hrechecked]
  | _ => rfl

/-- An errand past its poll asks the registry only for the kind of its task. -/
theorem after_congr (h : e.attempt.IsFor t) (hr : r.find? t.kind = r'.find? t.kind)
    (bs : List Beat) : e.after r bs = e.after r' bs := by
  induction bs generalizing e with
  | nil => rfl
  | cons b bs ih =>
      have hwait : (e.wait b.others).attempt.IsFor t := h
      have hbeat : e.beat r b = e.beat r' b := go_congr hwait hr b.now b.fault b.outcome
      show (e.beat r b).after r bs = (e.beat r' b).after r' bs
      rw [← hbeat]
      exact ih (isFor_go hwait b.now b.fault b.outcome)

/-- What an errand requested stays among its requests. -/
theorem mem_calls_after {q : Request} (h : q ∈ e.calls) (bs : List Beat) :
    q ∈ (e.after r bs).calls := by
  induction bs generalizing e with
  | nil => exact h
  | cons b bs ih =>
      refine ih ?_
      obtain ⟨m, a, calls, begun, ended⟩ := e
      cases a with
      | handle u k => exact h
      | done x => exact h
      | poll | claim u | recheck u | complete u v => exact List.mem_cons_of_mem _ h

/-- The poll of an errand answers with a task, and the errand goes on with that. -/
theorem beat_of_polled {m : Memory} {b : Beat}
    (hpoll : ((m.after b.others).answer b.now b.fault .oldestQueued).2 = .ok (some t)) :
    (start m : Errand H).beat r b =
      ⟨m.after b.others, .claim t, [⟨m.after b.others, b.now, b.fault, .oldestQueued⟩], [], []⟩ := by
  have hleft : ((m.after b.others).answer b.now b.fault .oldestQueued).1 = m.after b.others :=
    Memory.answer_lookup rfl _ _ _
  simp only [beat, wait, start, go, Attempt.move, ask, hpoll, hleft]
  rfl

/-- No handler runs but the one that the registry has for the task that was polled. -/
theorem begun_of_polled {m : Memory} (hids : (m.tasks.map Task.id).Nodup) {b : Beat}
    (hpoll : ((m.after b.others).answer b.now b.fault .oldestQueued).2 = .ok (some t))
    (bs : List Beat) :
    ((start m).after r (b :: bs)).begun = [] ∨
      ∃ h, r.find? t.kind = some h ∧ ((start m).after r (b :: bs)).begun = [(t, h)] := by
  have hreport : Report r ((start m).after r (b :: bs)) :=
    (Trail.poll.after hids (b :: bs)).report
  have hpolled : Errand.Polled ((start m).after r (b :: bs)) t := by
    refine ⟨_, ?_, Request.polled_of_reply (Memory.nodup_ids_after hids b.others) hpoll⟩
    show _ ∈ (((start m : Errand H).beat r b).after r bs).calls
    refine mem_calls_after ?_ bs
    rw [beat_of_polled hpoll]
    exact List.mem_singleton_self _
  rcases hreport.handlers with hnone | ⟨u, k, hu, hfind, hbegun⟩
  · exact Or.inl hnone
  · obtain rfl : u = t := hreport.polled u t hu hpolled
    exact Or.inr ⟨k, hfind, hbegun⟩

/-- Undisturbed, an errand ends the task that it polled within four more beats. -/
theorem ended_of_polled {m : Memory} (hids : (m.tasks.map Task.id).Nodup) {b : Beat}
    (hpoll : ((m.after b.others).answer b.now b.fault .oldestQueued).2 = .ok (some t))
    {bs : List Beat} (hquiet : Undisturbed r t.id ((start m).beat r b) bs) (hlong : 4 ≤ bs.length) :
    ∃ v, ((start m).after r (b :: bs)).attempt = .done (.ok (some (processed t v))) ∧
      Judged r t v ((start m).after r (b :: bs)).begun ((start m).after r (b :: bs)).ended ∧
      ((start m).after r (b :: bs)).memory.Holds t.id (EndedWith t v) := by
  have hpolled := Request.polled_of_reply (Memory.nodup_ids_after hids b.others) hpoll
  have hserved : Served r t ((start m).beat r b) := by
    rw [beat_of_polled hpoll]
    exact .claim hpolled.queued hpolled.stored
  have hfour : ((start m).beat r b).attempt.stepsLeft = 4 := by
    rw [beat_of_polled hpoll]
    rfl
  have hleft := stepsLeft_after (r := r) ((start m).beat r b) bs
  exact (hserved.after hquiet).ended (by omega)

/-- A handler that is registered for the task gave the verdict. -/
theorem Judged.of_registered {v : Except String Json} {begun : List (Task × H)}
    {ended : List HandlerOutcome} {h : H} (judged : Judged r t v begun ended)
    (hfind : r.find? t.kind = some h) :
    ∃ o, v = HandlerOutcome.verdict o ∧ begun = [(t, h)] ∧ ended = [o] := by
  cases judged with
  | handled registered o =>
      obtain rfl := Option.some.inj (registered.symm.trans hfind)
      exact ⟨o, rfl, rfl, rfl⟩
  | unknown missing => exact absurd (missing.symm.trans hfind) (Option.some_ne_none h).symm

/-- Without a handler the verdict is that the kind is unknown. -/
theorem Judged.of_missing {v : Except String Json} {begun : List (Task × H)}
    {ended : List HandlerOutcome} (judged : Judged r t v begun ended)
    (hfind : r.find? t.kind = none) :
    v = .error (TaskError.unknownKind t.kind.name).message ∧ begun = [] := by
  cases judged with
  | handled registered o => exact absurd (registered.symm.trans hfind) (Option.some_ne_none _)
  | unknown missing => exact ⟨rfl, rfl⟩

/-! ## Submitted tasks -/

/-- The errand over some registrations that takes up the task of a form by its first beat. -/
structure RunsLast (es : List (TaskKind × H)) (f : SubmissionForm) (t : Task) (m : Memory)
    (b : Beat) (bs : List Beat) : Prop where
  /-- Whatever others do, no handler runs but that of the last registration for the kind which the
  trimmed text denotes, and it runs once at most and on the trimmed target. -/
  only : ((start m).after (Registry.ofList es) (b :: bs)).runs = [] ∨
    ∃ h, IsLastFor es (.ofName (trim f.kind)) h ∧
      ((start m).after (Registry.ofList es) (b :: bs)).runs = [(h, trim f.target)]
  /-- Undisturbed, the errand runs that handler and ends the task with its outcome. -/
  handled : ∀ h, IsLastFor es (.ofName (trim f.kind)) h →
    Undisturbed (Registry.ofList es) t.id ((start m).beat (Registry.ofList es) b) bs →
    4 ≤ bs.length → ∃ o,
      ((start m).after (Registry.ofList es) (b :: bs)).runs = [(h, trim f.target)] ∧
      ((start m).after (Registry.ofList es) (b :: bs)).ended = [o] ∧
      ((start m).after (Registry.ofList es) (b :: bs)).attempt =
        .done (.ok (some (processed t o.verdict))) ∧
      ((start m).after (Registry.ofList es) (b :: bs)).memory.Holds t.id (EndedWith t o.verdict)
  /-- Undisturbed and without any registration for the kind, it fails the task. -/
  unknown : (∀ e ∈ es, e.1 ≠ .ofName (trim f.kind)) →
    Undisturbed (Registry.ofList es) t.id ((start m).beat (Registry.ofList es) b) bs →
    4 ≤ bs.length →
      ((start m).after (Registry.ofList es) (b :: bs)).runs = [] ∧
      ((start m).after (Registry.ofList es) (b :: bs)).attempt =
        .done (.ok (some (.failed t.id))) ∧
      ∃ u, ((start m).after (Registry.ofList es) (b :: bs)).memory.find? t.id = some u ∧
        t.SameWork u ∧ u.status = .failed ∧ u.result = none ∧
        u.error = some ("unknown task type: " ++ trim f.kind)
  /-- A registration for a vain kind could as well not have been made. -/
  vain : ∀ before k h after, es = before ++ (k, h) :: after → k.IsVain →
    (start m).after (Registry.ofList (before ++ after)) (b :: bs) =
      (start m).after (Registry.ofList es) (b :: bs)

/-- **A submitted task is run by the handler that was registered last for its kind**, on its target,
and by no other handler; and it fails if its kind was never registered. -/
theorem runs_last_registered (es : List (TaskKind × H)) {f : SubmissionForm} {s : Submission}
    (hs : Submission.check f = .ok s) (id : TaskId) (created : Instant) {m : Memory}
    (hids : (m.tasks.map Task.id).Nodup) {b : Beat}
    (hpoll : ((m.after b.others).answer b.now b.fault .oldestQueued).2 =
      .ok (some (s.task id created))) (bs : List Beat) :
    RunsLast es f (s.task id created) m b bs := by
  have hkind : (s.task id created).kind = .ofName (trim f.kind) := Submission.kind_of_check hs
  have htarget : (s.task id created).target = trim f.target := Submission.target_of_check hs
  constructor
  · rcases begun_of_polled (r := Registry.ofList es) hids hpoll bs with hnone | ⟨h, hfind, hbegun⟩
    · exact Or.inl (by rw [runs, hnone]; rfl)
    · rw [hkind, Registry.find?_ofList_eq_some_iff] at hfind
      exact Or.inr ⟨h, hfind, by rw [runs, hbegun, ← htarget]; rfl⟩
  · intro h hlast hquiet hlong
    obtain ⟨v, hdone, judged, hstored⟩ := ended_of_polled hids hpoll hquiet hlong
    rw [← Registry.find?_ofList_eq_some_iff, ← hkind] at hlast
    obtain ⟨o, rfl, hbegun, hended⟩ := judged.of_registered hlast
    exact ⟨o, by rw [runs, hbegun, ← htarget]; rfl, hended, hdone, hstored⟩
  · intro hnever hquiet hlong
    obtain ⟨v, hdone, judged, u, hu, a, now, hsame, rfl⟩ :=
      ended_of_polled hids hpoll hquiet hlong
    rw [← Registry.find?_ofList_eq_none_iff, ← hkind] at hnever
    obtain ⟨rfl, hbegun⟩ := judged.of_missing hnever
    rw [hkind, TaskKind.name_ofName] at hu
    exact ⟨by rw [runs, hbegun]; rfl, hdone, _, hu, hsame.trans (Update.sameWork_apply _ a now),
      rfl, rfl, rfl⟩
  · rintro before k h after rfl hvain
    have hfind : (Registry.ofList (before ++ after)).find? (s.task id created).kind =
        (Registry.ofList (before ++ (k, h) :: after)).find? (s.task id created).kind :=
      (Registry.find?_ofList_without before after (hvain.ne_of_check hs)).symm
    have hfor : ((start m : Errand H).beat (Registry.ofList (before ++ after)) b).attempt.IsFor
        (s.task id created) := by
      rw [beat_of_polled hpoll]
      rfl
    exact after_congr hfor hfind bs

/-- An invoice to be recognised, as a caller spells it. -/
def spelledForm : SubmissionForm := ⟨"\u2003invoice_ocr\n", "u1", "u1", " inv1", none⟩

/-- Two handlers for invoices, and three for other kinds, two of them registered in vain. -/
def fiveRegistrations : List (TaskKind × String) :=
  [ (.invoiceOcr, "first"), (.custom "invoice_ocr", "raw"), (.invoiceOcr, "second"),
    (.ofName " invoice_ocr", "padded"), (.paymentOcr, "payments") ]

/-- The poll of the invoice. -/
def firstBeat : Beat := ⟨[.switch true], .epoch, none, .panicked none⟩

/-- The rest of the errand; a rival comes too late with its claim. -/
def laterBeats : List Beat :=
  [ ⟨[], .epoch, none, .panicked none⟩,
    ⟨[.call .epoch (.updateIf (Memory.invoiceTask .queued).id (Guard.status .queued)
      Update.claim)], .epoch, none, .panicked none⟩,
    ⟨[], .epoch, none, .returned (.str "paid")⟩, ⟨[], .epoch, none, .panicked none⟩ ]

/-- The invoice is run by the second handler for invoices. -/
theorem second_runs_last_registered :
    Submission.check spelledForm = .ok ⟨.invoiceOcr, "u1", "u1", "inv1", none⟩ ∧
      ((Memory.mk [Memory.invoiceTask .queued] false).tasks.map Task.id).Nodup ∧
      (((Memory.mk [Memory.invoiceTask .queued] false).after firstBeat.others).answer firstBeat.now
        firstBeat.fault .oldestQueued).2 = .ok (some ((Submission.mk .invoiceOcr "u1" "u1" "inv1"
          none).task (Memory.invoiceTask .queued).id .epoch)) ∧
      Undisturbed (Registry.ofList fiveRegistrations) (Memory.invoiceTask .queued).id
        ((start ⟨[Memory.invoiceTask .queued], false⟩).beat (Registry.ofList fiveRegistrations)
          firstBeat) laterBeats ∧
      RunsLast fiveRegistrations spelledForm ((Submission.mk .invoiceOcr "u1" "u1" "inv1"
        none).task (Memory.invoiceTask .queued).id .epoch)
        ⟨[Memory.invoiceTask .queued], false⟩ firstBeat laterBeats ∧
      ((start ⟨[Memory.invoiceTask .queued], false⟩).after (Registry.ofList fiveRegistrations)
        (firstBeat :: laterBeats)).runs = [("second", "inv1")] :=
  ⟨by decide +kernel, by decide, rfl,
    ⟨rfl, rfl, rfl, rfl, rfl, rfl, rfl, rfl, rfl, rfl, rfl, rfl, trivial⟩,
    runs_last_registered fiveRegistrations (by decide +kernel) _ _ (by decide) rfl laterBeats, rfl⟩

end Errand

end Backlog
