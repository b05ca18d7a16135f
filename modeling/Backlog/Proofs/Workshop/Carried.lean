import Backlog.Proofs.Workshop.Endings
import Backlog.Proofs.Workshop.Yield
/-!
# Attempts carried to their end

An attempt that was begun is not left standing.  Each of its own turns brings it nearer to the end,
whatever the store replies (`stepsLeft_turn`), and when it has ended nothing of it is missing: a
handler that began has also ended, and the write that stores its outcome was made (`CarriedOut`).
The store may refuse the write, and then the attempt says so; it does not skip it.

This is a matter of the trail of the one attempt.  An attempt ends from five points.  At three of
them no handler has begun; at the fourth, a refused second look, none begins; and the fifth is the
write itself, behind which the trail has the handler.

The same attempts answer for the tasks they claimed.  A claimed task that is still in processing is
held by the attempt that claimed it, unless that attempt ended with a store error (`Answered`).

## Main results

* `stepsLeft_turn` — a turn of an attempt brings it nearer to its end.
* `CarriedOut.step` — an attempt ends with the write of its outcome.
* `Answered.step` — whose claim a task in processing is.
* `Step.dequeued` — who can take a task from the queue.
-/

namespace Backlog

variable {H : Type}

namespace Attempt

/-- How many turns an attempt can still take; the end of its handler counts as one. -/
def stepsLeft : Attempt H → Nat
  | poll => 5
  | claim _ => 4
  | recheck _ => 3
  | handle _ _ => 2
  | complete _ _ => 1
  | done _ => 0

/-- Whether an attempt has yet to claim a task. -/
def isSeeking : Attempt H → Bool
  | poll | claim _ => true
  | _ => false

/-- A reply brings an attempt nearer to its end. -/
theorem Follows.stepsLeft_lt {r : Registry H} {a b : Attempt H} {c : StoreCall} {reply : c.Reply}
    (h : Follows r a c reply b) (ha : 0 < a.stepsLeft) : b.stepsLeft < a.stepsLeft := by
  cases h with
  | polled | claimed _ | dispatched _ | unknown _ => simp only [stepsLeft]; omega
  | ended => exact ha

end Attempt

/-- Whether a deed claimed a task or ended it. -/
def Deed.touches (id : TaskId) (d : Deed H) : Bool := d.isClaimOf id || d.ends id

namespace Workshop

variable {w w' : Workshop H}

/-- An attempt that has not ended comes nearer to its end, by its own turn or by the end of its
handler. -/
theorem stepsLeft_turn {i : Nat} {r : Registry H} {a : Attempt H}
    (hi : w.parties[i]? = some (.attempt r a)) (ha : 0 < a.stepsLeft) :
    ∃ x b, (w.step x).parties[i]? = some (.attempt r b) ∧ b.stepsLeft < a.stepsLeft := by
  have hlt : i < w.parties.length := (List.getElem?_eq_some_iff.1 hi).1
  by_cases hrest : ∃ t k, a = .handle t k
  · obtain ⟨t, k, rfl⟩ := hrest
    refine ⟨.finish i (.returned .null), .complete t (.ok .null), ?_, Nat.one_lt_two⟩
    simp only [step, hi, handled]
    exact List.getElem?_set_self hlt
  · have hasks : ∃ c next, (Party.attempt r a).move .epoch ⟨0, by decide⟩ = .call c next := by
      cases a with
      | handle t k => exact absurd ⟨t, k, rfl⟩ hrest
      | done result => exact absurd ha (Nat.lt_irrefl 0)
      | poll | claim _ | recheck _ | complete _ _ => exact ⟨_, _, rfl⟩
    obtain ⟨c, next, hmove⟩ := hasks
    have hturn : w.step (.turn i .epoch ⟨0, by decide⟩ none) =
        w.ask i .epoch none c fun x => (next x).1 := by
      simp only [step, hi, hmove]
    have hstands := getElem?_ask hi .epoch none c fun x => (next x).1
    have asks := Party.asks_of_move hmove
    obtain ⟨b, hb⟩ := Party.attempt_next asks (w.memory.answer .epoch none c).2
    refine ⟨.turn i .epoch ⟨0, by decide⟩ none, b, ?_,
      (Party.follows_of_asks asks hb).stepsLeft_lt ha⟩
    rw [hturn, hstands, hb]

/-! ## What an ended attempt has done -/

/-- An attempt that has ended does nothing more. -/
theorem Step.done (hs : w.Step w') {i : Nat} {r : Registry H}
    {result : Except StoreError (Option Processed)}
    (hi : w.parties[i]? = some (.attempt r (.done result))) :
    w'.parties[i]? = some (.attempt r (.done result)) ∧ w'.own i = w.own i := by
  have hlt : i < w.parties.length := (List.getElem?_eq_some_iff.1 hi).1
  cases hs with
  | idle | switch online => exact ⟨hi, rfl⟩
  | arrive a => exact ⟨(List.getElem?_append_left hlt).trans hi, rfl⟩
  | @signal j t stands =>
      have hne : j ≠ i := by
        rintro rfl
        rw [hi] at stands
        cases stands
      exact ⟨(List.getElem?_set_ne hne).trans hi, rfl⟩
  | @ask j p c next now fresh fault stands asks =>
      have hne : j ≠ i := by
        rintro rfl
        rw [hi] at stands
        cases stands
        cases asks
      exact ⟨(List.getElem?_set_ne hne).trans hi, own_ask_ne w (Ne.symm hne) now fault c next⟩
  | @handled j r' t k outcome stands =>
      have hne : j ≠ i := by
        rintro rfl
        rw [hi] at stands
        cases stands
      exact ⟨(List.getElem?_set_ne hne).trans hi, own_handled_ne w (Ne.symm hne) r' _ outcome⟩

/-- What a party has done that began a handler: the handler ended, and its outcome went into the
write that stores it. -/
def Concluded (own : List (Deed H)) (i : Nat) : Prop :=
  ∀ t k, .began i t k ∈ own → ∃ outcome m reply, .ended i outcome ∈ own ∧
    .call i m (.updateIf t.id (Guard.status .processing) (Attempt.verdictUpdate outcome.verdict))
      reply ∈ own

/-- Every attempt that has ended has concluded what it began. -/
def CarriedOut (w : Workshop H) : Prop :=
  ∀ i r result, w.parties[i]? = some (.attempt r (.done result)) → Concluded (w.own i) i

theorem carriedOut_opened (m : Memory) : (opened m : Workshop H).CarriedOut := by
  intro i r result hi
  cases hi

/-- A reply that ends an attempt leaves nothing begun without its conclusion. -/
theorem concluded_of_asks {i : Nat} {r : Registry H} {a : Attempt H} {own : List (Deed H)}
    (htrail : Trail r i a own) {now : Instant} {fresh : TaskId} {c : StoreCall}
    {next : c.Reply → Party H} (asks : (Party.attempt r a).Asks now fresh c next) (m : Memory)
    (reply : c.Reply) : Concluded (.call i m c reply :: own) i := by
  intro t k hbegan
  rw [List.mem_cons] at hbegan
  rcases hbegan with hcall | hbegan
  · cases hcall
  · cases asks with
    | poll =>
        cases htrail
        cases hbegan
    | claim =>
        cases htrail
        simp at hbegan
    | recheck => exact absurd hbegan htrail.not_began
    | complete =>
        have htask := htrail.began_eq rfl hbegan
        subst htask
        cases htrail with
        | unknown before _ =>
            simp only [List.mem_cons, reduceCtorEq, false_or] at hbegan
            exact absurd hbegan before.not_began
        | handled before outcome =>
            refine ⟨outcome, m, reply, ?_, List.mem_cons_self⟩
            exact List.mem_cons_of_mem _ List.mem_cons_self

/-- Attempts end with the write of their outcome, through everything that can happen. -/
theorem CarriedOut.step (hs : w.Step w') (ho : w.Orderly) (h : w.CarriedOut) :
    w'.CarriedOut := by
  intro i r result hi
  rcases hs.proceeded hi with ⟨a, ha⟩ | ⟨p, hp, hproceeds⟩
  · cases attempt_arrives ha
  · generalize hq : (Party.attempt r (.done result) : Party H) = q at hproceeds
    cases hproceeds with
    | stay =>
        subst hq
        rw [(hs.done hp).2]
        exact h i r result hp
    | ask fault asks here =>
        obtain ⟨a, rfl⟩ := Party.attempt_of_asks asks hq.symm
        rw [here, own_ask_self, ← hq]
        exact concluded_of_asks (ho.trails i r a hp) asks _ _
    | signal _ => cases hq
    | handled _ _ => cases hq

/-! ## Whose claim a task in processing is -/

/-- A claimed task in processing is the business of the attempt that claimed it. -/
def Answered (w : Workshop H) : Prop :=
  ∀ id u d, w.memory.find? id = some u → u.status = .processing → d ∈ w.history →
    d.isClaimOf id = true → w.AttendedBy id d.party

theorem answered_opened (m : Memory) : (opened m : Workshop H).Answered := by
  intro id u d _ _ hd
  cases hd

/-- Whether a call counts as a claim does not depend on the store it met. -/
theorem isClaimOf_call (i : Nat) (m m' : Memory) (c : StoreCall) (reply : c.Reply) (id : TaskId) :
    (Deed.call i m c reply : Deed H).isClaimOf id =
      (Deed.call i m' c reply : Deed H).isClaimOf id := by
  cases c with
  | updateIf _ _ _ => cases reply <;> rfl
  | _ => rfl

/-- A claim in the history was there before a step, or its task was queued until then and is in
processing since. -/
theorem Step.claimed (hs : w.Step w') {id : TaskId} {d : Deed H} (hd : d ∈ w'.history)
    (hclaim : d.isClaimOf id = true) :
    d ∈ w.history ∨ ∃ t u, w.memory.find? id = some t ∧ t.status = .queued ∧
      w'.memory.find? id = some u ∧ u.status = .processing := by
  cases d with
  | began _ _ _ | ended _ _ => cases hclaim
  | call i m c reply =>
      rcases hs.called hd with hold | ⟨p, next, now, fresh, fault, _, _, hreply, rfl⟩
      · exact Or.inl hold
      · rw [isClaimOf_call i m w.memory, hreply] at hclaim
        exact Or.inr (claim_of_answer hclaim)

/-- Whose claim a task in processing is, through everything that can happen. -/
theorem Answered.step (hs : w.Step w') (hsound : w.Sound) (h : w.Answered) : w'.Answered := by
  have hsound' := hsound.step hs
  intro id u d hu hprocessing hd hclaim
  have hid : u.id = id := (Memory.find?_some hu).2
  subst hid
  rcases hs.origin hsound.orderly hu with ⟨t, ht, rfl | ⟨i, hrewrites⟩⟩ | ⟨_, hqueued, _⟩
  · rcases hs.claimed hd hclaim with hold | ⟨t', _, ht', hqueued, _⟩
    · exact (h _ u d ht hprocessing hold hclaim).step hs ht hprocessing hu
    · rw [ht] at ht'
      cases ht'
      rw [hprocessing] at hqueued
      cases hqueued
  · cases hrewrites with
    | claim _ target _ stands =>
        obtain ⟨e, he, hei, hwon⟩ := hsound'.orderly.won stands rfl
        have hsame : d.party = i := by
          rw [← hei]
          refine hsound'.claims.same_party hd he hclaim ?_
          rw [Update.id_apply, target]
          exact hwon
        subst hsame
        exact ⟨⟨d, hd, rfl, hclaim⟩, _, _, stands, Or.inl ⟨_, rfl, target.symm⟩⟩
    | @outcome _ _ v _ _ _ _ _ _ => cases v <;> cases hprocessing
    | cancel _ _ _ => cases hprocessing
    | sweep _ _ _ => cases hprocessing
  · rw [hqueued] at hprocessing
    cases hprocessing

/-! ## Who takes a task from the queue -/

/-- An attempt that has yet to claim a task had yet to do so before. -/
theorem Step.seeking (hs : w.Step w') {i : Nat} {r : Registry H} {a b : Attempt H}
    (hi : w.parties[i]? = some (.attempt r a)) (hi' : w'.parties[i]? = some (.attempt r b))
    (hb : b.isSeeking = true) : a.isSeeking = true := by
  obtain ⟨q, hq, hproceeds⟩ := hs.proceeds hi
  rw [hi'] at hq
  generalize hqb : (Party.attempt r b : Party H) = q' at hq hproceeds
  cases hq
  cases hproceeds with
  | stay =>
      cases hqb
      exact hb
  | ask fault asks here =>
      have hfollows := Party.follows_of_asks asks hqb.symm
      generalize (w.memory.answer _ fault _).2 = reply at hfollows
      cases hfollows with
      | polled => rfl
      | claimed _ | dispatched _ | unknown _ | ended => cases hb
  | signal stood => cases stood
  | handled outcome stood =>
      cases stood
      cases hqb
      cases hb

/-- A call that alters a queued task is the claim of an attempt or the write of a cancellation. -/
theorem touches_of_alters {i : Nat} {p : Party H} {c : StoreCall} {next : c.Reply → Party H}
    {now : Instant} {fresh : TaskId} (asks : p.Asks now fresh c next) {t u : Task}
    {reply : c.Reply} (halters : Memory.Alters now t c reply u) (hq : t.status = .queued)
    (m : Memory) : (Deed.call i m c reply : Deed H).touches t.id = true ∧
      ((∃ r s, p = .attempt r (.claim s)) ∨ ∃ c, p = .cancel c) := by
  cases asks with
  | claim =>
      cases halters with
      | update target changed _ =>
          refine ⟨?_, Or.inl ⟨_, _, rfl⟩⟩
          simp [Deed.touches, Deed.isClaimOf, Update.claim, target, changed]
  | cancelWrite =>
      cases halters with
      | update target changed _ =>
          refine ⟨?_, Or.inr ⟨_, rfl⟩⟩
          simp [Deed.touches, Deed.ends, Update.cancel, Status.isTerminal, Status.isActive, target,
            changed]
  | complete =>
      cases halters with
      | update _ _ may =>
          have hprocessing := status_of_mayChange may
          rw [hq] at hprocessing
          cases hprocessing
  | sweep =>
      cases halters with
      | sweep stale =>
          have hprocessing := Memory.status_of_isStale stale
          rw [hq] at hprocessing
          cases hprocessing
  | _ => cases halters

/-- What was done in a step stands before what was done earlier; and a queued task stays as it is,
unless an attempt about to claim or a cancellation touches it. -/
theorem Step.dequeued (hs : w.Step w') : ∃ new, w'.history = new ++ w.history ∧
    ∀ id t, w.memory.find? id = some t → t.status = .queued →
      w'.memory.find? id = some t ∨
        ∃ d ∈ new, d.touches id = true ∧ ∃ p, w.parties[d.party]? = some p ∧
          ((∃ r s, p = .attempt r (.claim s)) ∨ ∃ c, p = .cancel c) := by
  cases hs with
  | idle | switch _ | arrive _ | signal _ => exact ⟨[], rfl, fun _ _ ht _ => Or.inl ht⟩
  | @handled i _ _ _ outcome stands => exact ⟨[.ended i outcome], rfl, fun _ _ ht _ => Or.inl ht⟩
  | @ask i p c next now fresh fault stands asks =>
      refine ⟨(next (w.memory.answer now fault c).2).opening i ++
        [.call i w.memory c (w.memory.answer now fault c).2], ?_, ?_⟩
      · simp [Workshop.ask]
      · intro id t ht hq
        rcases Memory.find?_answer ht now fault c with hsame | ⟨u, _, halters⟩
        · exact Or.inl hsame
        · obtain ⟨htouches, hwho⟩ := touches_of_alters (i := i) asks halters hq w.memory
          rw [(Memory.find?_some ht).2] at htouches
          exact Or.inr ⟨_, List.mem_append_right _ List.mem_cons_self, htouches, p, stands, hwho⟩

end Workshop

end Backlog
