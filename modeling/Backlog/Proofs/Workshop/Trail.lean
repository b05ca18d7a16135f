import Backlog.Proofs.Workshop.Change
/-!
# What a party has done so far

What a party has done is settled by the point it stands at, since every point is reached in one
way: an attempt about to look at its task again has polled and then won its claim, an attempt whose
handler runs has looked again as well, and so on.  `Trail` lists the points with what lies behind
them.  It speaks of one party alone, so nothing others do can disturb it (`Orderly.step`).

## Main results

* `Orderly.step` — each attempt keeps its trail, whatever happens in the workshop.
* `Trail.won` — an attempt that holds a claimed task has won the claim of it.
* `Trail.verdict` — the verdict an attempt is about to store comes from its handler, or from the
  lack of one.
-/

namespace Backlog

variable {H : Type}

namespace Attempt

/-- The task an attempt works on. -/
def task? : Attempt H → Option Task
  | claim t | recheck t | handle t _ | complete t _ => some t
  | _ => none

/-- The task an attempt has claimed and not yet let go. -/
def claimed? : Attempt H → Option Task
  | recheck t | handle t _ | complete t _ => some t
  | _ => none

theorem task?_of_claimed? {a : Attempt H} {t : Task} (h : a.claimed? = some t) :
    a.task? = some t := by
  cases a <;> first | exact h | cases h

end Attempt

namespace Deed

/-- Whether a deed is a claim of a task that succeeded: an update to processing that changed it. -/
def isClaimOf (id : TaskId) : Deed H → Bool
  | call _ _ (.updateIf i _ u) (.ok rows) => i == id && u.status == .processing && decide (0 < rows)
  | _ => false

/-- Whether a deed is the beginning of a handler for a task. -/
def isBeginOf (id : TaskId) : Deed H → Bool
  | began _ t _ => t.id == id
  | _ => false

end Deed

/-- What an attempt has done when it stands at a point, the last deed first. -/
inductive Trail (r : Registry H) (i : Nat) : Attempt H → List (Deed H) → Prop where
  | poll : Trail r i .poll []
  | claim {t : Task} {m : Memory} : Trail r i (.claim t) [.call i m .oldestQueued (.ok (some t))]
  | recheck {t : Task} {m : Memory} {rows : Nat} {own : List (Deed H)}
      (before : Trail r i (.claim t) own) (changed : 0 < rows) :
      Trail r i (.recheck t)
        (.call i m (.updateIf t.id (Guard.status .queued) Update.claim) (.ok rows) :: own)
  | handle {t : Task} {h : H} {m : Memory} {reply : Except StoreError (Option Task)}
      {own : List (Deed H)} (before : Trail r i (.recheck t) own)
      (registered : r.find? t.kind = some h) :
      Trail r i (.handle t h) (.began i t h :: .call i m (.get t.id) reply :: own)
  | handled {t : Task} {h : H} {own : List (Deed H)} (before : Trail r i (.handle t h) own)
      (outcome : HandlerOutcome) :
      Trail r i (.complete t outcome.verdict) (.ended i outcome :: own)
  | unknown {t : Task} {m : Memory} {reply : Except StoreError (Option Task)}
      {own : List (Deed H)} (before : Trail r i (.recheck t) own)
      (missing : r.find? t.kind = none) :
      Trail r i (.complete t (.error (TaskError.unknownKind t.kind.name).message))
        (.call i m (.get t.id) reply :: own)
  | done {a : Attempt H} {m : Memory} {c : StoreCall} {reply : c.Reply}
      {result : Except StoreError (Option Processed)} {own : List (Deed H)}
      (before : Trail r i a own) : Trail r i (.done result) (.call i m c reply :: own)

namespace Trail

variable {r : Registry H} {i : Nat} {a : Attempt H} {t : Task} {own : List (Deed H)}

/-- An attempt that asks the store leaves its trail behind it, whatever the reply. -/
theorem ask (h : Trail r i a own) {now : Instant} {fresh : TaskId} {c : StoreCall}
    {next : c.Reply → Party H} (asks : (Party.attempt r a).Asks now fresh c next) (m : Memory)
    {reply : c.Reply} {b : Attempt H} (hb : next reply = .attempt r b) :
    Trail r i b ((next reply).opening i ++ .call i m c reply :: own) := by
  rw [hb]
  cases Party.follows_of_asks asks hb with
  | polled =>
      cases h with
      | poll => exact .claim
  | claimed changed => exact .recheck h changed
  | dispatched registered => exact .handle h registered
  | unknown missing => exact .unknown h missing
  | ended => exact .done h

/-- An attempt that holds a claimed task has won the claim of it. -/
theorem won (h : Trail r i a own) (ha : a.claimed? = some t) :
    ∃ d ∈ own, d.party = i ∧ d.isClaimOf t.id = true := by
  induction h with
  | poll | claim | done => cases ha
  | recheck _ changed =>
      cases ha
      exact ⟨_, List.mem_cons_self, rfl, by simp [Deed.isClaimOf, Update.claim, changed]⟩
  | handle _ _ ih =>
      cases ha
      obtain ⟨d, hd, hwon⟩ := ih rfl
      exact ⟨d, List.mem_cons_of_mem _ (List.mem_cons_of_mem _ hd), hwon⟩
  | handled _ _ ih | unknown _ _ ih =>
      cases ha
      obtain ⟨d, hd, hwon⟩ := ih rfl
      exact ⟨d, List.mem_cons_of_mem _ hd, hwon⟩

/-- Before the second look no handler has begun. -/
theorem not_began (h : Trail r i (.recheck t) own) {j : Nat} {u : Task} {k : H} :
    .began j u k ∉ own := by
  cases h with
  | recheck before _ =>
      cases before with
      | claim =>
          intro hmem
          simp at hmem

/-- The only handler an attempt with a claimed task has begun is for that task. -/
theorem began_eq (h : Trail r i a own) (ha : a.claimed? = some t) {j : Nat} {u : Task} {k : H}
    (hmem : .began j u k ∈ own) : u = t := by
  induction h with
  | poll | claim | done => cases ha
  | recheck before changed => exact absurd hmem (Trail.recheck before changed).not_began
  | handle before _ ih =>
      cases ha
      simp only [List.mem_cons, Deed.began.injEq, reduceCtorEq, false_or] at hmem
      rcases hmem with ⟨_, rfl, _⟩ | hmem
      · rfl
      · exact ih rfl hmem
  | handled _ _ ih | unknown _ _ ih =>
      cases ha
      simp only [List.mem_cons, reduceCtorEq, false_or] at hmem
      exact ih rfl hmem

/-- As long as the handler of an attempt runs, none has ended. -/
theorem not_ended {k : H} (h : Trail r i (.handle t k) own) {j : Nat} {o : HandlerOutcome} :
    .ended j o ∉ own := by
  cases h with
  | handle before _ =>
      cases before with
      | recheck before _ =>
          cases before with
          | claim =>
              intro hmem
              simp at hmem

/-- An attempt sees at most one handler end. -/
theorem ended_eq (h : Trail r i a own) {j j' : Nat} {o o' : HandlerOutcome}
    (hmem : .ended j o ∈ own) (hmem' : .ended j' o' ∈ own) : o = o' := by
  induction h with
  | poll => cases hmem
  | claim => simp at hmem
  | recheck _ _ ih | handle _ _ ih | unknown _ _ ih | done _ ih =>
      simp only [List.mem_cons, reduceCtorEq, false_or] at hmem hmem'
      exact ih hmem hmem'
  | handled before _ _ =>
      simp only [List.mem_cons, Deed.ended.injEq] at hmem hmem'
      rcases hmem with ⟨_, rfl⟩ | hmem
      · rcases hmem' with ⟨_, rfl⟩ | hmem'
        · rfl
        · exact absurd hmem' before.not_ended
      · exact absurd hmem before.not_ended

/-- The verdict an attempt is about to store is the one of its handler, or says that there is
none. -/
theorem verdict {v : Except String Json} (h : Trail r i (.complete t v) own) :
    (∃ k outcome, r.find? t.kind = some k ∧ .began i t k ∈ own ∧ .ended i outcome ∈ own ∧
      v = outcome.verdict) ∨
    (r.find? t.kind = none ∧ v = .error (TaskError.unknownKind t.kind.name).message) := by
  cases h with
  | unknown _ missing => exact Or.inr ⟨missing, rfl⟩
  | handled before outcome =>
      cases before with
      | handle _ registered =>
          exact Or.inl ⟨_, outcome, registered,
            List.mem_cons_of_mem _ List.mem_cons_self, List.mem_cons_self, rfl⟩

end Trail

namespace Workshop

theorem party_of_mem_opening {i : Nat} {q : Party H} {d : Deed H} (h : d ∈ q.opening i) :
    d.party = i := by
  unfold Party.opening at h
  split at h
  · rw [List.mem_singleton] at h
    rw [h]
    rfl
  · cases h

variable {w w' : Workshop H}

/-- After a call the party has done what it had, the call, and the beginning of a handler if one
begins there. -/
theorem own_ask_self (w : Workshop H) (i : Nat) (now : Instant) (fault : Option StoreError)
    (c : StoreCall) (next : c.Reply → Party H) :
    (w.ask i now fault c next).own i =
      (next (w.memory.answer now fault c).2).opening i ++
        .call i w.memory c (w.memory.answer now fault c).2 :: w.own i := by
  unfold own ask
  rw [List.filter_append, List.filter_cons]
  congr 1
  · rw [List.filter_eq_self]
    intro d hd
    rw [party_of_mem_opening hd, beq_self_eq_true]
  · simp [Deed.party]

theorem own_ask_ne (w : Workshop H) {i j : Nat} (hj : j ≠ i) (now : Instant)
    (fault : Option StoreError) (c : StoreCall) (next : c.Reply → Party H) :
    (w.ask i now fault c next).own j = w.own j := by
  unfold own ask
  rw [List.filter_append, List.filter_cons]
  have hnone : ((next (w.memory.answer now fault c).2).opening i).filter (fun d => d.party == j) =
      [] := by
    rw [List.filter_eq_nil_iff]
    intro d hd
    rw [party_of_mem_opening hd, beq_iff_eq]
    exact Ne.symm hj
  rw [hnone, List.nil_append, if_neg]
  rw [beq_iff_eq]
  exact Ne.symm hj

theorem own_handled_self (w : Workshop H) (i : Nat) (r : Registry H) (a : Attempt H)
    (outcome : HandlerOutcome) :
    (w.handled i r a outcome).own i = .ended i outcome :: w.own i := by
  simp [own, handled, Deed.party]

theorem own_handled_ne (w : Workshop H) {i j : Nat} (hj : j ≠ i) (r : Registry H) (a : Attempt H)
    (outcome : HandlerOutcome) : (w.handled i r a outcome).own j = w.own j := by
  simp [own, handled, Deed.party, Ne.symm hj]

theorem own_eq_nil (h : ∀ d ∈ w.history, d.party < w.parties.length) :
    w.own w.parties.length = [] := by
  unfold own
  rw [List.filter_eq_nil_iff]
  intro d hd
  rw [beq_iff_eq]
  exact Nat.ne_of_lt (h d hd)

/-- The order that the parties keep by themselves: deeds are those of parties, every attempt has
left the trail of its point, and what a submission is about to insert is queued. -/
structure Orderly (w : Workshop H) : Prop where
  parties : ∀ d ∈ w.history, d.party < w.parties.length
  trails : ∀ (i : Nat) (r : Registry H) (a : Attempt H),
    w.parties[i]? = some (.attempt r a) → Trail r i a (w.own i)
  queued : ∀ (i : Nat) (s : Submission) (t : Task),
    w.parties[i]? = some (.submit (.insert s t)) → t.status = .queued

theorem orderly_opened (m : Memory) : (opened m : Workshop H).Orderly where
  parties := by intro d hd; cases hd
  trails := by intro i r a h; cases h
  queued := by intro i s t h; cases h

/-- A submission arrives before its search, or is refused. -/
theorem submit_arrives {a : Arrival H} {s : Submission} {t : Task}
    (h : Party.submit (.insert s t) = a.party) : False := by
  cases a <;> simp only [Arrival.party, reduceCtorEq, Party.submit.injEq] at h
  unfold Submit.start at h
  split at h <;> cases h

/-- What a submission is about to insert it has just made. -/
theorem queued_of_asks {now : Instant} {fresh : TaskId} {p : Party H} {c : StoreCall}
    {next : c.Reply → Party H} (asks : p.Asks now fresh c next) {reply : c.Reply} {s : Submission}
    {t : Task} (h : next reply = .submit (.insert s t)) : t.status = .queued := by
  cases asks <;> simp only [reduceCtorEq, Party.submit.injEq] at h
  · rcases reply with _ | _ | u
    · cases h
    · cases h
      rfl
    · simp only [Submit.searched, Submit.answerWith] at h
      split at h <;> cases h
  · rcases reply with (_ | _ | _) | _ <;> cases h
  · rcases reply with _ | _ | u
    · cases h
    · cases h
    · simp only [Submit.searchedAgain, Submit.answerWith] at h
      split at h <;> cases h

/-- Deeds are those of parties, through everything that can happen. -/
theorem Orderly.parties_step (hs : w.Step w') (h : w.Orderly) :
    ∀ d ∈ w'.history, d.party < w'.parties.length := by
  cases hs with
  | idle | switch online => exact h.parties
  | arrive a =>
      intro d hd
      have hlt := h.parties d hd
      simp only [List.length_append, List.length_singleton]
      omega
  | signal stands =>
      intro d hd
      rw [List.length_set]
      exact h.parties d hd
  | @ask i p c next now fresh fault stands asks =>
      have hi : i < w.parties.length := (List.getElem?_eq_some_iff.1 stands).1
      intro d hd
      simp only [Workshop.ask, List.length_set, List.mem_append, List.mem_cons] at hd ⊢
      rcases hd with hd | rfl | hd
      · rw [party_of_mem_opening hd]
        exact hi
      · exact hi
      · exact h.parties d hd
  | @handled i r t k outcome stands =>
      have hi : i < w.parties.length := (List.getElem?_eq_some_iff.1 stands).1
      intro d hd
      simp only [Workshop.handled, List.length_set, List.mem_cons] at hd ⊢
      rcases hd with rfl | hd
      · exact hi
      · exact h.parties d hd

/-- Every attempt leaves the trail of its points, through everything that can happen. -/
theorem Orderly.trails_step (hs : w.Step w') (h : w.Orderly) (j : Nat) (r : Registry H)
    (b : Attempt H) (hb : w'.parties[j]? = some (.attempt r b)) : Trail r j b (w'.own j) := by
  cases hs with
  | idle | switch online => exact h.trails j r b hb
  | arrive a =>
      rcases getElem?_append_cases hb with ⟨rfl, hab⟩ | hold
      · rw [attempt_arrives hab]
        have hnil : w.own w.parties.length = [] := own_eq_nil h.parties
        show Trail r _ _ (w.own w.parties.length)
        rw [hnil]
        exact .poll
      · exact h.trails j r b hold
  | signal stands =>
      rcases getElem?_set_cases hb with ⟨_, hab⟩ | ⟨_, hold⟩
      · cases hab
      · exact h.trails j r b hold
  | @ask i p c next now fresh fault stands asks =>
      rcases getElem?_set_cases hb with ⟨rfl, hab⟩ | ⟨hne, hold⟩
      · rw [own_ask_self]
        obtain ⟨a, rfl⟩ := Party.attempt_of_asks asks hab.symm
        exact (h.trails j r a stands).ask asks w.memory hab.symm
      · rw [own_ask_ne w hne]
        exact h.trails j r b hold
  | @handled i s t k outcome stands =>
      rcases getElem?_set_cases hb with ⟨rfl, hab⟩ | ⟨hne, hold⟩
      · cases hab
        rw [own_handled_self]
        exact (h.trails j r _ stands).handled outcome
      · rw [own_handled_ne w hne]
        exact h.trails j r b hold

/-- What a submission is about to insert is queued, through everything that can happen. -/
theorem Orderly.queued_step (hs : w.Step w') (h : w.Orderly) (j : Nat) (s : Submission) (t : Task)
    (ht : w'.parties[j]? = some (.submit (.insert s t))) : t.status = .queued := by
  cases hs with
  | idle | switch online => exact h.queued j s t ht
  | arrive a =>
      rcases getElem?_append_cases ht with ⟨_, hab⟩ | hold
      · exact (submit_arrives hab).elim
      · exact h.queued j s t hold
  | signal stands | handled outcome stands =>
      rcases getElem?_set_cases ht with ⟨_, hab⟩ | ⟨_, hold⟩
      · cases hab
      · exact h.queued j s t hold
  | ask fault stands asks =>
      rcases getElem?_set_cases ht with ⟨_, hab⟩ | ⟨_, hold⟩
      · exact queued_of_asks asks hab.symm
      · exact h.queued j s t hold

/-- Whatever happens, the parties keep their order. -/
theorem Orderly.step (hs : w.Step w') (h : w.Orderly) : w'.Orderly :=
  ⟨h.parties_step hs, h.trails_step hs, h.queued_step hs⟩

end Workshop

end Backlog
