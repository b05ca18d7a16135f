import Backlog.Proofs.Task.Check
import Backlog.Proofs.Workshop.Change
/-!
# The calls that are made

A store could be asked for much that nobody asks it for.  The service inserts only tasks it has
made of a checked submission, so the kind of an inserted task is the one its name denotes and its
fingerprint is not empty; it searches only by the keys of such submissions.  Every update of the
service and of the engine is made under a guard that allows exactly the statuses from which the
life of a task has the arrow.  `StoreCall.IsIssued` lists these calls, and a store that is never
asked for anything else need not be right about anything else.

The calls of a run are the ones that reach the store, in order, each with its reading of the clock
(`Workshop.calls`).  A call that fails on its way is none of them.

## Main results

* `calls_issued` — whatever happens in a workshop, only calls of the list are made.
* `IsIssued.mayChange_eq` — an update that is made goes by its guard alone.
* `IsIssued.of_insert` — what is said of the tasks that are inserted.
-/

namespace Backlog

variable {H : Type}

/-- A submission that was checked. -/
def Submission.IsChecked (s : Submission) : Prop := ∃ form, check form = .ok s

/-- A checked submission has a kind that is denoted by its name, and no empty fingerprint. -/
theorem Submission.IsChecked.named {s : Submission} (h : s.IsChecked) :
    s.kind.isNamed = true ∧ s.fingerprint ≠ some "" := by
  obtain ⟨form, hcheck⟩ := h
  obtain ⟨-, rfl⟩ := check_eq_ok_iff.1 hcheck
  rw [SubmissionForm.kind_normal]
  refine ⟨TaskKind.isNamed_ofName _, fun hempty => ?_⟩
  obtain ⟨b, -, hblank, htrim⟩ := fingerprint?_eq_some_iff.1 hempty
  exact hblank (Text.trim_eq_empty_iff.1 htrim)

namespace StoreCall

/-- The calls that the service and the engine make. -/
inductive IsIssued : StoreCall → Prop where
  /-- The task of a checked submission is inserted. -/
  | insert {s : Submission} (checked : s.IsChecked) (id : TaskId) (now : Instant) :
      IsIssued (.insert (s.task id now))
  | get (id : TaskId) : IsIssued (.get id)
  | getForOwner (owner : String) (id : TaskId) : IsIssued (.getForOwner owner id)
  /-- A search is by a key whose kind is denoted by its name. -/
  | findActive {k : WorkKey} (named : k.kind.isNamed = true) : IsIssued (.findActive k)
  | oldestQueued : IsIssued .oldestQueued
  | claim (id : TaskId) : IsIssued (.updateIf id (Guard.status .queued) Update.claim)
  | complete (id : TaskId) (v : Except String Json) :
      IsIssued (.updateIf id (Guard.status .processing) (Attempt.verdictUpdate v))
  | cancel (id : TaskId) (owner : String) :
      IsIssued (.updateIf id (Cancel.guard owner) Update.cancel)
  | failStale (cutoff : Instant) (error : String) : IsIssued (.failStale cutoff error)
  | listForOwner (owner : String) (status : Option Status) (limit : Nat) :
      IsIssued (.listForOwner owner status limit)

namespace IsIssued

/-- An inserted task has a kind that is denoted by its name, and no empty fingerprint. -/
theorem of_insert {t : Task} (h : IsIssued (.insert t)) :
    t.kind.isNamed = true ∧ t.fingerprint ≠ some "" := by
  cases h with
  | insert checked _ _ => exact checked.named

theorem of_findActive {k : WorkKey} (h : IsIssued (.findActive k)) : k.kind.isNamed = true := by
  cases h with
  | findActive named => exact named

/-- An update that is made goes by its guard: what that allows has the arrow. -/
theorem mayChange_eq {id : TaskId} {g : Guard} {u : Update} (h : IsIssued (.updateIf id g u))
    (t : Task) : u.mayChange g t = g.allows t := by
  have harrow : ∀ s ∈ g.expected, s.canBecome u.status = true := by
    cases h with
    | claim => decide
    | complete _ v => cases v <;> exact List.forall_mem_singleton.2 rfl
    | cancel => exact List.forall_mem_cons.2 ⟨rfl, List.forall_mem_singleton.2 rfl⟩
  rw [Update.mayChange, Bool.eq_iff_iff, Bool.and_eq_true]
  exact ⟨fun hmay => hmay.1, fun hallows => ⟨hallows, harrow _ (Guard.allows_iff.1 hallows).1⟩⟩

end IsIssued

end StoreCall

namespace Party

/-- What a submission has in hand was checked, or made of what was checked. -/
def IsChecked : Party H → Prop
  | submit (.search s) | submit (.searchAgain s) => s.IsChecked
  | submit (.insert s t) => s.IsChecked ∧ ∃ id now, t = s.task id now
  | _ => True

theorem isChecked_arrives (a : Arrival H) : a.party.IsChecked := by
  cases a with
  | submit form =>
      simp only [Arrival.party, Submit.start]
      cases hc : Submission.check form with
      | error e => trivial
      | ok s => exact ⟨form, hc⟩
  | _ => trivial

/-- An answer with a task has nothing more in hand. -/
theorem isChecked_answerWith (t : Task) : (submit (.answerWith t) : Party H).IsChecked := by
  unfold Submit.answerWith
  split <;> trivial

/-- A party makes only the calls of the list, and goes on to a point where this is so again. -/
theorem IsChecked.asks {p : Party H} (h : p.IsChecked) {now : Instant} {fresh : TaskId}
    {c : StoreCall} {next : c.Reply → Party H} (asks : p.Asks now fresh c next) :
    c.IsIssued ∧ ∀ reply, (next reply).IsChecked := by
  cases asks with
  | poll => exact ⟨.oldestQueued, fun _ => trivial⟩
  | claim => exact ⟨.claim _, fun _ => trivial⟩
  | recheck => exact ⟨.get _, fun _ => trivial⟩
  | complete => exact ⟨.complete _ _, fun _ => trivial⟩
  | search =>
      refine ⟨.findActive h.named.1, ?_⟩
      rintro (e | _ | t)
      · trivial
      · exact ⟨h, fresh, now, rfl⟩
      · exact isChecked_answerWith t
  | insert =>
      obtain ⟨hs, id, created, rfl⟩ := h
      refine ⟨.insert hs id created, ?_⟩
      rintro ((_ | _ | _) | _)
      · trivial
      · exact hs
      · trivial
      · trivial
  | searchAgain =>
      refine ⟨.findActive h.named.1, ?_⟩
      rintro (e | _ | t)
      · trivial
      · trivial
      · exact isChecked_answerWith t
  | cancelWrite => exact ⟨.cancel _ _, fun _ => trivial⟩
  | cancelRead => exact ⟨.get _, fun _ => trivial⟩
  | sweep => exact ⟨.failStale _ _, fun _ => trivial⟩
  | lookup => exact ⟨.getForOwner _ _, fun _ => trivial⟩
  | listing => exact ⟨.listForOwner _ _ _, fun _ => trivial⟩

end Party

namespace Workshop

/-- What the parties have in hand was checked. -/
def Issues (w : Workshop H) : Prop := ∀ p ∈ w.parties, p.IsChecked

/-- The call with which something that happens reaches the store, and the reading of the clock. -/
def call? (w : Workshop H) : Happening H → Option (Instant × StoreCall)
  | .turn i now fresh none =>
    match w.parties[i]? with
    | none => none
    | some p =>
      match p.move now fresh with
      | .call c _ => some (now, c)
      | .signal _ | .rest => none
  | _ => none

/-- The calls that reach the store in a run, the first one first. -/
def calls : Workshop H → List (Happening H) → List (Instant × StoreCall)
  | _, [] => []
  | w, x :: xs => (w.call? x).toList ++ (w.step x).calls xs

variable {w w' : Workshop H}

theorem Issues.step (hs : w.Step w') (h : w.Issues) : w'.Issues := by
  cases hs with
  | idle | switch online => exact h
  | arrive a =>
      intro p hp
      rcases List.mem_append.1 hp with hold | hnew
      · exact h p hold
      · rw [List.mem_singleton.1 hnew]
        exact Party.isChecked_arrives a
  | signal _ | handled _ _ =>
      intro p hp
      rcases List.mem_or_eq_of_mem_set hp with hold | rfl
      · exact h p hold
      · trivial
  | @ask i p c next now fresh fault stands asks =>
      intro q hq
      rcases List.mem_or_eq_of_mem_set hq with hold | rfl
      · exact h q hold
      · exact ((h p (List.mem_of_getElem? stands)).asks asks).2 _

/-- A call that reaches the store is asked for by a party. -/
theorem asks_of_call? {x : Happening H} {e : Instant × StoreCall} (he : w.call? x = some e) :
    ∃ p ∈ w.parties, ∃ fresh next, p.Asks e.1 fresh e.2 next := by
  unfold call? at he
  split at he
  · next i now fresh =>
      split at he
      · cases he
      · next p hp =>
          split at he
          · next c next hmove =>
              cases he
              exact ⟨p, List.mem_of_getElem? hp, fresh, _, Party.asks_of_move hmove⟩
          · cases he
          · cases he
  · cases he

/-- Where what the parties have in hand was checked, only calls of the list are made. -/
theorem Issues.calls (h : w.Issues) (xs : List (Happening H)) :
    ∀ e ∈ w.calls xs, e.2.IsIssued := by
  induction xs generalizing w with
  | nil => exact fun e he => (List.not_mem_nil he).elim
  | cons x xs ih =>
      intro e he
      rcases List.mem_append.1 he with hnow | hlater
      · obtain ⟨p, hp, _, _, hasks⟩ := asks_of_call? (Option.mem_toList.1 hnow)
        exact ((h p hp).asks hasks).1
      · exact ih (h.step (w.step_of_happening x)) e hlater

/-- Whatever happens in a workshop, only calls of the list are made. -/
theorem calls_issued (m : Memory) (xs : List (Happening H)) :
    ∀ e ∈ (opened m).calls xs, e.2.IsIssued :=
  Issues.calls (fun _ hp => (List.not_mem_nil hp).elim) xs

end Workshop

end Backlog
