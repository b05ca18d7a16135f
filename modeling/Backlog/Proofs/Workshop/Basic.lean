import Backlog.Engine.Attempt
import Backlog.Engine.Sweep
import Backlog.Proofs.Store.Effect
import Backlog.Service.Cancel
import Backlog.Service.Lookup
import Backlog.Service.Submit
/-!
# Many parties at one store

A workshop is a store in memory with everybody who works on it: attempts at the queue, each with
the registry of its engine, submissions, cancellations, sweeps and lookups, any number of each.
They act in any order.  A turn of a party is one move of its activity, so what is atomic is one
call of the store and not the activity; and each call may end in an error before it reaches the
store.  A running handler is not a move of anybody: it ends when it ends, with any outcome.  What a
handler asks of the service, it asks through submissions and cancellations that are parties too.

Worker loops add nothing to this.  A loop makes one attempt after another, as do loops of other
engines and callers by hand, so what they do to the store is a choice of when attempts begin.

`Workshop.history` keeps what was done, the last deed first: every call with the store it met and
its reply, and the beginning and the end of every handler.

## Main results

* `Party.asks_of_move` — what a party can ask for, by the point it stands at.
* `step_of_happening` — what can happen to a workshop, in six cases.
-/

namespace Backlog

/-- The move of an activity as a move of whatever contains it. -/
def Move.map {σ τ : Type} (f : σ → τ) : Move σ → Move τ
  | .call c next => .call c fun reply => (f (next reply).1, (next reply).2)
  | .signal next => .signal (f next)
  | .rest => .rest

/-- Somebody who works on a store, at a point of the activity; `H` are the handlers. -/
inductive Party (H : Type) where
  | attempt (registry : Registry H) (a : Attempt H)
  | submit (s : Submit)
  | cancel (c : Cancel)
  | sweep (s : Sweep)
  | lookup (l : Lookup)
  | listing (l : Listing)

/-- What a party begins with. -/
inductive Arrival (H : Type) where
  | attempt (registry : Registry H)
  | submit (form : SubmissionForm)
  | cancel (idText owner : String)
  | sweep (now : Instant) (limit : Duration)
  | lookup (owner idText : String)
  | listing (owner : String) (status : Option Status) (limit : Nat)

/-- Something that was done: by which party, and what. -/
inductive Deed (H : Type) where
  /-- A call of the store: the store it met, and the reply. -/
  | call (party : Nat) (met : Memory) (c : StoreCall) (reply : c.Reply)
  /-- A handler began to work on a task. -/
  | began (party : Nat) (task : Task) (handler : H)
  /-- A handler ended. -/
  | ended (party : Nat) (outcome : HandlerOutcome)

/-- Something that happens in a workshop. -/
inductive Happening (H : Type) where
  | arrive (a : Arrival H)
  /-- A party takes its turn; the clock reads `now`, `fresh` is the next identifier, and the call
  of the store, if there is one, may fail. -/
  | turn (party : Nat) (now : Instant) (fresh : TaskId) (fault : Option StoreError)
  /-- The handler of a party ends. -/
  | finish (party : Nat) (outcome : HandlerOutcome)
  /-- The store goes offline or comes back. -/
  | switch (online : Bool)

/-- A store and everybody who works on it. -/
structure Workshop (H : Type) where
  memory : Memory
  parties : List (Party H)
  /-- What was done, the last deed first. -/
  history : List (Deed H)

variable {H : Type}

/-- The point at which a party begins. -/
def Arrival.party : Arrival H → Party H
  | attempt registry => .attempt registry .poll
  | submit form => .submit (Submit.start form)
  | cancel idText owner => .cancel (Cancel.start idText owner)
  | sweep now limit => .sweep (Sweep.start now limit)
  | lookup owner idText => .lookup (Lookup.start owner idText)
  | listing owner status limit => .listing (Listing.start owner status limit)

namespace Party

/-- What a party does next. -/
def move (now : Instant) (fresh : TaskId) : Party H → Move (Party H)
  | attempt registry a => (a.move registry).map (attempt registry)
  | submit s => (s.move now fresh).map submit
  | cancel c => c.move.map cancel
  | sweep s => s.move.map sweep
  | lookup l => l.move.map lookup
  | listing l => l.move.map listing

/-- The handler that begins when a party comes to a point. -/
def opening (i : Nat) : Party H → List (Deed H)
  | attempt _ (.handle t h) => [.began i t h]
  | _ => []

/-- The call a party asks for at a point, and where each reply leads. -/
inductive Asks (now : Instant) (fresh : TaskId) :
    Party H → (c : StoreCall) → (c.Reply → Party H) → Prop where
  | poll {r : Registry H} : Asks now fresh (attempt r .poll) .oldestQueued
      fun x => attempt r (Attempt.polled x).1
  | claim {r : Registry H} {t : Task} : Asks now fresh (attempt r (.claim t))
      (.updateIf t.id (Guard.status .queued) Update.claim)
      fun x => attempt r (Attempt.claimed t x).1
  | recheck {r : Registry H} {t : Task} : Asks now fresh (attempt r (.recheck t)) (.get t.id)
      fun x => attempt r (Attempt.rechecked r t x).1
  | complete {r : Registry H} {t : Task} {v : Except String Json} :
      Asks now fresh (attempt r (.complete t v))
        (.updateIf t.id (Guard.status .processing) (Attempt.verdictUpdate v))
        fun x => attempt r (Attempt.completed t v x).1
  | search {s : Submission} : Asks now fresh (submit (.search s)) (.findActive s.key)
      fun x => submit (Submit.searched now fresh s x).1
  | insert {s : Submission} {t : Task} : Asks now fresh (submit (.insert s t)) (.insert t)
      fun x => submit (Submit.inserted s t x).1
  | searchAgain {s : Submission} : Asks now fresh (submit (.searchAgain s)) (.findActive s.key)
      fun x => submit (Submit.searchedAgain x).1
  | cancelWrite {id : TaskId} {owner : String} : Asks now fresh (cancel (.write id owner))
      (.updateIf id (Cancel.guard owner) Update.cancel)
      fun x => cancel (Cancel.written id owner x).1
  | cancelRead {id : TaskId} {owner : String} : Asks now fresh (cancel (.reread id owner))
      (.get id) fun x => cancel (Cancel.read id owner x).1
  | sweep {cutoff : Instant} : Asks now fresh (sweep (.write cutoff))
      (.failStale cutoff Sweep.timeoutMessage) fun x => sweep (Sweep.swept cutoff x).1
  | lookup {owner : String} {id : TaskId} : Asks now fresh (lookup (.read owner id))
      (.getForOwner owner id) fun x => lookup (Lookup.found x).1
  | listing {owner : String} {status : Option Status} {limit : Nat} :
      Asks now fresh (listing (.read owner status limit)) (.listForOwner owner status limit)
        fun x => listing (Listing.found x).1

/-- What a party can ask for, by the point it stands at. -/
theorem asks_of_move {now : Instant} {fresh : TaskId} {p : Party H} {c : StoreCall}
    {next : c.Reply → Party H × List Event} (h : p.move now fresh = .call c next) :
    p.Asks now fresh c fun x => (next x).1 := by
  cases p with
  | attempt r a =>
      cases a <;> simp only [move, Attempt.move, Move.map, reduceCtorEq] at h <;> cases h
      · exact .poll
      · exact .claim
      · exact .recheck
      · exact .complete
  | submit s =>
      cases s <;> simp only [move, Submit.move, Move.map, reduceCtorEq] at h <;> cases h
      · exact .search
      · exact .insert
      · exact .searchAgain
  | cancel c =>
      cases c <;> simp only [move, Cancel.move, Move.map, reduceCtorEq] at h <;> cases h
      · exact .cancelWrite
      · exact .cancelRead
  | sweep s =>
      cases s <;> simp only [move, Sweep.move, Move.map, reduceCtorEq] at h
      cases h
      exact .sweep
  | lookup l =>
      cases l <;> simp only [move, Lookup.move, Move.map, reduceCtorEq] at h
      cases h
      exact .lookup
  | listing l =>
      cases l <;> simp only [move, Listing.move, Move.map, reduceCtorEq] at h
      cases h
      exact .listing

/-- Only a submission about to answer gives the wake signal. -/
theorem signal_of_move {now : Instant} {fresh : TaskId} {p q : Party H}
    (h : p.move now fresh = .signal q) :
    ∃ t, p = submit (.signal t) ∧ q = submit (.done (.ok t)) := by
  cases p with
  | attempt r a => cases a <;> simp only [move, Attempt.move, Move.map, reduceCtorEq] at h
  | submit s =>
      cases s <;> simp only [move, Submit.move, Move.map, reduceCtorEq] at h
      cases h
      exact ⟨_, rfl, rfl⟩
  | cancel c => cases c <;> simp only [move, Cancel.move, Move.map, reduceCtorEq] at h
  | sweep s => cases s <;> simp only [move, Sweep.move, Move.map, reduceCtorEq] at h
  | lookup l => cases l <;> simp only [move, Lookup.move, Move.map, reduceCtorEq] at h
  | listing l => cases l <;> simp only [move, Listing.move, Move.map, reduceCtorEq] at h

end Party

/-- The party that did a deed. -/
def Deed.party : Deed H → Nat
  | call i _ _ _ => i
  | began i _ _ => i
  | ended i _ => i

namespace Workshop

/-- A store nobody works on yet. -/
def opened (m : Memory) : Workshop H := ⟨m, [], []⟩

/-- A party asks the store and goes where the reply leads; a handler may begin there. -/
def ask (w : Workshop H) (i : Nat) (now : Instant) (fault : Option StoreError) (c : StoreCall)
    (next : c.Reply → Party H) : Workshop H :=
  let q := next (w.memory.answer now fault c).2
  { memory := (w.memory.answer now fault c).1
    parties := w.parties.set i q
    history := q.opening i ++ .call i w.memory c (w.memory.answer now fault c).2 :: w.history }

/-- The handler of an attempt ends. -/
def handled (w : Workshop H) (i : Nat) (r : Registry H) (a : Attempt H)
    (outcome : HandlerOutcome) : Workshop H :=
  { w with
    parties := w.parties.set i (.attempt r (a.handled outcome))
    history := .ended i outcome :: w.history }

/-- A workshop after something happened; what nobody can do changes nothing. -/
def step (w : Workshop H) : Happening H → Workshop H
  | .arrive a => { w with parties := w.parties ++ [a.party] }
  | .turn i now fresh fault =>
    match w.parties[i]? with
    | none => w
    | some p =>
      match p.move now fresh with
      | .call c next => w.ask i now fault c fun x => (next x).1
      | .signal q => { w with parties := w.parties.set i q }
      | .rest => w
  | .finish i outcome =>
    match w.parties[i]? with
    | some (.attempt r (.handle t h)) => w.handled i r (.handle t h) outcome
    | _ => w
  | .switch online => { w with memory := { w.memory with online := online } }

/-- A workshop after a run. -/
def after (w : Workshop H) (xs : List (Happening H)) : Workshop H := xs.foldl step w

theorem after_append (w : Workshop H) (xs ys : List (Happening H)) :
    w.after (xs ++ ys) = (w.after xs).after ys := List.foldl_append

/-- What one party has done, the last deed first. -/
def own (w : Workshop H) (i : Nat) : List (Deed H) := w.history.filter fun d => d.party == i

/-- What can happen to a workshop. -/
inductive Step (w : Workshop H) : Workshop H → Prop where
  | idle : Step w w
  | switch (online : Bool) : Step w { w with memory := { w.memory with online := online } }
  | arrive (a : Arrival H) : Step w { w with parties := w.parties ++ [a.party] }
  | signal {i : Nat} {t : Task} (stands : w.parties[i]? = some (.submit (.signal t))) :
      Step w { w with parties := w.parties.set i (.submit (.done (.ok t))) }
  | ask {i : Nat} {p : Party H} {c : StoreCall} {next : c.Reply → Party H} {now : Instant}
      {fresh : TaskId} (fault : Option StoreError) (stands : w.parties[i]? = some p)
      (asks : p.Asks now fresh c next) : Step w (w.ask i now fault c next)
  | handled {i : Nat} {r : Registry H} {t : Task} {h : H} (outcome : HandlerOutcome)
      (stands : w.parties[i]? = some (.attempt r (.handle t h))) :
      Step w (w.handled i r (.handle t h) outcome)

/-- Whatever happens is one of the six cases. -/
theorem step_of_happening (w : Workshop H) (x : Happening H) : w.Step (w.step x) := by
  cases x with
  | arrive a => exact .arrive a
  | switch online => exact .switch online
  | turn i now fresh fault =>
      simp only [step]
      cases hp : w.parties[i]? with
      | none => exact .idle
      | some p =>
          simp only
          cases hm : p.move now fresh with
          | call c next => exact .ask fault hp (Party.asks_of_move hm)
          | signal q =>
              obtain ⟨t, rfl, rfl⟩ := Party.signal_of_move hm
              exact .signal hp
          | rest => exact .idle
  | finish i outcome =>
      simp only [step]
      split
      · next r t h hp => exact .handled outcome hp
      · exact .idle

/-- What every step keeps, every run keeps. -/
theorem keeps_of_step {P : Workshop H → Prop} (step : ∀ w w' : Workshop H, w.Step w' → P w → P w')
    {w : Workshop H} (h : P w) (xs : List (Happening H)) : P (w.after xs) := by
  induction xs generalizing w with
  | nil => exact h
  | cons x xs ih => exact ih (step w _ (w.step_of_happening x) h)

/-! ## Small runs -/

/-- The recognition of one invoice. -/
def invoiceForm : SubmissionForm := ⟨"invoice_ocr", "u1", "u1", "inv1", none⟩

/-- An engine that can recognise invoices. -/
def invoiceRegistry : Registry Unit := Registry.empty.register .invoiceOcr ()

/-- The identifier with a small number. -/
def idOf (n : Nat) : TaskId := ⟨n % Nat.pow 2 128, Nat.mod_lt n (Nat.two_pow_pos 128)⟩

/-- Three turns of a party, while the clock stands still. -/
def threeTurns (i : Nat) (fresh : TaskId) : List (Happening Unit) :=
  List.replicate 3 (.turn i .epoch fresh none)

end Workshop

end Backlog
