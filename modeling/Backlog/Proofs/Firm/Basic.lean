import Backlog.Engine.Outcome
import Backlog.Proofs.Service.Conduct
import Mathlib.Data.Fintype.Basic
/-!
# Engines that keep books

A firm is a workshop in which the attempts and the sweeps are those of engines, and every engine has
its counters.  An engine makes attempts and sweeps in its loops and for callers who ask by hand, any
number of them side by side; each is a job, and the job knows whose it is.  Everything else that goes
on in the workshop is as it was: requests arrive, also from handlers, parties take their turns,
handlers end, calls fail and the store has outages.

The result of a job is counted by its engine after the reply of the store, as a step of its own
(`FirmEvent.count`), so there are moments at which something is stored that no counter shows.  What
is counted is the rule of the engine itself (`Stats.concluded`, `Stats.swept`).  A job is counted
once.

Worker loops and sweep loops add nothing to this.  A loop is a choice of when jobs begin, which is
made here in every way.

## Main results

* `moves_of_event` — what can happen to a firm, in three cases.
* `Staffed.move` — jobs and parties fit together.
-/

namespace Backlog

variable {H : Type}

/-- What an engine is made with. -/
structure Office (H : Type) where
  registry : Registry H
  /-- The limit on processing, for its sweeps. -/
  limit : Duration

/-- An attempt or a sweep of an engine. -/
structure Job (n : Nat) where
  engine : Fin n
  /-- Whether a loop makes it, and not a caller by hand. -/
  byLoop : Bool
  counted : Bool
  deriving DecidableEq

/-- Engines that work on one store. -/
structure Firm (H : Type) (n : Nat) where
  offices : Fin n → Office H
  stats : Fin n → Stats
  shop : Workshop H
  /-- The jobs, by the places of their parties. -/
  jobs : Nat → Option (Job n)

/-- Something that happens in a firm. -/
inductive FirmEvent (H : Type) (n : Nat) where
  /-- Something happens in the workshop that begins no job. -/
  | shop (x : Happening H)
  | attempt (e : Fin n) (byLoop : Bool)
  | sweep (e : Fin n) (byLoop : Bool) (now : Instant)
  /-- The result of a job is counted. -/
  | count (place : Nat)

/-- Whether a happening begins an attempt or a sweep. -/
def Happening.beginsJob : Happening H → Bool
  | arrive a => !a.isRequest
  | _ => false

namespace Party

/-- Whether an attempt or a sweep has come to its result. -/
def hasResult : Party H → Bool
  | attempt _ (.done _) | sweep (.done _) => true
  | _ => false

/-- The counters of an engine after the result of a job was counted. -/
def counted (byLoop : Bool) (s : Stats) : Party H → Stats
  | attempt _ (.done r) => s.concluded byLoop r
  | sweep (.done r) => s.swept byLoop r
  | _ => s

/-- Whether there is something to count. -/
def owes (byLoop : Bool) (p : Party H) : Bool := p.counted byLoop .zero != .zero

/-- Whether a job ended with a store error. -/
def hasFailed : Party H → Bool
  | attempt _ (.done (.error _)) | sweep (.done (.error _)) => true
  | _ => false

end Party

namespace Firm

variable {n : Nat}

/-- Engines that have done nothing yet, and an empty store. -/
def opened (offices : Fin n → Office H) : Firm H n :=
  ⟨offices, fun _ => .zero, Workshop.opened Memory.empty, fun _ => none⟩

/-- A job begins. -/
def hire (f : Firm H n) (a : Arrival H) (e : Fin n) (byLoop : Bool) : Firm H n :=
  { f with
    shop := f.shop.step (.arrive a)
    jobs := Function.update f.jobs f.shop.parties.length (some ⟨e, byLoop, false⟩) }

/-- The result of a job at a place is counted by its engine. -/
def book (f : Firm H n) (i : Nat) (j : Job n) (p : Party H) : Firm H n :=
  { f with
    stats := Function.update f.stats j.engine (p.counted j.byLoop (f.stats j.engine))
    jobs := Function.update f.jobs i (some { j with counted := true }) }

/-- A firm after something happened; what nobody can do changes nothing. -/
def step (f : Firm H n) : FirmEvent H n → Firm H n
  | .shop x => if x.beginsJob then f else { f with shop := f.shop.step x }
  | .attempt e byLoop => f.hire (.attempt (f.offices e).registry) e byLoop
  | .sweep e byLoop now => f.hire (.sweep now (f.offices e).limit) e byLoop
  | .count i =>
    match f.jobs i, f.shop.parties[i]? with
    | some j, some p => if p.hasResult && !j.counted then f.book i j p else f
    | _, _ => f

/-- A firm after a run. -/
def after (f : Firm H n) (xs : List (FirmEvent H n)) : Firm H n := xs.foldl step f

variable {f f' : Firm H n}

theorem jobs_hire_self (f : Firm H n) (a : Arrival H) (e : Fin n) (byLoop : Bool) :
    (f.hire a e byLoop).jobs f.shop.parties.length = some ⟨e, byLoop, false⟩ :=
  Function.update_self ..

theorem jobs_hire_of_ne {i : Nat} (h : i ≠ f.shop.parties.length) (a : Arrival H) (e : Fin n)
    (byLoop : Bool) : (f.hire a e byLoop).jobs i = f.jobs i := Function.update_of_ne h ..

theorem jobs_book_self (f : Firm H n) (i : Nat) (j : Job n) (p : Party H) :
    (f.book i j p).jobs i = some { j with counted := true } := Function.update_self ..

theorem jobs_book_of_ne {i k : Nat} (h : k ≠ i) (j : Job n) (p : Party H) :
    (f.book i j p).jobs k = f.jobs k := Function.update_of_ne h ..

/-- What can happen to a firm. -/
inductive Moves (f : Firm H n) : Firm H n → Prop where
  | idle : Moves f f
  | shop {x : Happening H} (own : x.beginsJob = false) : Moves f { f with shop := f.shop.step x }
  | hire {a : Arrival H} (job : a.isRequest = false) (e : Fin n) (byLoop : Bool) :
      Moves f (f.hire a e byLoop)
  | book {i : Nat} {j : Job n} {p : Party H} (hired : f.jobs i = some j)
      (stands : f.shop.parties[i]? = some p) (result : p.hasResult = true)
      (uncounted : j.counted = false) : Moves f (f.book i j p)

/-- Whatever happens is one of the cases. -/
theorem moves_of_event (f : Firm H n) (x : FirmEvent H n) : f.Moves (f.step x) := by
  cases x with
  | shop x =>
      simp only [step]
      cases hx : x.beginsJob with
      | true => exact .idle
      | false => exact .shop hx
  | attempt e byLoop => exact .hire rfl e byLoop
  | sweep e byLoop now => exact .hire rfl e byLoop
  | count i =>
      simp only [step]
      split
      · next j p hj hp =>
          split
          · next hdue =>
              rw [Bool.and_eq_true, Bool.not_eq_true'] at hdue
              exact .book hj hp hdue.1 hdue.2
          · exact .idle
      · exact .idle

/-- What every move keeps, every run keeps. -/
theorem keeps_of_moves {P : Firm H n → Prop} (keep : ∀ f f' : Firm H n, f.Moves f' → P f → P f')
    (h : P f) (xs : List (FirmEvent H n)) : P (f.after xs) := by
  induction xs generalizing f with
  | nil => exact h
  | cons x xs ih => exact ih (keep f _ (f.moves_of_event x) h)

/-- The workshop of a firm takes one step at most. -/
theorem Moves.shop_step (h : f.Moves f') : f.shop.Step f'.shop := by
  cases h with
  | idle | book _ _ _ _ => exact .idle
  | shop _ => exact f.shop.step_of_happening _
  | hire _ _ _ => exact .arrive _

/-! ## Jobs and parties -/

/-- An arrival is a request exactly if the party is. -/
theorem isRequest_arrival (a : Arrival H) : a.party.isRequest = a.isRequest := by cases a <;> rfl

/-- A party keeps to its sort. -/
theorem isRequest_proceeds {w w' : Workshop H} {i : Nat} {p q : Party H}
    (h : Workshop.Proceeds w w' i p q) : q.isRequest = p.isRequest := by
  cases h with
  | stay => rfl
  | ask _ asks _ => cases asks <;> rfl
  | signal stood | handled _ stood =>
      rw [stood]
      rfl

/-- A result stands. -/
theorem eq_of_hasResult {w w' : Workshop H} {i : Nat} {p q : Party H}
    (h : Workshop.Proceeds w w' i p q) (hp : p.hasResult = true) : q = p := by
  cases h with
  | stay => rfl
  | ask _ asks _ => cases asks <;> cases hp
  | signal stood | handled _ stood =>
      rw [stood] at hp
      cases hp

/-- Jobs and parties fit together. -/
structure Staffed (f : Firm H n) : Prop where
  /-- Every attempt and every sweep is a job. -/
  hired : ∀ i p, f.shop.parties[i]? = some p → p.isRequest = false → ∃ j, f.jobs i = some j
  /-- Nothing else is a job. -/
  places : ∀ i j, f.jobs i = some j → ∃ p, f.shop.parties[i]? = some p ∧ p.isRequest = false
  /-- What was counted is a result. -/
  counted : ∀ i j p, f.jobs i = some j → f.shop.parties[i]? = some p → j.counted = true →
    p.hasResult = true

theorem staffed_opened (offices : Fin n → Office H) : (opened offices).Staffed where
  hired := by
    intro i p hp
    cases hp
  places := by
    intro i j hj
    cases hj
  counted := by
    intro i j p hj
    cases hj

/-- No job has the place that is taken next. -/
theorem Staffed.free (h : f.Staffed) : f.jobs f.shop.parties.length = none := by
  cases hj : f.jobs f.shop.parties.length with
  | none => rfl
  | some j =>
      obtain ⟨p, hp, _⟩ := h.places _ j hj
      rw [List.getElem?_eq_none (Nat.le_refl _)] at hp
      cases hp

/-- Only arrivals make the parties more. -/
theorem length_step {w : Workshop H} {x : Happening H} (hx : ∀ a, x ≠ .arrive a) :
    (w.step x).parties.length = w.parties.length := by
  cases x with
  | arrive a => exact absurd rfl (hx a)
  | switch online => rfl
  | turn i now fresh fault =>
      simp only [Workshop.step]
      split
      · rfl
      · split <;> first | rfl | exact List.length_set
  | finish i outcome =>
      simp only [Workshop.step]
      split <;> first | rfl | exact List.length_set

/-- Whoever stands in the workshop after a happening that begins no job is a request, or stood there
before. -/
theorem request_or_stood {w : Workshop H} {x : Happening H} (hx : x.beginsJob = false) {i : Nat}
    {q : Party H} (hq : (w.step x).parties[i]? = some q) :
    q.isRequest = true ∨
      ∃ p, w.parties[i]? = some p ∧ Workshop.Proceeds w (w.step x) i p q := by
  cases hp : w.parties[i]? with
  | some p =>
      obtain ⟨q', hq', hproceeds⟩ := (w.step_of_happening x).proceeds hp
      rw [hq] at hq'
      cases hq'
      exact Or.inr ⟨p, rfl, hproceeds⟩
  | none =>
      by_cases harrive : ∃ a, x = .arrive a
      · obtain ⟨a, rfl⟩ := harrive
        rcases Workshop.getElem?_append_cases hq with ⟨_, rfl⟩ | hold
        · rw [isRequest_arrival]
          exact Or.inl (Bool.not_eq_eq_eq_not.1 hx)
        · rw [hp] at hold
          cases hold
      · have hlt : i < w.parties.length := by
          rw [← length_step fun a ha => harrive ⟨a, ha⟩]
          exact (List.getElem?_eq_some_iff.1 hq).1
        rw [List.getElem?_eq_none_iff] at hp
        exact absurd hlt (Nat.not_lt.2 hp)

/-- Jobs and parties fit together after a happening that begins no job. -/
theorem Staffed.shop (h : f.Staffed) {x : Happening H} (hx : x.beginsJob = false) :
    Staffed { f with shop := f.shop.step x } := by
  have hs := f.shop.step_of_happening x
  refine ⟨?_, ?_, ?_⟩
  · intro i q hq hjob
    rcases request_or_stood hx hq with hrequest | ⟨p, hp, hproceeds⟩
    · rw [hjob] at hrequest
      cases hrequest
    · exact h.hired i p hp ((isRequest_proceeds hproceeds).symm.trans hjob)
  · intro i j hj
    obtain ⟨p, hp, hjob⟩ := h.places i j hj
    obtain ⟨q, hq, hproceeds⟩ := hs.proceeds hp
    exact ⟨q, hq, (isRequest_proceeds hproceeds).trans hjob⟩
  · intro i j q hj hq hcounted
    obtain ⟨p, hp, _⟩ := h.places i j hj
    obtain ⟨q', hq', hproceeds⟩ := hs.proceeds hp
    have hresult := h.counted i j p hj hp hcounted
    rw [hq, eq_of_hasResult hproceeds hresult] at hq'
    cases hq'
    exact hresult

/-- Jobs and parties fit together after a job has begun. -/
theorem Staffed.hire (h : f.Staffed) {a : Arrival H} (ha : a.isRequest = false) (e : Fin n)
    (byLoop : Bool) : (f.hire a e byLoop).Staffed := by
  have hlast : ∀ {i : Nat} {p : Party H}, (f.hire a e byLoop).shop.parties[i]? = some p →
      (i = f.shop.parties.length ∧ p = a.party) ∨
        (i ≠ f.shop.parties.length ∧ f.shop.parties[i]? = some p) := by
    intro i p hp
    rcases Workshop.getElem?_append_cases hp with hnew | hold
    · exact Or.inl hnew
    · exact Or.inr ⟨Nat.ne_of_lt (List.getElem?_eq_some_iff.1 hold).1, hold⟩
  refine ⟨?_, ?_, ?_⟩
  · intro i p hp hjob
    rcases hlast hp with ⟨rfl, _⟩ | ⟨hne, hold⟩
    · exact ⟨_, f.jobs_hire_self a e byLoop⟩
    · obtain ⟨j, hj⟩ := h.hired i p hold hjob
      exact ⟨j, (jobs_hire_of_ne hne a e byLoop).trans hj⟩
  · intro i j hj
    by_cases hi : i = f.shop.parties.length
    · subst hi
      exact ⟨a.party, List.getElem?_concat_length, (isRequest_arrival a).trans ha⟩
    · obtain ⟨p, hp, hjob⟩ := h.places i j ((jobs_hire_of_ne hi a e byLoop).symm.trans hj)
      have hlt : i < f.shop.parties.length := (List.getElem?_eq_some_iff.1 hp).1
      exact ⟨p, (List.getElem?_append_left hlt).trans hp, hjob⟩
  · intro i j p hj hp hcounted
    rcases hlast hp with ⟨rfl, _⟩ | ⟨hne, hold⟩
    · rw [jobs_hire_self] at hj
      cases hj
      cases hcounted
    · rw [jobs_hire_of_ne hne] at hj
      exact h.counted i j p hj hold hcounted

/-- Jobs and parties fit together after a result was counted. -/
theorem Staffed.book (h : f.Staffed) {i : Nat} {j : Job n} {p : Party H} (hj : f.jobs i = some j)
    (hp : f.shop.parties[i]? = some p) (hresult : p.hasResult = true) : (f.book i j p).Staffed := by
  refine ⟨?_, ?_, ?_⟩
  · intro k q hq hjob
    by_cases hk : k = i
    · subst hk
      exact ⟨_, f.jobs_book_self k j p⟩
    · obtain ⟨j', hj'⟩ := h.hired k q hq hjob
      exact ⟨j', (jobs_book_of_ne hk j p).trans hj'⟩
  · intro k j' hj'
    by_cases hk : k = i
    · subst hk
      exact h.places k j hj
    · exact h.places k j' ((jobs_book_of_ne hk j p).symm.trans hj')
  · intro k j' q hj' hq hcounted
    by_cases hk : k = i
    · subst hk
      have hqp : p = q := Option.some.inj (hp.symm.trans hq)
      rw [← hqp]
      exact hresult
    · exact h.counted k j' q ((jobs_book_of_ne hk j p).symm.trans hj') hq hcounted

/-- Jobs and parties fit together, whatever happens. -/
theorem Staffed.move (h : f.Staffed) (hm : f.Moves f') : f'.Staffed := by
  cases hm with
  | idle => exact h
  | shop own => exact h.shop own
  | hire job e byLoop => exact h.hire job e byLoop
  | book hired stands result _ => exact h.book hired stands result

end Firm

end Backlog
