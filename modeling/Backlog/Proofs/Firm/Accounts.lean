import Backlog.Proofs.Firm.Basic
import Backlog.Proofs.Workshop.Yield
import Mathlib.Algebra.BigOperators.Group.Finset.Piecewise
import Mathlib.Algebra.BigOperators.Group.Finset.Sigma
import Mathlib.Data.Fintype.BigOperators
/-!
# The counters and the store agree

The counters of an engine are changed far from the writes they speak of, one result at a time.  Each
counter of each engine is the sum of what the counted results of its jobs are worth
(`Booked`): a result is worth the same whenever it is counted, it does not change, and it is counted
once.  The store on its side is the sum of what the parties have brought about (`Workshop.Yields`).
So as soon as nothing is left to count (`isSettled`) the two are sums over the same parties, and
agree term by term.

Tasks in processing appear in no counter.  They belong to attempts that are on their way, or that
ended with a store error and were never told what became of their write.

## Main results

* `Booked.move` — the counters of an engine are what its counted jobs are worth.
* `accounts_balance` — counters and store when nothing is left to count.
-/

namespace Backlog

variable {H : Type}

/-! ## What a result is worth -/

/-- A counter that speaks of the store or of its failures. -/
inductive Counter where
  | succeeded
  | failed
  | reaped
  | storeErrors

/-- The reading of a counter. -/
def Stats.read (s : Stats) : Counter → Nat
  | .succeeded => s.succeeded
  | .failed => s.failed
  | .reaped => s.reaped
  | .storeErrors => s.storeErrors

namespace Party

/-- What the result of a job adds to a counter. -/
def worth (byLoop : Bool) (c : Counter) (p : Party H) : Nat := (p.counted byLoop .zero).read c

/-- What a party has to tell an engine, by what is counted for it. -/
inductive Tells : Party H → Prop where
  /-- Nothing: it is no job, has not ended, or found nothing to do. -/
  | nothing {p : Party H} (counted : ∀ byLoop s, p.counted byLoop s = s)
      (yields : ∀ s, p.yield s = 0) (well : p.hasFailed = false) : Tells p
  /-- The task that was claimed went one of the four ways. -/
  | went (r : Registry H) (x : Processed) : Tells (attempt r (.done (.ok (some x))))
  /-- A sweep failed so many tasks. -/
  | swept (rows : Nat) : Tells (sweep (.done (.ok rows)))
  /-- The store could not be reached. -/
  | failed {p : Party H}
      (counted : ∀ byLoop s, p.counted byLoop s = if byLoop then s.countError else s)
      (yields : ∀ s, p.yield s = 0) (failed : p.hasFailed = true) : Tells p

theorem tells (p : Party H) : p.Tells := by
  cases p with
  | attempt r a =>
      cases a with
      | done result =>
          rcases result with e | _ | x
          · exact .failed (fun _ _ => rfl) (fun _ => rfl) rfl
          · exact .nothing (fun _ _ => rfl) (fun _ => rfl) rfl
          · exact .went r x
      | _ => exact .nothing (fun _ _ => rfl) (fun _ => rfl) rfl
  | sweep t =>
      cases t with
      | done result =>
          rcases result with e | rows
          · exact .failed (fun _ _ => rfl) (fun _ => rfl) rfl
          · exact .swept rows
      | write cutoff => exact .nothing (fun _ _ => rfl) (fun _ => rfl) rfl
  | _ => exact .nothing (fun _ _ => rfl) (fun _ => rfl) rfl

/-- A result adds the same whatever was counted before it. -/
theorem read_counted (byLoop : Bool) (s : Stats) (p : Party H) (c : Counter) :
    (p.counted byLoop s).read c = s.read c + p.worth byLoop c := by
  unfold worth
  cases p.tells with
  | nothing counted =>
      rw [counted, counted]
      cases c <;> rfl
  | went r x => cases x <;> cases c <;> rfl
  | swept rows =>
      cases c with
      | reaped => exact congrArg _ (Nat.zero_add rows).symm
      | succeeded | failed | storeErrors => rfl
  | failed counted =>
      rw [counted, counted]
      cases byLoop <;> cases c <;> rfl

/-- Who owes nothing adds nothing. -/
theorem worth_of_not_owes {byLoop : Bool} {p : Party H} (h : p.owes byLoop = false) (c : Counter) :
    p.worth byLoop c = 0 := by
  have hzero : p.counted byLoop .zero = .zero := by simpa [owes] using h
  rw [worth, hzero]
  cases c <;> rfl

/-- A party adds to the counters what it has brought about. -/
theorem worth_eq_yield (byLoop : Bool) (p : Party H) :
    p.worth byLoop .succeeded = p.yield .succeeded ∧
      p.worth byLoop .failed + p.worth byLoop .reaped = p.yield .failed := by
  unfold worth
  cases p.tells with
  | nothing counted yields =>
      rw [counted, yields, yields]
      exact ⟨rfl, rfl⟩
  | went r x => cases x <;> exact ⟨rfl, rfl⟩
  | swept rows =>
      refine ⟨rfl, ?_⟩
      show 0 + (0 + rows) = rows
      omega
  | failed counted yields =>
      rw [counted, yields, yields]
      cases byLoop <;> exact ⟨rfl, rfl⟩

/-- A result leaves it at four ways for a task that was processed. -/
theorem tidy_counted (byLoop : Bool) {s : Stats} (h : s.processed = s.outcomes) (p : Party H) :
    (p.counted byLoop s).processed = (p.counted byLoop s).outcomes := by
  cases p.tells with
  | nothing counted =>
      rw [counted]
      exact h
  | went r x =>
      show (s.count x).processed = (s.count x).outcomes
      rw [Stats.processed_count, Stats.outcomes_count, h]
  | swept rows => exact h
  | failed counted =>
      rw [counted]
      cases byLoop <;> exact h

/-- A request brings no outcome about. -/
theorem yield_of_isRequest {p : Party H} (hp : p.isRequest = true) (s : Status) :
    p.yield s = 0 := by
  cases p <;> first | rfl | cases hp

/-- A store error counts in a loop, and only there. -/
theorem worth_storeErrors (byLoop : Bool) (p : Party H) :
    p.worth byLoop .storeErrors = if (byLoop && p.hasFailed) = true then 1 else 0 := by
  unfold worth
  cases p.tells with
  | nothing counted _ well =>
      rw [counted, well, Bool.and_false]
      rfl
  | went r x => cases x <;> cases byLoop <;> rfl
  | swept rows => cases byLoop <;> rfl
  | failed counted _ failed =>
      rw [counted, failed, Bool.and_true]
      cases byLoop <;> rfl

end Party

namespace Firm

variable {n : Nat} {f f' : Firm H n}

/-- What the jobs are worth is what the parties have brought about. -/
theorem Staffed.elim_worth (h : f.Staffed) {i : Nat} {p : Party H}
    (hp : f.shop.parties[i]? = some p) :
    ((f.jobs i).elim 0 fun j => p.worth j.byLoop .succeeded) = p.yield .succeeded ∧
      ((f.jobs i).elim 0 fun j => p.worth j.byLoop .failed) +
        ((f.jobs i).elim 0 fun j => p.worth j.byLoop .reaped) = p.yield .failed := by
  cases hj : f.jobs i with
  | some j => exact Party.worth_eq_yield j.byLoop p
  | none =>
      have hrequest : p.isRequest = true := by
        cases hr : p.isRequest with
        | true => rfl
        | false =>
            obtain ⟨j, hj'⟩ := h.hired i p hp hr
            rw [hj] at hj'
            cases hj'
      rw [Party.yield_of_isRequest hrequest, Party.yield_of_isRequest hrequest]
      exact ⟨rfl, rfl⟩

/-! ## Counters as sums -/

/-- What a party has added to a counter of an engine. -/
def share (f : Firm H n) (e : Fin n) (c : Counter) (i : Nat) (p : Party H) : Nat :=
  match f.jobs i with
  | some j => if j.engine = e ∧ j.counted = true then p.worth j.byLoop c else 0
  | none => 0

theorem share_none {i : Nat} (h : f.jobs i = none) (e : Fin n) (c : Counter) (p : Party H) :
    f.share e c i p = 0 := by
  rw [share, h]

theorem share_uncounted {i : Nat} {j : Job n} (h : f.jobs i = some j) (hj : j.counted = false)
    (e : Fin n) (c : Counter) (p : Party H) : f.share e c i p = 0 := by
  simp only [share, h, hj, Bool.false_eq_true, and_false, if_false]

/-- The counters of an engine are what its counted jobs are worth. -/
def Booked (f : Firm H n) : Prop :=
  ∀ e c, (f.stats e).read c = Workshop.total (f.share e c) f.shop.parties

theorem booked_opened (offices : Fin n → Office H) : (opened offices).Booked := by
  intro e c
  cases c <;> rfl

/-- Nothing that happens in the workshop touches what was counted. -/
theorem Booked.shop (h : f.Booked) (hst : f.Staffed) (x : Happening H) :
    Booked { f with shop := f.shop.step x } := by
  intro e c
  refine (h e c).trans (Workshop.Step.total_eq (f.shop.step_of_happening x) ?_ ?_).symm
  · intro a
    exact share_none hst.free e c _
  · intro i p q hp hproceeds
    show f.share e c i q = f.share e c i p
    cases hj : f.jobs i with
    | none => rw [share_none hj, share_none hj]
    | some j =>
        cases hcounted : j.counted with
        | false => rw [share_uncounted hj hcounted, share_uncounted hj hcounted]
        | true => rw [eq_of_hasResult hproceeds (hst.counted i j p hj hp hcounted)]

/-- A job that begins has not been counted. -/
theorem Booked.hire (h : f.Booked) (a : Arrival H) (e : Fin n) (byLoop : Bool) :
    (f.hire a e byLoop).Booked := by
  intro d c
  have hnew : (f.hire a e byLoop).share d c f.shop.parties.length a.party = 0 :=
    share_uncounted (f.jobs_hire_self a e byLoop) rfl d c _
  have hold : Workshop.total ((f.hire a e byLoop).share d c) f.shop.parties =
      Workshop.total (f.share d c) f.shop.parties := by
    refine Workshop.total_congr fun i p hp => ?_
    have hne : i ≠ f.shop.parties.length := Nat.ne_of_lt (List.getElem?_eq_some_iff.1 hp).1
    rw [share, jobs_hire_of_ne hne, share]
  refine (h d c).trans (hold.symm.trans ((Workshop.total_append _ _ a.party).trans ?_).symm)
  rw [hnew, Nat.add_zero]

/-- A result is counted by its engine. -/
theorem Booked.book (h : f.Booked) {i : Nat} {j : Job n} {p : Party H} (hj : f.jobs i = some j)
    (hp : f.shop.parties[i]? = some p) (hcounted : j.counted = false) : (f.book i j p).Booked := by
  intro e c
  have hothers : ∀ k, k ≠ i → (f.book i j p).share e c k = f.share e c k := by
    intro k hk
    funext q
    rw [share, jobs_book_of_ne hk, share]
  have hsum := Workshop.total_recount hp hothers
  have hnew : (f.book i j p).share e c i p = if j.engine = e then p.worth j.byLoop c else 0 := by
    simp only [share, jobs_book_self, and_true]
  rw [share_uncounted hj hcounted, Nat.add_zero, hnew, ← h e c] at hsum
  rw [show (f.book i j p).shop = f.shop from rfl, hsum]
  by_cases he : j.engine = e
  · rw [if_pos he, ← he]
    show (Function.update f.stats j.engine _ j.engine).read c = _
    rw [Function.update_self, Party.read_counted]
  · rw [if_neg he]
    show (Function.update f.stats j.engine _ e).read c = _
    rw [Function.update_of_ne (Ne.symm he)]
    rfl

/-- The counters are what the counted jobs are worth, whatever happens. -/
theorem Booked.move (h : f.Booked) (hst : f.Staffed) (hm : f.Moves f') : f'.Booked := by
  cases hm with
  | idle => exact h
  | shop _ => exact h.shop hst _
  | hire _ e byLoop => exact h.hire _ e byLoop
  | book hired stands _ uncounted => exact h.book hired stands uncounted

/-- A task that was processed went one of the four ways. -/
theorem tidy_move (h : ∀ e, (f.stats e).processed = (f.stats e).outcomes) (hm : f.Moves f')
    (e : Fin n) : (f'.stats e).processed = (f'.stats e).outcomes := by
  cases hm with
  | idle | shop _ | hire _ _ _ => exact h e
  | @book i j p _ _ _ _ =>
      by_cases he : j.engine = e
      · subst he
        show (Function.update f.stats j.engine _ j.engine).processed =
          (Function.update f.stats j.engine _ j.engine).outcomes
        rw [Function.update_self]
        exact Party.tidy_counted j.byLoop (h j.engine) p
      · show (Function.update f.stats j.engine _ e).processed =
          (Function.update f.stats j.engine _ e).outcomes
        rw [Function.update_of_ne (Ne.symm he)]
        exact h e

/-! ## When nothing is left to count -/

/-- Whether nothing is left to count. -/
def isSettled (f : Firm H n) : Bool :=
  (List.range f.shop.parties.length).all fun i =>
    match f.jobs i, f.shop.parties[i]? with
    | some j, some p => j.counted || !p.owes j.byLoop
    | _, _ => true

/-- What was not counted adds nothing. -/
theorem worth_of_isSettled (h : f.isSettled = true) {i : Nat} {j : Job n} {p : Party H}
    (hj : f.jobs i = some j) (hp : f.shop.parties[i]? = some p) (hcounted : j.counted = false)
    (c : Counter) : p.worth j.byLoop c = 0 := by
  have hi := List.all_eq_true.1 h i (List.mem_range.2 (List.getElem?_eq_some_iff.1 hp).1)
  simp only [hj, hp, hcounted, Bool.false_or, Bool.not_eq_true'] at hi
  exact Party.worth_of_not_owes hi c

/-- A job adds to the counters of its engine what it is worth, counted or not. -/
theorem share_eq (h : f.isSettled = true) {i : Nat} {p : Party H}
    (hp : f.shop.parties[i]? = some p) (e : Fin n) (c : Counter) :
    f.share e c i p = (f.jobs i).elim 0 fun j => if j.engine = e then p.worth j.byLoop c else 0 := by
  cases hj : f.jobs i with
  | none => exact share_none hj e c p
  | some j =>
      cases hcounted : j.counted with
      | true => simp only [share, hj, hcounted, and_true, Option.elim_some]
      | false =>
          rw [share_uncounted hj hcounted, Option.elim_some,
            worth_of_isSettled h hj hp hcounted, ite_self]

/-- A job is that of one engine. -/
theorem sum_share (h : f.isSettled = true) {i : Nat} {p : Party H}
    (hp : f.shop.parties[i]? = some p) (c : Counter) :
    ∑ e, f.share e c i p = (f.jobs i).elim 0 fun j => p.worth j.byLoop c := by
  rw [Finset.sum_congr rfl fun e _ => share_eq h hp e c]
  cases f.jobs i with
  | none => exact Finset.sum_const_zero
  | some j => exact (Finset.sum_ite_eq _ _ _).trans (if_pos (Finset.mem_univ _))

/-- All engines together have counted what all jobs are worth. -/
theorem Booked.sum_read (hb : f.Booked) (h : f.isSettled = true) (c : Counter) :
    ∑ e, (f.stats e).read c =
      Workshop.total (fun i p => (f.jobs i).elim 0 fun j => p.worth j.byLoop c) f.shop.parties := by
  rw [Finset.sum_congr rfl fun e _ => hb e c]
  unfold Workshop.total
  rw [Finset.sum_comm]
  refine Finset.sum_congr rfl fun i hi => ?_
  rw [List.getElem?_eq_getElem (Finset.mem_range.1 hi)]
  exact sum_share h (List.getElem?_eq_getElem (Finset.mem_range.1 hi)) c

/-- All engines together have counted the tasks that are stored as succeeded. -/
theorem Booked.succeeded (hb : f.Booked) (h : f.isSettled = true) (hst : f.Staffed)
    (hy : f.shop.Yields) :
    ∑ e, (f.stats e).succeeded = f.shop.memory.tally .succeeded := by
  refine (hb.sum_read h .succeeded).trans (Eq.trans ?_ (hy .succeeded (Or.inl rfl)).symm)
  exact Workshop.total_congr fun i p hp => (hst.elim_worth hp).1

/-- All engines together have counted the tasks that are stored as failed, by an attempt or by a
sweep. -/
theorem Booked.failed (hb : f.Booked) (h : f.isSettled = true) (hst : f.Staffed)
    (hy : f.shop.Yields) :
    ∑ e, ((f.stats e).failed + (f.stats e).reaped) = f.shop.memory.tally .failed := by
  have hfailed := hb.sum_read h .failed
  have hreaped := hb.sum_read h .reaped
  refine Finset.sum_add_distrib.trans (Eq.trans ?_ (hy .failed (Or.inr rfl)).symm)
  refine (congrArg₂ (· + ·) hfailed hreaped).trans ((Workshop.total_add _ _ _).trans ?_)
  exact Workshop.total_congr fun i p hp => (hst.elim_worth hp).2

/-- Whether the job at a place was made by a loop of an engine and ended with a store error. -/
def failedInLoop (f : Firm H n) (e : Fin n) (i : Nat) : Bool :=
  match f.jobs i, f.shop.parties[i]? with
  | some j, some p => decide (j.engine = e) && (j.byLoop && p.hasFailed)
  | _, _ => false

/-- How many polls and sweeps of the loops of an engine ended with a store error. -/
def failuresInLoops (f : Firm H n) (e : Fin n) : Nat :=
  (List.range f.shop.parties.length).countP (f.failedInLoop e)

theorem sum_ite_eq_countP (b : Nat → Bool) (k : Nat) :
    ∑ i ∈ Finset.range k, (if b i = true then 1 else 0) = (List.range k).countP b := by
  induction k with
  | zero => rfl
  | succ k ih =>
      rw [Finset.sum_range_succ, ih, List.range_succ, List.countP_append, List.countP_singleton]

/-- An engine has counted the failures of its loops, and no others. -/
theorem Booked.storeErrors (hb : f.Booked) (h : f.isSettled = true) (e : Fin n) :
    (f.stats e).storeErrors = f.failuresInLoops e := by
  refine (hb e .storeErrors).trans (Eq.trans ?_ (sum_ite_eq_countP _ _))
  refine Finset.sum_congr rfl fun i hi => ?_
  have hp := List.getElem?_eq_getElem (Finset.mem_range.1 hi)
  rw [hp, Option.elim_some, share_eq h hp, failedInLoop, hp]
  cases f.jobs i with
  | none => rfl
  | some j =>
      rw [Option.elim_some, Party.worth_storeErrors]
      by_cases he : j.engine = e
      · simp only [he, if_true, decide_true, Bool.true_and]
      · simp only [he, if_false, decide_false, Bool.false_and, Bool.false_eq_true]

/-- The counters account for what is stored. -/
structure Accounts (f : Firm H n) : Prop where
  processed : ∀ e, (f.stats e).processed =
    (f.stats e).succeeded + (f.stats e).failed + (f.stats e).skipped + (f.stats e).superseded
  succeeded : ∑ e, (f.stats e).succeeded = f.shop.memory.tally .succeeded
  failed : ∑ e, ((f.stats e).failed + (f.stats e).reaped) = f.shop.memory.tally .failed
  /-- A task in processing belongs to an attempt of an engine that won its claim, and is on its way
  or ended with a store error. -/
  processing : ∀ u ∈ f.shop.memory.tasks, u.status = .processing →
    ∃ i j, f.jobs i = some j ∧ f.shop.AttendedBy u.id i
  /-- Store errors are those of polls and sweeps of loops. -/
  storeErrors : ∀ e, (f.stats e).storeErrors = f.failuresInLoops e

/-- What holds of a firm at all times. -/
structure Kept (f : Firm H n) : Prop where
  staffed : f.Staffed
  booked : f.Booked
  tidy : ∀ e, (f.stats e).processed = (f.stats e).outcomes
  sound : f.shop.Sound
  yields : f.shop.Yields
  attended : f.shop.Attended

theorem kept_opened (offices : Fin n → Office H) : (opened offices).Kept where
  staffed := staffed_opened offices
  booked := booked_opened offices
  tidy := fun _ => rfl
  sound := Workshop.sound_opened .nil
  yields := Workshop.yields_opened rfl
  attended := Workshop.attended_opened rfl

theorem Kept.move (h : f.Kept) (hm : f.Moves f') : f'.Kept where
  staffed := h.staffed.move hm
  booked := h.booked.move h.staffed hm
  tidy := tidy_move h.tidy hm
  sound := h.sound.step hm.shop_step
  yields := h.yields.step hm.shop_step h.sound.orderly h.sound.apart
  attended := h.attended.step hm.shop_step h.sound

/-- **Counters account for the store.**  After every run of any number of engines, from an empty
store, at every moment at which nothing is left to count, the counters of the engines agree with
what is stored. -/
theorem accounts_balance (offices : Fin n → Office H) (xs : List (FirmEvent H n))
    (h : ((opened offices).after xs).isSettled = true) : ((opened offices).after xs).Accounts := by
  have hkept : ((opened offices).after xs).Kept :=
    keeps_of_moves (fun _ _ hm hk => hk.move hm) (kept_opened offices) xs
  refine ⟨hkept.tidy, hkept.booked.succeeded h hkept.staffed hkept.yields,
    hkept.booked.failed h hkept.staffed hkept.yields, ?_, hkept.booked.storeErrors h⟩
  intro u hu hprocessing
  obtain ⟨i, hclaim, r, a, hi, hpoint⟩ := hkept.attended u hu hprocessing
  obtain ⟨j, hj⟩ := hkept.staffed.hired i _ hi rfl
  exact ⟨i, j, hj, hclaim, r, a, hi, hpoint⟩

/-- Two engines, the second one without handlers. -/
def twoOffices : Fin 2 → Office Unit
  | 0 => ⟨Workshop.invoiceRegistry, .zero⟩
  | 1 => ⟨Registry.empty, .zero⟩

/-- Turns of a party, while the clock stands still. -/
def turns (k i : Nat) (fault : Option StoreError) : List (FirmEvent Unit 2) :=
  List.replicate k (.shop (.turn i .epoch (Workshop.idOf 9) fault))

/-- The loop of the first engine recognises an invoice, counts it, and then cannot reach the
store. -/
def oneInvoice : List (FirmEvent Unit 2) :=
  .shop (.arrive (.submit Workshop.invoiceForm)) :: turns 3 0 none ++
    .attempt 0 true :: turns 3 1 none ++
      .shop (.finish 1 (.returned (.str "paid"))) :: turns 1 1 none ++
        .count 1 :: .attempt 0 true :: turns 1 2 (some (.unavailable "down")) ++
          [.count 2, .attempt 1 false]

/-- The recognised invoice and the failed poll are accounted for. -/
theorem accounts_of_oneInvoice :
    ((opened twoOffices).after oneInvoice).isSettled = true ∧
      ((opened twoOffices).after oneInvoice).Accounts :=
  ⟨by decide +kernel, accounts_balance twoOffices oneInvoice (by decide +kernel)⟩

example : (((opened twoOffices).after oneInvoice).stats 0).succeeded = 1 ∧
    (((opened twoOffices).after oneInvoice).stats 0).storeErrors = 1 := by
  decide +kernel

end Firm

end Backlog
