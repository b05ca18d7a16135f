import Backlog.Proofs.Drain.Fate
import Mathlib.Algebra.GroupWithZero.Nat
/-!
# A drain empties the queue

Loops end, and when all of them have ended nothing is queued any more.  The first holds because
everything that happens takes a loop forward: from poll to claim, from there to the end or through
the handling of a task and back to the poll.  Going back is paid for by the claim, which takes a task
out of the queue (`effort`).

The second is not a matter of any one loop.  A loop that loses a claim ends although tasks may be
queued; but a claim is lost only on a task that is queued no longer, so its loop was not the one to
rely on.  As long as something is queued, some loop is on its way and does not stand before a claim
that is lost already (`Live`): whoever takes such a loop's task away by a claim is itself on its way.
The loop that ends last polls again after its last task, and finds nothing.

What the loops answer is counted with what they hold and with what is queued (`Balanced`).

## Main results

* `Called.account`, `Called.live` — what a call does to the measure, the count and the loops on
  their way.
* `drain_completes` — loops end, and what is left when they have.
-/

namespace Backlog

variable {H : Type}

/-- One entry of a list is exchanged. -/
theorem sum_map_set {α : Type} {l : List α} {j : Nat} {a : α} (f : α → Nat) (h : l[j]? = some a)
    (b : α) : ((l.set j b).map f).sum + f a = (l.map f).sum + f b := by
  induction l generalizing j with
  | nil => cases h
  | cons x l ih =>
      cases j with
      | zero =>
          cases h
          simp only [List.set_cons_zero, List.map_cons, List.sum_cons]
          omega
      | succ j =>
          have hrest := ih h
          simp only [List.set_cons_succ, List.map_cons, List.sum_cons]
          omega

namespace Attempt

/-- How far an attempt is from the end of its loop, if it finds nothing more. -/
def rank : Attempt H → Nat
  | poll => 2
  | claim _ => 1
  | recheck _ => 6
  | handle _ _ => 5
  | complete _ _ => 4
  | done (.ok (some _)) => 3
  | done _ => 0

/-- The task that an attempt has taken from the queue. -/
def credit : Attempt H → Nat
  | recheck _ | handle _ _ | complete _ _ | done (.ok (some _)) => 1
  | poll | claim _ | done _ => 0

/-- Whether an attempt ended with a store error. -/
def isFailed : Attempt H → Bool
  | done (.error _) => true
  | _ => false

/-- Whether a loop is on its way: it is not over, and does not stand before a claim that is lost
already. -/
def IsLive (m : Memory) : Attempt H → Prop
  | claim t => ∃ u, m.find? t.id = some u ∧ u.status = .queued
  | done (.ok none) | done (.error _) => False
  | _ => True

theorem eq_of_isIdle {a : Attempt H} (h : a.isIdle = true) : a = done (.ok none) := by
  unfold isIdle at h
  split at h
  · rfl
  · cases h

theorem isLive_dispatch (m : Memory) (r : Registry H) (t : Task) : (dispatch r t).IsLive m := by
  unfold dispatch
  split <;> trivial

theorem rank_dispatch (r : Registry H) (t : Task) :
    (dispatch r t).rank < 6 ∧ (dispatch r t).credit = 1 := by
  unfold dispatch
  split
  · exact ⟨Nat.lt_succ_self 5, rfl⟩
  · exact ⟨Nat.lt_succ_of_lt (Nat.lt_succ_self 4), rfl⟩

end Attempt

namespace Called

variable {r : Registry H} {m : Memory} {a b : Attempt H} {c : StoreCall} {now : Instant}

/-- A call brings its loop forward, and a task that leaves the queue is taken by its loop. -/
theorem account (h : Memory.Apart m.tasks) (called : Called r m a c (m.exec now c).2 b) :
    b.rank + 6 * (m.exec now c).1.tally .queued < a.rank + 6 * m.tally .queued ∧
      b.credit + (m.exec now c).1.tally .queued = a.credit + m.tally .queued := by
  change Called r m a c (m.answer now none c).2 b at called
  generalize hr : (m.answer now none c).2 = reply at called
  cases called with
  | found _ _ =>
      rw [Memory.exec_lookup rfl]
      exact ⟨Nat.add_lt_add_right (Nat.lt_succ_self 1) _, rfl⟩
  | nothing _ =>
      rw [Memory.exec_lookup rfl]
      exact ⟨Nat.add_lt_add_right Nat.zero_lt_two _, rfl⟩
  | lost =>
      rw [show (m.exec now _).1 = m from h.updateIf_zero hr]
      exact ⟨Nat.add_lt_add_right Nat.zero_lt_one _, rfl⟩
  | dispatched =>
      rw [Memory.exec_lookup rfl]
      obtain ⟨hrank, hcredit⟩ := Attempt.rank_dispatch r _
      exact ⟨Nat.add_lt_add_right hrank _, congrArg (· + _) hcredit⟩
  | won =>
      have hmoved : (m.exec now _).1.tally .queued + 1 = m.tally .queued + 0 :=
        Memory.tally_moved h hr .queued
      simp only [Attempt.rank, Attempt.credit]
      omega
  | @stored t v x =>
      have hmoved := Memory.tally_moved h hr .queued
      have hother : (Attempt.verdictUpdate v).status ≠ .queued := by cases v <;> exact nofun
      rw [if_neg (by decide), if_neg hother] at hmoved
      have hsame : (m.exec now (.updateIf t.id (Guard.status .processing)
          (Attempt.verdictUpdate v))).1.tally .queued = m.tally .queued := hmoved
      simp only [Attempt.rank, Attempt.credit]
      omega

/-- After a call its loop is on its way, or the queue is empty, or the loop has lost a claim and was
not on its way before. -/
theorem live (h : Memory.Apart m.tasks) (called : Called r m a c (m.exec now c).2 b) :
    b.IsLive (m.exec now c).1 ∨ (m.exec now c).1.tally .queued = 0 ∨
      ((m.exec now c).1 = m ∧ ¬ a.IsLive m) := by
  change Called r m a c (m.answer now none c).2 b at called
  generalize hr : (m.answer now none c).2 = reply at called
  cases called with
  | found stored queued =>
      rw [Memory.exec_lookup rfl]
      exact Or.inl ⟨_, h.find?_of_mem stored, queued⟩
  | nothing empty =>
      rw [Memory.exec_lookup rfl]
      exact Or.inr (Or.inl empty)
  | won => exact Or.inl trivial
  | lost =>
      refine Or.inr (Or.inr ⟨h.updateIf_zero hr, ?_⟩)
      rintro ⟨u, hu, hqueued⟩
      refine Memory.mayChange_of_zero hr hu ?_
      simp only [Update.mayChange, Guard.status, Guard.allows, hqueued]
      rfl
  | dispatched => exact Or.inl (Attempt.isLive_dispatch _ r _)
  | stored => exact Or.inl trivial

/-- No call fails. -/
theorem isFailed_eq (called : Called r m a c (m.exec now c).2 b) : b.isFailed = false := by
  generalize (m.exec now c).2 = reply at called
  cases called with
  | dispatched =>
      unfold Attempt.dispatch
      split <;> rfl
  | _ => rfl

end Called

namespace Drain

variable {m : Memory} {d d' : Drain H}

/-! ## The invariant of a drain -/

/-- How far loops are from their ends. -/
def ranks (ls : List (Loop H)) : Nat := (ls.map fun l => l.attempt.rank).sum

/-- The tasks that loops have answered with, or have taken. -/
def credits (ls : List (Loop H)) : Nat :=
  (ls.map fun l => l.answers.length + l.attempt.credit).sum

theorem ranks_set {ls : List (Loop H)} {j : Nat} {l : Loop H} (h : ls[j]? = some l)
    (l' : Loop H) : ranks (ls.set j l') + l.attempt.rank = ranks ls + l'.attempt.rank :=
  sum_map_set _ h l'

theorem credits_set {ls : List (Loop H)} {j : Nat} {l : Loop H} (h : ls[j]? = some l)
    (l' : Loop H) : credits (ls.set j l') + (l.answers.length + l.attempt.credit) =
      credits ls + (l'.answers.length + l'.attempt.credit) :=
  sum_map_set _ h l'

/-- Loops that have not begun have neither answered nor taken anything. -/
theorem credits_start (m : Memory) (rs : List (Registry H)) : credits (start m rs).loops = 0 := by
  induction rs with
  | nil => rfl
  | cons r rs ih => exact (Nat.zero_add _).trans ih

/-- How much is left to do: by the loops, and for every task that is queued. -/
def effort (d : Drain H) : Nat := ranks d.loops + 6 * d.memory.tally .queued

/-- What the loops have answered with, what they have taken, and what is queued. -/
def Balanced (m : Memory) (d : Drain H) : Prop :=
  credits d.loops + d.memory.tally .queued = m.tally .queued

/-- As long as something is queued, some loop is on its way. -/
def Live (d : Drain H) : Prop :=
  0 < d.memory.tally .queued → ∃ l ∈ d.loops, l.attempt.IsLive d.memory

/-- What holds of a drain at all times. -/
structure Kept (m : Memory) (d : Drain H) : Prop where
  course : Course m d
  balanced : Balanced m d
  live : d.Live
  unfailed : ∀ l ∈ d.loops, l.attempt.isFailed = false

/-- Whatever happens, less is left to do. -/
theorem Moves.effort_lt (hm : d.Moves d') (h : Course m d) : d'.effort < d.effort := by
  cases hm with
  | @call j l now c b stands called =>
      obtain ⟨haccount, _⟩ := called.account (Fates.apart h)
      have hsum := ranks_set stands { l with attempt := b }
      simp only [effort, ask] at hsum ⊢
      omega
  | @handled j l t k stands running outcome =>
      have hsum := ranks_set stands { l with attempt := .complete t outcome.verdict }
      simp only [running, Attempt.rank] at hsum
      simp only [effort, advance]
      omega
  | @goOn j l x stands ended =>
      have hsum := ranks_set stands { l with attempt := .poll, answers := x :: l.answers }
      simp only [ended, Attempt.rank] at hsum
      simp only [effort, note]
      omega

/-- Answers, tasks that were taken and queued tasks add up, whatever happens. -/
theorem Balanced.move (hb : Balanced m d) (hm : d.Moves d') (h : Course m d) : Balanced m d' := by
  unfold Balanced at *
  cases hm with
  | @call j l now c b stands called =>
      obtain ⟨_, haccount⟩ := called.account (Fates.apart h)
      have hsum := credits_set stands { l with attempt := b }
      simp only [ask] at hsum ⊢
      omega
  | @handled j l t k stands running outcome =>
      have hsum := credits_set stands { l with attempt := .complete t outcome.verdict }
      simp only [running, Attempt.credit] at hsum
      simp only [advance]
      omega
  | @goOn j l x stands ended =>
      have hsum := credits_set stands { l with attempt := .poll, answers := x :: l.answers }
      simp only [ended, Attempt.credit, List.length_cons] at hsum
      simp only [note]
      omega

/-- A loop that goes on is among the loops. -/
theorem mem_set {j : Nat} {l : Loop H} (hl : d.loops[j]? = some l) (l' : Loop H) :
    l' ∈ d.loops.set j l' :=
  List.mem_set (List.getElem?_eq_some_iff.1 hl).1 l'

/-- Some loop is on its way while something is queued, whatever happens. -/
theorem Live.move (hlive : d.Live) (hm : d.Moves d') (h : Course m d) : d'.Live := by
  intro hqueued
  cases hm with
  | handled stands _ outcome => exact ⟨_, mem_set stands _, trivial⟩
  | goOn stands _ => exact ⟨_, mem_set stands _, trivial⟩
  | @call j l now c b stands called =>
      rcases called.live (Fates.apart h) with hb | hnone | ⟨hsame, hdead⟩
      · exact ⟨_, mem_set stands _, hb⟩
      · exact absurd hnone (Nat.ne_of_gt hqueued)
      · rw [show (d.ask j l now c b).memory = d.memory from hsame] at hqueued ⊢
        obtain ⟨l₀, hmem, hl₀⟩ := hlive hqueued
        obtain ⟨k, hk⟩ := List.mem_iff_getElem?.1 hmem
        have hkj : k ≠ j := by
          rintro rfl
          rw [stands] at hk
          cases hk
          exact hdead hl₀
        exact ⟨l₀, List.mem_of_getElem? ((List.getElem?_set_ne (Ne.symm hkj)).trans hk), hl₀⟩

theorem Kept.move (h : Kept m d) (hm : d.Moves d') : Kept m d' := by
  refine ⟨h.course.move hm, h.balanced.move hm h.course, h.live.move hm h.course, ?_⟩
  intro l hl
  cases hm with
  | call stands called =>
      rcases List.mem_or_eq_of_mem_set hl with hold | rfl
      · exact h.unfailed l hold
      · exact called.isFailed_eq
  | handled stands _ outcome | goOn stands _ =>
      rcases List.mem_or_eq_of_mem_set hl with hold | rfl
      · exact h.unfailed l hold
      · rfl

/-- What an event does to a drain: it brings the loops nearer to their ends, or does nothing. -/
theorem Kept.step (h : Kept m d) (x : DrainEvent) : Kept m (d.step x) ∧
    ((d.awaits x = true ∧ (d.step x).effort < d.effort) ∨ (d.awaits x = false ∧ d.step x = d)) := by
  rcases moves_of_event (Fates.online h.course) (fun l hl => h.course.holds hl) x with
    ⟨hawaits, hm⟩ | ⟨hawaits, hsame⟩
  · exact ⟨h.move hm, Or.inl ⟨hawaits, hm.effort_lt h.course⟩⟩
  · rw [hsame]
    exact ⟨h, Or.inr ⟨hawaits, rfl⟩⟩

theorem Kept.after (h : Kept m d) (xs : List DrainEvent) : Kept m (d.after xs) := by
  induction xs generalizing d with
  | nil => exact h
  | cons x xs ih => exact ih (h.step x).1

/-- One loop at least is on its way at the start. -/
theorem kept_start (hon : m.online = true) (h : Memory.Apart m.tasks) (r : Registry H)
    (rs : List (Registry H)) : Kept m (start m (r :: rs)) := by
  refine ⟨course_start hon h _, ?_, ?_, ?_⟩
  · rw [Balanced, credits_start, Nat.zero_add]
    rfl
  · intro _
    exact ⟨⟨r, .poll, []⟩, List.mem_cons_self, trivial⟩
  · intro l hl
    obtain ⟨s, _, rfl⟩ := List.mem_map.1 hl
    rfl

/-! ## Loops end -/

/-- A drain on a schedule, after so many events. -/
def along (d : Drain H) (schedule : Nat → DrainEvent) : Nat → Drain H
  | 0 => d
  | k + 1 => (d.along schedule k).step (schedule k)

/-- Whether a schedule goes on as long as there is something to do: as long as not all loops are
over, some later event is one that a loop waits for. -/
def GoesOn (d : Drain H) (schedule : Nat → DrainEvent) : Prop :=
  ∀ k, (d.along schedule k).isOver = true ∨
    ∃ i, k ≤ i ∧ (d.along schedule i).awaits (schedule i) = true

theorem Kept.along (h : Kept m d) (schedule : Nat → DrainEvent) (k : Nat) :
    Kept m (d.along schedule k) := by
  induction k with
  | zero => exact h
  | succ k ih => exact (ih.step (schedule k)).1

/-- Nothing brings the loops further from their ends. -/
theorem Kept.effort_le (h : Kept m d) (schedule : Nat → DrainEvent) {k i : Nat} (hki : k ≤ i) :
    (d.along schedule i).effort ≤ (d.along schedule k).effort := by
  induction i, hki using Nat.le_induction with
  | base => exact Nat.le_refl _
  | succ i _ ih =>
      refine Nat.le_trans ?_ ih
      rcases ((h.along schedule i).step (schedule i)).2 with ⟨_, hlt⟩ | ⟨_, hsame⟩
      · exact Nat.le_of_lt hlt
      · exact Nat.le_of_eq (congrArg effort hsame)

/-- All loops end, on every schedule that goes on. -/
theorem Kept.ends (h : Kept m d) {schedule : Nat → DrainEvent} (hgoes : d.GoesOn schedule) :
    ∃ k, (d.along schedule k).isOver = true := by
  suffices hleft : ∀ n k, (d.along schedule k).effort = n →
      ∃ k', (d.along schedule k').isOver = true from hleft _ 0 rfl
  intro n
  induction n using Nat.strong_induction_on with
  | h n ih =>
      intro k hk
      rcases hgoes k with hover | ⟨i, hki, hawaits⟩
      · exact ⟨k, hover⟩
      · have hle := h.effort_le schedule hki
        rcases ((h.along schedule i).step (schedule i)).2 with ⟨_, hlt⟩ | ⟨hidle, _⟩
        · refine ih (d.along schedule (i + 1)).effort ?_ (i + 1) rfl
          exact Nat.lt_of_lt_of_le hlt (hk ▸ hle)
        · rw [hawaits] at hidle
          cases hidle

/-- A loop that is not over waits for something. -/
theorem Kept.goesOn (h : Kept m d) {j : Nat} {l : Loop H} (hl : d.loops[j]? = some l)
    (hover : l.attempt.isIdle = false) : ∃ x : DrainEvent, x.place = j ∧ d.awaits x = true := by
  have hunfailed := h.unfailed l (List.mem_of_getElem? hl)
  have hsuits : ∃ x : DrainEvent, x.place = j ∧ x.suits l.attempt = true := by
    cases ha : l.attempt with
    | poll | claim _ | recheck _ | complete _ _ => exact ⟨.turn j .epoch, rfl, rfl⟩
    | handle _ _ => exact ⟨.finish j (.failed []), rfl, rfl⟩
    | done result =>
        rcases result with e | _ | x
        · rw [ha] at hunfailed
          cases hunfailed
        · rw [ha] at hover
          cases hover
        · exact ⟨.goOn j, rfl, rfl⟩
  obtain ⟨x, rfl, hx⟩ := hsuits
  refine ⟨x, rfl, ?_⟩
  rw [awaits, hl]
  exact hx

/-! ## When all loops are over -/

/-- What is left when all loops of a drain are over, which began with the store `m`. -/
structure Drained (m : Memory) (d : Drain H) : Prop where
  /-- What was queued was claimed once, and has ended. -/
  processed : ∀ t ∈ m.tasks, t.status = .queued → d.history.countP (Deed.isClaimOf t.id) = 1 ∧
    ∃ u, d.memory.find? t.id = some u ∧ t.SameWork u ∧
      (u.status = .succeeded ∨ u.status = .failed)
  /-- Nothing is queued any more. -/
  emptied : ∀ u ∈ d.memory.tasks, u.status ≠ .queued
  /-- The loops have answered with as many tasks as were queued. -/
  answered : (d.loops.map fun l => l.answers.length).sum = m.tally .queued
  /-- What was not queued is as it was. -/
  untouched : ∀ t ∈ m.tasks, t.status ≠ .queued → d.memory.find? t.id = some t
  /-- Nothing else is stored. -/
  ids : d.memory.tasks.map Task.id = m.tasks.map Task.id

/-- What is left when all loops are over. -/
theorem Kept.drained (h : Kept m d) (hover : d.isOver = true) : Drained m d := by
  have hidle : ∀ l ∈ d.loops, l.attempt = .done (.ok none) := fun l hl =>
    Attempt.eq_of_isIdle (List.all_eq_true.1 hover l hl)
  have hempty : d.memory.tally .queued = 0 := by
    by_contra hqueued
    obtain ⟨l, hl, hlive⟩ := h.live (Nat.pos_of_ne_zero hqueued)
    rw [hidle l hl] at hlive
    exact hlive
  have hunqueued : ∀ u ∈ d.memory.tasks, u.status ≠ .queued := fun u hu hq =>
    List.countP_eq_zero.1 hempty u hu (beq_iff_eq.2 hq)
  have hunheld : ∀ {j : Nat} {s : Task}, d.held j ≠ some s := by
    intro j s hj
    obtain ⟨l, hl, hclaimed⟩ := Option.bind_eq_some_iff.1 hj
    rw [hidle l (List.mem_of_getElem? hl)] at hclaimed
    cases hclaimed
  refine ⟨?_, hunqueued, ?_, ?_, Fates.ids h.course⟩
  · intro t ht hqueued
    cases Fates.fates h.course t ht with
    | untouched same _ => exact absurd hqueued (hunqueued t (Memory.find?_some same).1)
    | held _ holds _ _ _ _ => exact absurd holds hunheld
    | ended _ stored work outcome once => exact ⟨once, _, stored, work, outcome⟩
  · have hcredits : credits d.loops = (d.loops.map fun l => l.answers.length).sum := by
      unfold credits
      refine congrArg List.sum (List.map_congr_left fun l hl => ?_)
      rw [hidle l hl]
      rfl
    have hbalanced := h.balanced
    rw [Balanced, hempty, hcredits] at hbalanced
    exact hbalanced
  · intro t ht hqueued
    cases Fates.fates h.course t ht with
    | untouched same _ => exact same
    | held was _ _ _ _ _ | ended was _ _ _ _ => exact absurd was hqueued

/-- What competing loops come to, from any point on. -/
structure Completes (m : Memory) (d : Drain H) : Prop where
  /-- A loop that is not over waits for something, so a schedule can go on. -/
  goesOn : ∀ j l, d.loops[j]? = some l → l.attempt.isIdle = false →
    ∃ x : DrainEvent, x.place = j ∧ d.awaits x = true
  /-- If a schedule goes on, all loops are over some time. -/
  ends : ∀ schedule : Nat → DrainEvent, d.GoesOn schedule →
    ∃ k, (d.along schedule k).isOver = true
  /-- When all loops are over the queue is empty, and every task in it was processed once. -/
  drained : d.isOver = true → Drained m d

/-- **Competing loops lose and repeat nothing.**  One loop or more work on a store with any history,
nobody else does, and the store stays online.  However their calls and their handlers interleave, the
loops end, and when they have ended every task that was queued was claimed once and has ended. -/
theorem drain_completes (es : List StoreEvent) (r : Registry H) (rs : List (Registry H))
    (xs : List DrainEvent) : Completes { Memory.empty.after es with online := true }
      ((start { Memory.empty.after es with online := true } (r :: rs)).after xs) := by
  have hapart : Memory.Apart (Memory.empty.after es).tasks := Memory.apart_after es
  have hkept := (kept_start (m := { Memory.empty.after es with online := true }) rfl hapart r
    rs).after xs
  exact ⟨fun _ _ hl hover => hkept.goesOn hl hover, fun _ hgoes => hkept.ends hgoes,
    hkept.drained⟩

/-- Two invoices that wait for their recognition. -/
def twoInvoices : Memory :=
  ⟨[Memory.invoiceTask .queued,
    { Memory.invoiceTask .queued with id := Workshop.idOf 8, target := "inv2" }], true⟩

-- Both loops poll, and both claim the first invoice: the second loop is over while an invoice waits.
example : (((start twoInvoices [Workshop.invoiceRegistry, Workshop.invoiceRegistry]).after
    [.turn 0 .epoch, .turn 1 .epoch, .turn 0 .epoch, .turn 1 .epoch]).loops.map
      fun l => l.attempt.isIdle) = [false, true] ∧
    ((start twoInvoices [Workshop.invoiceRegistry, Workshop.invoiceRegistry]).after
      [.turn 0 .epoch, .turn 1 .epoch, .turn 0 .epoch, .turn 1 .epoch]).memory.tally .queued = 1 := by
  decide +kernel

end Drain

end Backlog
