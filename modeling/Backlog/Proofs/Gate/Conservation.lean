import Backlog.Proofs.Gate.Crowd
import Mathlib.Data.List.Perm.Basic
/-!
# Slots are conserved

A slot of a bounded class is free, or held, or handed to a waiting attempt that has not resumed.
None is lost where an attempt ends in vain just as a slot is handed to it, and none is made where a
permit without a slot is given back.

The slots of a class are in balance with its holders and its waiting attempts (`Slots.Balanced`) when
they add up to the capacity, when the tickets they know are those of the attempts that wait, and when
nobody queues while a slot is free.  Each operation on slots keeps the balance: a ticket that leaves
after it was handed a slot gives it back, and a slot given back goes to the next ticket or is free,
which is the one place where slots change sides twice (`Slots.release_total`, `Slots.leave_total`).

Tickets are told apart by their numbers.  That no two attempts wait under one number is kept
separately (`Crowd.Ticketed`), and makes the slots that were granted the attempts that were handed
one (`Slots.Balanced.handed`).

## Main results

* `Slots.Balanced` with one lemma for each move, and `Crowd.balanced_after` for every run.
* `Crowd.slots_conserved` — what a gate keeps, for every configuration and every run.
-/

namespace Backlog

namespace Slots

variable {s : Slots} {t : Nat}

/-! ## Operations on slots -/

theorem take?_eq_some {s' : Slots} (h : s.take? = some s') :
    0 < s.free ∧ s' = { s with free := s.free - 1 } := by
  unfold take? at h
  split at h
  · next hf =>
      cases h
      exact ⟨hf, rfl⟩
  · cases h

theorem take?_eq_none (h : s.take? = none) : s.free = 0 := by
  unfold take? at h
  split at h
  · cases h
  · next hf => exact Nat.eq_zero_of_not_pos hf

/-- A slot given back is free or handed on. -/
theorem release_total (s : Slots) :
    s.release.granted.length + s.release.free = s.granted.length + s.free + 1 := by
  cases hq : s.queue with
  | nil =>
      rw [release_nil hq]
      exact (Nat.add_assoc _ _ _).symm
  | cons t ts =>
      rw [release_cons hq]
      show (s.granted ++ [t]).length + s.free = _
      rw [List.length_append, List.length_singleton]
      omega

/-- Giving a slot back keeps the tickets. -/
theorem release_tickets (s : Slots) :
    (s.queue ++ s.granted).Perm (s.release.queue ++ s.release.granted) := by
  cases hq : s.queue with
  | nil =>
      rw [release_nil hq]
      exact .of_eq (by rw [hq])
  | cons t ts =>
      rw [release_cons hq]
      show (t :: (ts ++ s.granted)).Perm (ts ++ (s.granted ++ [t]))
      rw [← List.append_assoc]
      exact (List.perm_append_singleton t (ts ++ s.granted)).symm

theorem release_limit (s : Slots) : s.release.limit = s.limit := by
  cases hq : s.queue with
  | nil => rw [release_nil hq]
  | cons t ts => rw [release_cons hq]

/-- Where nobody queued for a free slot, nobody does after one is given back. -/
theorem release_prompt (h : 0 < s.free → s.queue = []) :
    0 < s.release.free → s.release.queue = [] := by
  cases hq : s.queue with
  | nil =>
      rw [release_nil hq]
      exact fun _ => hq
  | cons t ts =>
      rw [release_cons hq]
      intro hf
      exact absurd (hq.symm.trans (h hf)) (List.cons_ne_nil t ts)

theorem mem_of_isGranted (h : s.isGranted t = true) : t ∈ s.granted := by
  simpa [isGranted] using h

/-- A ticket that takes its slot is granted no more. -/
theorem redeem_total (h : s.isGranted t = true) :
    (s.redeem t).granted.length + 1 = s.granted.length := by
  have hmem := mem_of_isGranted h
  show (s.granted.erase t).length + 1 = _
  rw [List.length_erase_of_mem hmem]
  exact Nat.sub_add_cancel (List.length_pos_of_mem hmem)

/-- A ticket that takes its slot is gone. -/
theorem redeem_tickets (h : s.isGranted t = true) :
    (s.queue ++ s.granted).Perm (t :: ((s.redeem t).queue ++ (s.redeem t).granted)) :=
  ((List.perm_cons_erase (mem_of_isGranted h)).append_left s.queue).trans List.perm_middle

theorem leave_of_granted (h : s.isGranted t = true) : s.leave t = (s.redeem t).release := if_pos h

theorem leave_of_queued (h : s.isGranted t = false) :
    s.leave t = { s with queue := s.queue.erase t } := if_neg (Bool.eq_false_iff.1 h)

/-- A ticket that leaves takes no slot with it. -/
theorem leave_total (s : Slots) (t : Nat) :
    (s.leave t).granted.length + (s.leave t).free = s.granted.length + s.free := by
  cases hg : s.isGranted t with
  | true =>
      rw [leave_of_granted hg, release_total]
      have hr := redeem_total hg
      show (s.redeem t).granted.length + s.free + 1 = _
      omega
  | false => rw [leave_of_queued hg]

/-- A ticket that leaves is gone. -/
theorem leave_tickets (h : t ∈ s.queue ++ s.granted) :
    (s.queue ++ s.granted).Perm (t :: ((s.leave t).queue ++ (s.leave t).granted)) := by
  cases hg : s.isGranted t with
  | true =>
      rw [leave_of_granted hg]
      exact (redeem_tickets hg).trans ((s.redeem t).release_tickets.cons t)
  | false =>
      have hq : t ∈ s.queue := by
        rcases List.mem_append.1 h with hq | hq
        · exact hq
        · exact absurd (List.contains_iff_mem.2 hq) (Bool.eq_false_iff.1 hg)
      rw [leave_of_queued hg]
      exact (List.perm_cons_erase hq).append_right s.granted

theorem leave_limit (s : Slots) (t : Nat) : (s.leave t).limit = s.limit := by
  cases hg : s.isGranted t with
  | true =>
      rw [leave_of_granted hg, release_limit]
      rfl
  | false => rw [leave_of_queued hg]

theorem leave_prompt (h : 0 < s.free → s.queue = []) :
    0 < (s.leave t).free → (s.leave t).queue = [] := by
  cases hg : s.isGranted t with
  | true =>
      rw [leave_of_granted hg]
      exact release_prompt h
  | false =>
      rw [leave_of_queued hg]
      intro hf
      show s.queue.erase t = []
      rw [h hf]
      rfl

/-! ## The balance of a class -/

/-- The slots of a class are in balance with its holders and its waiting attempts. -/
structure Balanced (limit : ClassLimit) (held : List Permit) (waiting : List Waiting) (s : Slots) :
    Prop where
  sameLimit : s.limit = limit
  /-- Who passes a bounded class has a slot, and nobody else has one. -/
  gated : ∀ p ∈ held, p.gated = !limit.isUnbounded
  /-- Held, handed over and free slots are all there are. -/
  total : held.countP Permit.gated + s.granted.length + s.free = limit.capacity
  /-- The tickets are those of the attempts that wait. -/
  tickets : (s.queue ++ s.granted).Perm (waiting.map Waiting.ticket)
  /-- Nobody queues while a slot is free. -/
  prompt : 0 < s.free → s.queue = []
  /-- Nobody waits for an unbounded class. -/
  unbounded : limit.isUnbounded = true → waiting = []

/-- Before anybody comes all slots are free. -/
theorem Balanced.start (limit : ClassLimit) : (Slots.ofLimit limit).Balanced limit [] [] where
  sameLimit := rfl
  gated := by
    intro p hp
    cases hp
  total := by
    show 0 + 0 + limit.capacity = _
    omega
  tickets := .refl _
  prompt := fun _ => rfl
  unbounded := fun _ => rfl

namespace Balanced

variable {limit : ClassLimit} {held held' : List Permit} {waiting waiting' : List Waiting}
  {p : Permit} {w : Waiting}

theorem gated_cons (b : s.Balanced limit held waiting) (hp : p.gated = !limit.isUnbounded) :
    ∀ p' ∈ p :: held, p'.gated = !limit.isUnbounded := by
  rintro p' (_ | ⟨_, hp'⟩)
  · exact hp
  · exact b.gated p' hp'

/-- Somebody passes an unbounded class. -/
theorem pass (b : s.Balanced limit held waiting) (hl : limit.isUnbounded = true)
    (hp : p.gated = false) : s.Balanced limit (p :: held) waiting where
  sameLimit := b.sameLimit
  gated := b.gated_cons (by rw [hp, hl]; rfl)
  total := by
    rw [List.countP_cons_of_neg (by rw [hp]; exact Bool.false_ne_true)]
    exact b.total
  tickets := b.tickets
  prompt := b.prompt
  unbounded := b.unbounded

/-- Somebody takes a slot that nobody holds, free or handed over. -/
theorem total_cons {n : Nat} (hp : p.gated = true)
    (h : held.countP Permit.gated + (n + 1) = limit.capacity) :
    (p :: held).countP Permit.gated + n = limit.capacity := by
  rw [List.countP_cons_of_pos hp]
  omega

/-- Somebody takes a free slot. -/
theorem take {s' : Slots} (b : s.Balanced limit held waiting) (hl : limit.isUnbounded = false)
    (hp : p.gated = true) (ht : s.take? = some s') : s'.Balanced limit (p :: held) waiting := by
  obtain ⟨hf, rfl⟩ := take?_eq_some ht
  refine ⟨b.sameLimit, b.gated_cons (by rw [hp, hl]; rfl), ?_, b.tickets, ?_, b.unbounded⟩
  · have ht := b.total
    rw [Nat.add_assoc]
    refine total_cons hp ?_
    show _ + (s.granted.length + (s.free - 1) + 1) = _
    omega
  · intro hf'
    exact b.prompt hf

/-- An attempt joins the queue of a class without a free slot. -/
theorem join (b : s.Balanced limit held waiting) (hl : limit.isUnbounded = false)
    (ht : s.take? = none) : (s.enqueue w.ticket).Balanced limit held (w :: waiting) where
  sameLimit := b.sameLimit
  gated := b.gated
  total := b.total
  tickets := by
    show ((s.queue ++ [w.ticket]) ++ s.granted).Perm (w.ticket :: waiting.map Waiting.ticket)
    rw [List.append_assoc]
    exact List.perm_middle.trans (b.tickets.cons w.ticket)
  prompt := by
    intro hf
    exact absurd (take?_eq_none ht) (Nat.ne_of_gt hf)
  unbounded := by
    intro h
    rw [hl] at h
    cases h

/-- The tickets of the others, when that of an attempt is gone. -/
theorem tickets_of_perm {ts : List Nat} (b : s.Balanced limit held waiting)
    (hw : waiting.Perm (w :: waiting')) (ht : (s.queue ++ s.granted).Perm (w.ticket :: ts)) :
    ts.Perm (waiting'.map Waiting.ticket) :=
  List.Perm.cons_inv (ht.symm.trans (b.tickets.trans (hw.map Waiting.ticket)))

/-- Where an attempt waits the class is bounded. -/
theorem bounded_of_perm (b : s.Balanced limit held waiting) (hw : waiting.Perm (w :: waiting')) :
    limit.isUnbounded = false := by
  cases hl : limit.isUnbounded with
  | false => rfl
  | true =>
      rw [b.unbounded hl] at hw
      exact absurd hw.symm.eq_nil (List.cons_ne_nil w waiting')

/-- An attempt takes the slot that it was handed. -/
theorem resume (b : s.Balanced limit held waiting) (hw : waiting.Perm (w :: waiting'))
    (hp : p.gated = true) (hg : s.isGranted w.ticket = true) :
    (s.redeem w.ticket).Balanced limit (p :: held) waiting' where
  sameLimit := b.sameLimit
  gated := b.gated_cons (by rw [hp, b.bounded_of_perm hw]; rfl)
  total := by
    have ht := b.total
    have hr := redeem_total hg
    rw [Nat.add_assoc]
    refine total_cons hp ?_
    show _ + ((s.redeem w.ticket).granted.length + s.free + 1) = _
    omega
  tickets := b.tickets_of_perm hw (redeem_tickets hg)
  prompt := b.prompt
  unbounded := by
    intro h
    rw [b.bounded_of_perm hw] at h
    cases h

/-- An attempt ends in vain. -/
theorem leave (b : s.Balanced limit held waiting) (hw : waiting.Perm (w :: waiting')) :
    (s.leave w.ticket).Balanced limit held waiting' where
  sameLimit := (s.leave_limit _).trans b.sameLimit
  gated := b.gated
  total := by
    rw [Nat.add_assoc, leave_total, ← Nat.add_assoc]
    exact b.total
  tickets := by
    refine b.tickets_of_perm hw (leave_tickets ?_)
    exact (b.tickets.trans (hw.map _)).mem_iff.2 (List.mem_cons_self ..)
  prompt := leave_prompt b.prompt
  unbounded := by
    intro h
    rw [b.bounded_of_perm hw] at h
    cases h

/-- A permit is given back, with its slot if it has one. -/
theorem giveBack (b : s.Balanced limit held waiting) (hh : held.Perm (p :: held')) :
    (if p.gated then s.release else s).Balanced limit held' waiting := by
  have hothers : ∀ p' ∈ held', p'.gated = !limit.isUnbounded := fun p' hp' =>
    b.gated p' (hh.mem_iff.2 (List.mem_cons_of_mem p hp'))
  have ht := b.total
  rw [hh.countP_eq] at ht
  cases hp : p.gated with
  | true =>
      rw [if_pos rfl]
      rw [List.countP_cons_of_pos hp] at ht
      refine ⟨s.release_limit.trans b.sameLimit, hothers, ?_, s.release_tickets.symm.trans b.tickets,
        release_prompt b.prompt, b.unbounded⟩
      rw [Nat.add_assoc, release_total]
      omega
  | false =>
      rw [if_neg Bool.false_ne_true]
      rw [List.countP_cons_of_neg (by rw [hp]; exact Bool.false_ne_true)] at ht
      exact ⟨b.sameLimit, hothers, ht, b.tickets, b.prompt, b.unbounded⟩

/-- Where no two attempts wait under one ticket, a slot that was granted is a slot handed to a
waiting attempt. -/
theorem handed (b : s.Balanced limit held waiting) (h : (waiting.map Waiting.ticket).Nodup) :
    waiting.countP (fun w => s.isGranted w.ticket) = s.granted.length := by
  have hn : (s.queue ++ s.granted).Nodup := b.tickets.nodup_iff.2 h
  have hq : s.queue.countP s.isGranted = 0 := by
    refine List.countP_eq_zero.2 fun t ht hg => ?_
    exact (List.nodup_append.1 hn).2.2 t ht t (mem_of_isGranted hg) rfl
  have hg : s.granted.countP s.isGranted = s.granted.length :=
    List.countP_eq_length.2 fun t ht => List.contains_iff_mem.2 ht
  calc waiting.countP (fun w => s.isGranted w.ticket)
      = (waiting.map Waiting.ticket).countP s.isGranted := List.countP_map.symm
    _ = (s.queue ++ s.granted).countP s.isGranted := (b.tickets.countP_eq _).symm
    _ = s.granted.length := by rw [List.countP_append, hq, hg, Nat.zero_add]

end Balanced

end Slots

namespace Crowd

variable {q q' : Crowd} {c : ResourceClass}

/-- The slots of every class are in balance with those who hold and those who wait. -/
def Balanced (config : GateConfig) (q : Crowd) : Prop :=
  ∀ c, (q.gate.get c).Balanced (config.get c).normalized (q.permitsOf c) (q.waitingOf c)

/-- A member that meets a condition, selected with the others. -/
theorem filter_perm_of_pos {α : Type} {p : α → Bool} {l : List α} {i : Nat} {a : α}
    (hi : l[i]? = some a) (ha : p a = true) : (l.filter p).Perm (a :: (l.eraseIdx i).filter p) := by
  obtain ⟨h, rfl⟩ := List.getElem?_eq_some_iff.1 hi
  rw [← List.filter_cons_of_pos ha]
  exact (List.getElem_cons_eraseIdx_perm h).symm.filter p

/-- What comes first and meets a condition is selected first. -/
theorem filter_cons_of_class (c : ResourceClass) (gated : Bool) (ps : List Permit) :
    (⟨c, gated⟩ :: ps : List Permit).filter (fun p => p.resource == c) =
      ⟨c, gated⟩ :: ps.filter fun p => p.resource == c :=
  List.filter_cons_of_pos (beq_self_eq_true c)

/-- A move in a class keeps its balance. -/
theorem Moves.balanced {limit : ClassLimit} (h : Moves q c q')
    (b : (q.gate.get c).Balanced limit (q.permitsOf c) (q.waitingOf c)) :
    (q'.gate.get c).Balanced limit (q'.permitsOf c) (q'.waitingOf c) := by
  have hl : ∀ v, (q.gate.limit c).isUnbounded = v → limit.isUnbounded = v := by
    intro v hv
    rw [← b.sameLimit]
    exact hv
  have hget : ∀ s, (q.gate.set c s).get c = s := fun s => q.gate.get_set_self c s
  cases h with
  | idle => exact b
  | pass unbounded _ =>
      show (q.gate.get c).Balanced limit (List.filter _ (_ :: _)) _
      rw [filter_cons_of_class]
      exact b.pass (hl _ unbounded) rfl
  | take bounded free _ =>
      show ((q.gate.set c _).get c).Balanced limit (List.filter _ (_ :: _)) _
      rw [hget, filter_cons_of_class]
      exact b.take (hl _ bounded) rfl free
  | @join w bounded full here _ =>
      show ((q.gate.set c _).get c).Balanced limit _ ((w :: q.waiting).filter _)
      rw [hget, List.filter_cons, beq_iff_eq.2 here, if_pos rfl]
      exact b.join (hl _ bounded) full
  | resume waits here granted =>
      show ((q.gate.set c _).get c).Balanced limit (List.filter _ (_ :: _)) _
      rw [hget, filter_cons_of_class]
      exact b.resume (filter_perm_of_pos waits (beq_iff_eq.2 here)) rfl granted
  | leave waits here =>
      show ((q.gate.set c _).get c).Balanced limit _ _
      rw [hget]
      exact b.leave (filter_perm_of_pos waits (beq_iff_eq.2 here))
  | @giveBack i p holds here =>
      have hgate : (q.gate.release p).get c =
          if p.gated then (q.gate.get c).release else q.gate.get c := by
        unfold Gate.release
        rw [here]
        split
        · exact hget _
        · rfl
      show ((q.gate.release p).get c).Balanced limit _ _
      rw [hgate]
      exact b.giveBack (filter_perm_of_pos holds (beq_iff_eq.2 here))

/-- Every move keeps the balance of every class. -/
theorem Balanced.move {config : GateConfig} (b : q.Balanced config) (h : Moves q c q') :
    q'.Balanced config := by
  intro d
  by_cases hd : d = c
  · rw [hd]
    exact h.balanced (b c)
  · obtain ⟨hg, hp, hw⟩ := h.apart hd
    rw [hg, hp, hw]
    exact b d

/-- The slots of every class are in balance after every run. -/
theorem balanced_after (config : GateConfig) (xs : List GateEvent) :
    ((opened config).after xs).Balanced config := by
  refine keeps_of_moves (fun q c q' h b => b.move h) (fun c => ?_) xs
  show (PerClass.get ((GateConfig.normalized config).map Slots.ofLimit) c).Balanced _ [] []
  rw [PerClass.get_map, GateConfig.normalized, PerClass.get_map]
  exact Slots.Balanced.start _

/-! ## Tickets -/

/-- No two attempts wait under one ticket, and the next ticket is none of theirs. -/
structure Ticketed (q : Crowd) : Prop where
  before : ∀ w ∈ q.waiting, w.ticket < q.nextTicket
  distinct : (q.waiting.map Waiting.ticket).Nodup

/-- Those who leave take their tickets with them. -/
theorem Ticketed.eraseIdx (t : q.Ticketed) (i : Nat) :
    (∀ w ∈ q.waiting.eraseIdx i, w.ticket < q.nextTicket) ∧
      ((q.waiting.eraseIdx i).map Waiting.ticket).Nodup :=
  ⟨fun w hw => t.before w (List.mem_of_mem_eraseIdx hw),
    t.distinct.sublist ((List.eraseIdx_sublist _ _).map _)⟩

/-- Every move keeps tickets apart. -/
theorem Ticketed.move (t : q.Ticketed) (h : Moves q c q') : q'.Ticketed := by
  cases h with
  | idle | giveBack _ _ => exact ⟨t.before, t.distinct⟩
  | pass _ later | take _ _ later =>
      exact ⟨fun w hw => Nat.lt_of_lt_of_le (t.before w hw) later, t.distinct⟩
  | @join w _ _ _ fresh =>
      refine ⟨?_, List.nodup_cons.2 ⟨?_, t.distinct⟩⟩
      · rintro v (_ | ⟨_, hv⟩)
        · exact Nat.lt_succ_of_le (Nat.le_of_eq fresh)
        · exact Nat.lt_succ_of_lt (t.before v hv)
      · intro hmem
        obtain ⟨v, hv, heq⟩ := List.mem_map.1 hmem
        exact absurd (t.before v hv) (Nat.not_lt.2 (Nat.le_of_eq (fresh.symm.trans heq.symm)))
  | @resume i _ _ _ _ | @leave i _ _ _ => exact ⟨(t.eraseIdx i).1, (t.eraseIdx i).2⟩

theorem ticketed_after (config : GateConfig) (xs : List GateEvent) :
    ((opened config).after xs).Ticketed :=
  keeps_of_moves (fun _ _ _ h t => t.move h)
    ⟨fun _ hw => absurd hw List.not_mem_nil, List.nodup_nil⟩ xs

/-! ## What a gate keeps -/

/-- The most permits that a semaphore can have where a word has this many bits. -/
def maxPermits (bits : Nat) : Nat := (Nat.pow 2 bits - 1) >>> 3

/-- The ceiling of a capacity is within the limit of every semaphore. -/
theorem ceiling_le_maxPermits {bits : Nat} (h : 16 ≤ bits) :
    ClassLimit.capacityCeiling ≤ maxPermits bits := by
  have hp : Nat.pow 2 16 ≤ Nat.pow 2 bits := Nat.pow_le_pow_right (by decide) h
  rw [maxPermits, Nat.shiftRight_eq_div_pow, Nat.le_div_iff_mul_le (by decide)]
  have hceiling : ClassLimit.capacityCeiling * 2 ^ 3 + 1 ≤ Nat.pow 2 16 := by decide
  omega

/-- The waiting attempts of a class that were handed a slot and have not resumed. -/
def handedOf (q : Crowd) (c : ResourceClass) : List Waiting :=
  (q.waitingOf c).filter fun w => (q.gate.get c).isGranted w.ticket

/-- What the gate of a configuration keeps. -/
structure Conserves (config : GateConfig) (q : Crowd) : Prop where
  /-- No class has more free permits than a semaphore can have. -/
  within : ∀ c bits, 16 ≤ bits → (q.gate.get c).free ≤ maxPermits bits
  /-- Who passes a bounded class has a slot; the slots that are held, handed over or free are as many
  as the capacity, with its ceiling, says. -/
  slots : ∀ c, 0 < (config.get c).capacity → (∀ p ∈ q.permitsOf c, p.gated = true) ∧
    ∃ free, q.gate.available? c = some free ∧
      (q.permitsOf c).length + (q.handedOf c).length + free = min (config.get c).capacity 1024
  /-- There are never more holders than slots. -/
  holders : ∀ c, 0 < (config.get c).capacity →
    (q.permitsOf c).length ≤ min (config.get c).capacity 1024
  /-- When no permit is left, and no slot is on its way to an attempt, all slots are back, and nobody
  waits. -/
  back : ∀ c, 0 < (config.get c).capacity → q.permitsOf c = [] → q.handedOf c = [] →
    q.gate.available? c = some (min (config.get c).capacity 1024) ∧ q.waitingOf c = []
  /-- Everybody gets through a class of no capacity at once, without a slot. -/
  unbounded : ∀ c, (config.get c).capacity = 0 →
    q.gate.available? c = none ∧ (∀ p ∈ q.permitsOf c, p.gated = false) ∧ q.waitingOf c = [] ∧
      q.gate.passAtOnce? c = some (⟨c, false⟩, q.gate) ∧
      ∀ timeout ticket now, q.gate.enter c timeout ticket now = (.inl ⟨c, false⟩, q.gate)
  /-- What is about one class leaves the slots, the holders and the attempts of others alone. -/
  apart : ∀ x d, q.classOf x ≠ some d → (q.step x).gate.get d = q.gate.get d ∧
    (q.step x).permitsOf d = q.permitsOf d ∧ (q.step x).waitingOf d = q.waitingOf d

section Conservation

variable {config : GateConfig}

/-- The slots that were granted are those on their way to an attempt. -/
theorem Balanced.length_handedOf (b : q.Balanced config) (t : q.Ticketed) :
    (q.handedOf c).length = (q.gate.get c).granted.length := by
  rw [handedOf, ← List.countP_eq_length_filter]
  exact (b c).handed (t.distinct.sublist (List.filter_sublist.map _))

/-- The slots of a class, counted where they are. -/
theorem Balanced.slots (b : q.Balanced config) (t : q.Ticketed)
    (hc : 0 < (config.get c).capacity) : (∀ p ∈ q.permitsOf c, p.gated = true) ∧
      q.gate.available? c = some (q.gate.get c).free ∧
      (q.permitsOf c).length + (q.handedOf c).length + (q.gate.get c).free =
        min (config.get c).capacity 1024 := by
  have hl : (config.get c).normalized.isUnbounded = false := by
    rw [ClassLimit.isUnbounded_normalized]
    exact beq_eq_false_iff_ne.2 (Nat.ne_of_gt hc)
  have hgated : ∀ p ∈ q.permitsOf c, p.gated = true := by
    intro p hp
    rw [(b c).gated p hp, hl]
    rfl
  refine ⟨hgated, ?_, ?_⟩
  · rw [Gate.available?, Slots.available?, (b c).sameLimit, hl]
    exact if_neg Bool.false_ne_true
  · rw [b.length_handedOf t, ← List.countP_eq_length.2 hgated]
    exact (b c).total

/-- Where a slot is free and none is on its way, nobody waits. -/
theorem Balanced.waitingOf_eq_nil (b : q.Balanced config) (t : q.Ticketed)
    (hfree : 0 < (q.gate.get c).free) (hhanded : q.handedOf c = []) : q.waitingOf c = [] := by
  have hgranted : (q.gate.get c).granted = [] := by
    refine List.eq_nil_of_length_eq_zero ?_
    rw [← b.length_handedOf t, hhanded, List.length_nil]
  have htickets := (b c).tickets
  rw [(b c).prompt hfree, hgranted] at htickets
  exact List.map_eq_nil_iff.1 htickets.symm.eq_nil

/-- An unbounded class holds nobody up. -/
theorem Balanced.passAtOnce? (b : q.Balanced config) (hc : (config.get c).capacity = 0) :
    q.gate.passAtOnce? c = some (⟨c, false⟩, q.gate) := by
  have hl : (q.gate.limit c).isUnbounded = true := by
    show (q.gate.get c).limit.isUnbounded = true
    rw [(b c).sameLimit, ClassLimit.isUnbounded_normalized]
    exact beq_iff_eq.2 hc
  exact if_pos hl

/-- A gate conserves its slots, whatever happens at it. -/
theorem slots_conserved (config : GateConfig) (xs : List GateEvent) :
    ((opened config).after xs).Conserves config := by
  have b := balanced_after config xs
  have t := ticketed_after config xs
  generalize (opened config).after xs = q at b t
  constructor
  case within =>
    intro c bits hbits
    have htotal := (b c).total
    have hcap : (config.get c).normalized.capacity ≤ ClassLimit.capacityCeiling :=
      Nat.min_le_right _ _
    have hmax := ceiling_le_maxPermits hbits
    omega
  case slots =>
    intro c hc
    obtain ⟨hgated, hfree, htotal⟩ := b.slots t hc
    exact ⟨hgated, _, hfree, htotal⟩
  case holders =>
    intro c hc
    obtain ⟨_, _, htotal⟩ := b.slots t hc
    omega
  case back =>
    intro c hc hheld hhanded
    obtain ⟨_, hfree, htotal⟩ := b.slots t hc
    rw [hheld, hhanded, List.length_nil, List.length_nil, Nat.zero_add] at htotal
    refine ⟨hfree.trans (congrArg some htotal), b.waitingOf_eq_nil t ?_ hhanded⟩
    rw [htotal]
    exact Nat.lt_min.2 ⟨hc, by decide⟩
  case unbounded =>
    intro c hc
    have hl : (config.get c).normalized.isUnbounded = true := by
      rw [ClassLimit.isUnbounded_normalized]
      exact beq_iff_eq.2 hc
    have hpass := b.passAtOnce? hc
    refine ⟨?_, ?_, (b c).unbounded hl, hpass, ?_⟩
    · rw [Gate.available?, Slots.available?, (b c).sameLimit, if_pos hl]
    · intro p hp
      rw [(b c).gated p hp, hl]
      rfl
    · intro timeout ticket now
      rw [Gate.enter, hpass]
  case apart => exact fun x d h => step_apart h

end Conservation

end Crowd

end Backlog
