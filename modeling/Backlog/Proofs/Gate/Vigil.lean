import Backlog.Proofs.Distinct
import Backlog.Proofs.Gate.Conservation
import Backlog.Simulation.World
/-!
# Waiting at the gate

A vigil is a crowd at a gate under one clock, with a diary of what everybody was told.  The clock
counts whole milliseconds, and all that happens at one reading happens at one moment, in some order.
Attempts go by their tickets: an attempt that waits is resumed, or abandoned, under the ticket it
got when it began.

Time is virtual.  It passes only while everybody sleeps: no attempt has a slot that it has not
taken, and none has come to its deadline without having been resumed (`Vigil.Allows`).  At one
reading of the clock an attempt may be resumed any number of times, before or after anything else.

What a class sees of a vigil is its desk: its slots, its attempts that wait, the clock, the next
ticket, and its own notes.  Whatever is done turns a desk in one of ten ways (`Desk.Turn`), and says
in the same breath what is noted, so that all that holds of a class follows from the ways of a desk
alone.

## Main results

* `Vigil.turn_of_doing` — what is done, as seen from the desk of a bounded class.
* `Vigil.sound_after` — a crowd is in balance, and its tickets are apart, at every moment.
-/

namespace Backlog

/-- What is noted at a gate. -/
inductive GateFact where
  /-- An attempt found no slot and waits, no longer than so. -/
  | waits (timeout : Duration)
  /-- A slot was handed to an attempt that waits. -/
  | handed
  /-- An attempt has its answer. -/
  | answered (answer : Except TaskError Permit)
  /-- An attempt that waits was abandoned. -/
  | abandoned

/-- A note of the diary. -/
structure GateNote where
  resource : ResourceClass
  /-- The ticket of the attempt; one that does not wait has none. -/
  ticket : Option Nat
  /-- The clock, in milliseconds. -/
  moment : Nat
  fact : GateFact

namespace GateFact

/-- An attempt begins to wait. -/
def isWait : GateFact → Bool
  | .waits _ => true
  | _ => false

/-- A slot is handed over. -/
def isHanding : GateFact → Bool
  | .handed => true
  | _ => false

/-- An attempt ends. -/
def isEnd : GateFact → Bool
  | .answered _ | .abandoned => true
  | _ => false

end GateFact

/-- The tickets that were granted a slot in between. -/
def Slots.newlyGranted (s s' : Slots) : List Nat := s'.granted.filter fun t => !s.isGranted t

/-- The attempt that begins at a reading of the clock and waits. -/
def Waiting.begun (c : ResourceClass) (ticket now : Nat) (timeout : Duration) : Waiting where
  resource := c
  ticket := ticket
  deadline := if timeout.isZero then none else some (now * 1000000 + timeout.nanos)
  timeout := timeout

@[simp] theorem Waiting.resource_begun (c : ResourceClass) (ticket now : Nat) (timeout : Duration) :
    (Waiting.begun c ticket now timeout).resource = c := rfl

@[simp] theorem Waiting.ticket_begun (c : ResourceClass) (ticket now : Nat) (timeout : Duration) :
    (Waiting.begun c ticket now timeout).ticket = ticket := rfl

/-- An attempt has come to its deadline. -/
theorem Waiting.due_iff (w : Waiting) (now : Nat) :
    (w.deadline.any fun d => d ≤ now) = true ↔ ∃ d ∈ w.deadline, d ≤ now := by
  cases w.deadline <;> simp

/-- What a waiting attempt is answered, if it is. -/
def Waiting.answer? (w : Waiting) : WaitResult → Option (Except TaskError Permit)
  | .passed p => some (.ok p)
  | .busy => some (.error w.resource.busy)
  | .pending => none

/-- A crowd under a clock, with the diary of what was told, the first note in front. -/
structure Vigil where
  crowd : Crowd
  /-- Milliseconds since the gate was opened. -/
  now : Nat
  diary : List GateNote

namespace Vigil

/-- Something that is done at a gate. -/
inductive Doing where
  /-- An attempt begins that may wait, with a time limit of its own or that of its class. -/
  | enter (c : ResourceClass) (timeout : Option Duration)
  /-- An attempt that does not wait. -/
  | tryEnter (c : ResourceClass)
  /-- The waiting attempt with a ticket looks what became of it. -/
  | resume (ticket : Nat)
  /-- The waiting attempt with a ticket is abandoned. -/
  | abandon (ticket : Nat)
  /-- The permit at a place is given back. -/
  | release (place : Nat)
  /-- Milliseconds pass. -/
  | elapse (ms : Nat)

/-- A gate that has just been opened. -/
def opened (config : GateConfig) : Vigil := ⟨.opened config, 0, []⟩

/-- The clock in nanoseconds. -/
def nanos (v : Vigil) : Nat := v.now * 1000000

/-- The waiting attempt with a ticket. -/
def waiter? (v : Vigil) (t : Nat) : Option Waiting := v.crowd.waiting.find? fun w => w.ticket == t

/-- The place of the waiting attempt with a ticket. -/
def place? (v : Vigil) (t : Nat) : Option Nat :=
  v.crowd.waiting.findIdx? fun w => w.ticket == t

/-- What is done, as something that happens to the crowd. -/
def event? (v : Vigil) : Doing → Option GateEvent
  | .enter c timeout => some (.enter c timeout v.nanos)
  | .tryEnter c => some (.tryEnter c)
  | .resume t => (v.place? t).map fun i => .check i v.nanos
  | .abandon t => (v.place? t).map .abandon
  | .release i => some (.release i)
  | .elapse _ => none

/-- What who does something is told, if anything. -/
def told (v : Vigil) : Doing → Option GateNote
  | .enter c timeout =>
    let limit := timeout.getD (v.crowd.gate.limit c).acquireTimeout
    match (v.crowd.gate.enter c limit v.crowd.nextTicket v.nanos).1 with
    | .inl p => some ⟨c, some v.crowd.nextTicket, v.now, .answered (.ok p)⟩
    | .inr w => some ⟨c, some w.ticket, v.now, .waits w.timeout⟩
  | .tryEnter c =>
    match v.crowd.gate.passAtOnce? c with
    | some (p, _) => some ⟨c, none, v.now, .answered (.ok p)⟩
    | none => some ⟨c, none, v.now, .answered (.error c.busy)⟩
  | .resume t =>
    (v.waiter? t).bind fun w =>
      (w.answer? (v.crowd.gate.check w v.nanos).1).map fun r =>
        ⟨w.resource, some t, v.now, .answered r⟩
  | .abandon t => (v.waiter? t).map fun w => ⟨w.resource, some t, v.now, .abandoned⟩
  | .release _ | .elapse _ => none

/-- The notes on slots that are handed over until the gate is this one. -/
def handings (v : Vigil) (g : Gate) : List GateNote :=
  ResourceClass.all.flatMap fun c =>
    ((v.crowd.gate.get c).newlyGranted (g.get c)).map fun t => ⟨c, some t, v.now, .handed⟩

/-- The crowd after something was done. -/
def crowdAfter (v : Vigil) (x : Doing) : Crowd :=
  match v.event? x with
  | none => v.crowd
  | some e => v.crowd.step e

/-- The clock after something was done. -/
def nowAfter (v : Vigil) : Doing → Nat
  | .elapse ms => v.now + ms
  | _ => v.now

/-- A vigil after something was done. -/
def step (v : Vigil) (x : Doing) : Vigil where
  crowd := v.crowdAfter x
  now := v.nowAfter x
  diary := v.diary ++ (v.told x).toList ++ v.handings (v.crowdAfter x).gate

/-- A vigil after a run. -/
def after (v : Vigil) (xs : List Doing) : Vigil := xs.foldl step v

/-- Time passes while everybody sleeps, and no further than to the next deadline. -/
def Allows (v : Vigil) : Doing → Prop
  | .elapse ms => ∀ w ∈ v.crowd.waiting,
      (v.crowd.gate.get w.resource).isGranted w.ticket = false ∧
        ∀ d ∈ w.deadline, v.now + ms ≤ Simulation.World.tick d
  | _ => True

/-- A run in virtual time. -/
def Runs (v : Vigil) : List Doing → Prop
  | [] => True
  | x :: xs => v.Allows x ∧ (v.step x).Runs xs

instance (v : Vigil) : (x : Doing) → Decidable (v.Allows x)
  | .elapse ms => inferInstanceAs (Decidable (∀ w ∈ v.crowd.waiting,
      (v.crowd.gate.get w.resource).isGranted w.ticket = false ∧
        ∀ d ∈ w.deadline, v.now + ms ≤ Simulation.World.tick d))
  | .enter _ _ | .tryEnter _ | .resume _ | .abandon _ | .release _ => .isTrue trivial

instance decidableRuns : (v : Vigil) → (xs : List Doing) → Decidable (v.Runs xs)
  | _, [] => .isTrue trivial
  | v, x :: xs =>
    have := decidableRuns (v.step x) xs
    inferInstanceAs (Decidable (v.Allows x ∧ (v.step x).Runs xs))

end Vigil

/-! ## The desk of a class -/

/-- What a class sees of a vigil. -/
structure Desk where
  slots : Slots
  /-- The attempts of the class that wait. -/
  waiting : List Waiting
  /-- The ticket of the next attempt, whatever its class. -/
  nextTicket : Nat
  now : Nat
  /-- The notes on the class, the first one in front. -/
  notes : List GateNote

/-- The desk of a class. -/
def Vigil.desk (v : Vigil) (c : ResourceClass) : Desk where
  slots := v.crowd.gate.get c
  waiting := v.crowd.waitingOf c
  nextTicket := v.crowd.nextTicket
  now := v.now
  notes := v.diary.filter fun n => n.resource == c

namespace Desk

/-- The tickets on certain notes, in the order of the notes. -/
def ticketsOn (k : Desk) (f : GateFact → Bool) : List Nat :=
  k.notes.filterMap fun n => if f n.fact then n.ticket else none

/-- The tickets of the attempts that had to wait, in the order in which they began. -/
def begun (k : Desk) : List Nat := k.ticketsOn GateFact.isWait

/-- The tickets that were handed a slot, in the order in which they were. -/
def handed (k : Desk) : List Nat := k.ticketsOn GateFact.isHanding

/-- The tickets of the attempts that have ended. -/
def ended (k : Desk) : List Nat := k.ticketsOn GateFact.isEnd

/-- The notes on slots that are handed over until the slots are these. -/
def handings (k : Desk) (c : ResourceClass) (s : Slots) : List GateNote :=
  (k.slots.newlyGranted s).map fun t => ⟨c, some t, k.now, .handed⟩

/-- A desk with other slots, after notes on what was told and on the slots handed over. -/
def write (k : Desk) (c : ResourceClass) (s : Slots) (told : List GateNote) : Desk :=
  { k with slots := s, notes := k.notes ++ told ++ k.handings c s }

/-- A desk that one attempt no longer waits at. -/
def dismiss (k : Desk) (t : Nat) : Desk :=
  { k with waiting := k.waiting.filter fun w => w.ticket != t }

/-- How a desk turns to what is done.  Tickets are drawn for all classes, so those of other classes
may pass by. -/
inductive Turn (c : ResourceClass) (k : Desk) : Desk → Prop where
  /-- It is no matter of the class, or nothing comes of it. -/
  | aside {next : Nat} (later : k.nextTicket ≤ next) :
      Turn c k { k with nextTicket := next }
  | elapse {ms : Nat} (asleep : ∀ w ∈ k.waiting, k.slots.isGranted w.ticket = false ∧
      ∀ d ∈ w.deadline, k.now + ms ≤ Simulation.World.tick d) :
      Turn c k { k with now := k.now + ms }
  /-- An attempt that does not wait takes a free slot. -/
  | take {s : Slots} (free : k.slots.take? = some s) :
      Turn c k (k.write c s [⟨c, none, k.now, .answered (.ok ⟨c, true⟩)⟩])
  /-- An attempt that does not wait is told that the class is busy. -/
  | refuse (full : k.slots.take? = none) :
      Turn c k (k.write c k.slots [⟨c, none, k.now, .answered (.error c.busy)⟩])
  /-- An attempt that may wait takes a free slot. -/
  | pass {s : Slots} (free : k.slots.take? = some s) :
      Turn c k
        { k.write c s [⟨c, some k.nextTicket, k.now, .answered (.ok ⟨c, true⟩)⟩] with
          nextTicket := k.nextTicket + 1 }
  /-- An attempt that may wait does. -/
  | join {timeout : Duration} (full : k.slots.take? = none) :
      Turn c k
        { k.write c (k.slots.enqueue k.nextTicket) [⟨c, some k.nextTicket, k.now, .waits timeout⟩]
          with
          waiting := .begun c k.nextTicket k.now timeout :: k.waiting
          nextTicket := k.nextTicket + 1 }
  /-- An attempt that was handed a slot is resumed. -/
  | resume {w : Waiting} (waits : w ∈ k.waiting) (granted : k.slots.isGranted w.ticket = true) :
      Turn c k
        ((k.write c (k.slots.redeem w.ticket)
          [⟨c, some w.ticket, k.now, .answered (.ok ⟨c, true⟩)⟩]).dismiss w.ticket)
  /-- An attempt that was not handed a slot is resumed at its deadline. -/
  | fail {w : Waiting} (waits : w ∈ k.waiting) (queued : k.slots.isGranted w.ticket = false)
      (due : ∃ d ∈ w.deadline, d ≤ k.now * 1000000) :
      Turn c k
        ((k.write c (k.slots.leave w.ticket)
          [⟨c, some w.ticket, k.now, .answered (.error c.busy)⟩]).dismiss w.ticket)
  | abandon {w : Waiting} (waits : w ∈ k.waiting) :
      Turn c k
        ((k.write c (k.slots.leave w.ticket)
          [⟨c, some w.ticket, k.now, .abandoned⟩]).dismiss w.ticket)
  | release : Turn c k (k.write c k.slots.release [])

end Desk

/-! ## What is done, as seen from a desk -/

/-- What happens moves the next ticket on, if at all. -/
theorem Crowd.nextTicket_le (q : Crowd) (e : GateEvent) : q.nextTicket ≤ (q.step e).nextTicket := by
  cases he : q.classOf e with
  | none => exact Nat.le_of_eq (congrArg Crowd.nextTicket (Crowd.step_of_classOf_none he)).symm
  | some c =>
      have hmoves := Crowd.moves_of_event he
      generalize q.step e = q' at hmoves
      cases hmoves with
      | pass _ later | take _ _ later => exact later
      | join => exact Nat.le_succ _
      | idle | resume | leave | giveBack => exact Nat.le_refl _

@[simp] theorem Slots.newlyGranted_self (s : Slots) : s.newlyGranted s = [] := by
  simp [newlyGranted, isGranted]

@[simp] theorem Desk.handings_self (k : Desk) (c : ResourceClass) : k.handings c k.slots = [] := by
  simp [handings]

@[simp] theorem Desk.write_nil (k : Desk) (c : ResourceClass) : k.write c k.slots [] = k := by
  simp [write]

/-- A class of some capacity is bounded. -/
theorem Crowd.Balanced.bounded {config : GateConfig} {q : Crowd} {c : ResourceClass}
    (b : q.Balanced config) (hc : 0 < (config.get c).capacity) :
    (q.gate.limit c).isUnbounded = false := by
  show (q.gate.get c).limit.isUnbounded = false
  rw [(b c).sameLimit, ClassLimit.isUnbounded_normalized]
  exact beq_eq_false_iff_ne.2 (Nat.ne_of_gt hc)

namespace Vigil

variable {v : Vigil} {c d : ResourceClass} {x : Doing} {t : Nat} {w : Waiting}

theorem ticket_of_waiter (h : v.waiter? t = some w) : w.ticket = t := by
  simpa using List.find?_some h

theorem mem_of_waiter (h : v.waiter? t = some w) : w ∈ v.crowd.waiting :=
  List.mem_of_find?_eq_some h

/-- Who waits under a ticket has a place among those who wait. -/
theorem place_of_waiter (h : v.waiter? t = some w) :
    ∃ i, v.place? t = some i ∧ v.crowd.waiting[i]? = some w := by
  obtain ⟨hw, i, hi, rfl, hfirst⟩ := List.find?_eq_some_iff_getElem.1 h
  refine ⟨i, List.findIdx?_eq_some_iff_getElem.2 ⟨hi, hw, ?_⟩, List.getElem?_eq_getElem hi⟩
  intro j hj
  simpa using hfirst j hj

theorem place_of_nobody (h : v.waiter? t = none) : v.place? t = none := by
  simpa [waiter?, place?] using h

/-- An attempt that was handed a slot takes it when it is resumed. -/
theorem crowdAfter_resume_granted (T : v.crowd.Ticketed) (h : v.waiter? t = some w)
    (hg : (v.crowd.gate.get w.resource).isGranted t = true) : v.crowdAfter (.resume t) =
      { v.crowd with
        gate := v.crowd.gate.set w.resource ((v.crowd.gate.get w.resource).redeem t)
        held := ⟨w.resource, true⟩ :: v.crowd.held
        waiting := v.crowd.waiting.filter fun u => u.ticket != t } := by
  obtain ⟨i, hp, hi⟩ := place_of_waiter h
  obtain rfl := ticket_of_waiter h
  simp [crowdAfter, event?, hp, Crowd.step, hi, Gate.check, hg,
    eraseIdx_eq_filter_key T.distinct hi]

/-- An attempt that was not handed a slot leaves when it is resumed at its deadline. -/
theorem crowdAfter_resume_due (T : v.crowd.Ticketed) (h : v.waiter? t = some w)
    (hg : (v.crowd.gate.get w.resource).isGranted t = false)
    (hd : (w.deadline.any fun d => d ≤ v.nanos) = true) : v.crowdAfter (.resume t) =
      { v.crowd with
        gate := v.crowd.gate.set w.resource ((v.crowd.gate.get w.resource).leave t)
        waiting := v.crowd.waiting.filter fun u => u.ticket != t } := by
  obtain ⟨i, hp, hi⟩ := place_of_waiter h
  obtain rfl := ticket_of_waiter h
  simp [crowdAfter, event?, hp, Crowd.step, hi, Gate.check, hg, hd,
    eraseIdx_eq_filter_key T.distinct hi]

/-- An attempt that is resumed before its deadline waits on. -/
theorem crowdAfter_resume_pending (h : v.waiter? t = some w)
    (hg : (v.crowd.gate.get w.resource).isGranted t = false)
    (hd : (w.deadline.any fun d => d ≤ v.nanos) = false) : v.crowdAfter (.resume t) = v.crowd := by
  obtain ⟨i, hp, hi⟩ := place_of_waiter h
  obtain rfl := ticket_of_waiter h
  simp [crowdAfter, event?, hp, Crowd.step, hi, Gate.check, hg, hd]

/-- An attempt that is abandoned leaves. -/
theorem crowdAfter_abandon (T : v.crowd.Ticketed) (h : v.waiter? t = some w) :
    v.crowdAfter (.abandon t) =
      { v.crowd with
        gate := v.crowd.gate.set w.resource ((v.crowd.gate.get w.resource).leave t)
        waiting := v.crowd.waiting.filter fun u => u.ticket != t } := by
  obtain ⟨i, hp, hi⟩ := place_of_waiter h
  obtain rfl := ticket_of_waiter h
  simp [crowdAfter, event?, hp, Crowd.step, hi, Gate.abandon,
    eraseIdx_eq_filter_key T.distinct hi]

/-- The notes of a class on the slots of one are its own, and of no other. -/
theorem filter_handed (now : Nat) (ts : List Nat) :
    (ts.map fun t => (⟨d, some t, now, .handed⟩ : GateNote)).filter (fun n => n.resource == c) =
      if d = c then ts.map fun t => ⟨c, some t, now, .handed⟩ else [] := by
  by_cases h : d = c
  · subst h
    simp [List.filter_map, Function.comp_def]
  · simp [h, List.filter_map, Function.comp_def, beq_eq_false_iff_ne.2 h]

/-- The notes of a class on slots handed over. -/
theorem filter_handings (v : Vigil) (g : Gate) (c : ResourceClass) :
    (v.handings g).filter (fun n => n.resource == c) = (v.desk c).handings c (g.get c) := by
  cases c <;> simp [handings, ResourceClass.all, filter_handed, Desk.handings, desk]

/-- The class that something done is about. -/
def classOf (v : Vigil) (x : Doing) : Option ResourceClass := (v.event? x).bind v.crowd.classOf

/-- Nobody is told about another class. -/
theorem resource_of_told {n : GateNote} (h : v.told x = some n) :
    v.classOf x = some n.resource := by
  cases x with
  | enter c timeout =>
      simp only [told] at h
      split at h <;> cases h <;> rfl
  | tryEnter c =>
      simp only [told] at h
      split at h <;> cases h <;> rfl
  | resume t =>
      obtain ⟨w, hw, hn⟩ := Option.bind_eq_some_iff.1 h
      obtain ⟨i, hp, hi⟩ := place_of_waiter hw
      obtain ⟨r, _, rfl⟩ := Option.map_eq_some_iff.1 hn
      simp [classOf, event?, hp, Crowd.classOf, hi]
  | abandon t =>
      obtain ⟨w, hw, rfl⟩ := Option.map_eq_some_iff.1 h
      obtain ⟨i, hp, hi⟩ := place_of_waiter hw
      simp [classOf, event?, hp, Crowd.classOf, hi]
  | release i | elapse ms => cases h

/-- The desk of a class once something was done. -/
theorem desk_step (v : Vigil) (x : Doing) (c : ResourceClass) : (v.step x).desk c =
    { (v.desk c).write c ((v.crowdAfter x).gate.get c)
        ((v.told x).toList.filter fun n => n.resource == c) with
      waiting := (v.crowdAfter x).waitingOf c
      nextTicket := (v.crowdAfter x).nextTicket
      now := v.nowAfter x } := by
  simp only [desk, step, List.filter_append]
  rw [filter_handings]
  rfl

/-- A desk at which somebody was told something. -/
theorem desk_of_told {n : GateNote} (h : v.told x = some n) (hn : n.resource = c) :
    (v.step x).desk c = { (v.desk c).write c ((v.crowdAfter x).gate.get c) [n] with
      waiting := (v.crowdAfter x).waitingOf c
      nextTicket := (v.crowdAfter x).nextTicket
      now := v.nowAfter x } := by
  rw [desk_step, h]
  simp [hn]

/-- A desk at which nobody was told anything. -/
theorem desk_of_silence (h : ∀ n, v.told x = some n → n.resource ≠ c) :
    (v.step x).desk c = { (v.desk c).write c ((v.crowdAfter x).gate.get c) [] with
      waiting := (v.crowdAfter x).waitingOf c
      nextTicket := (v.crowdAfter x).nextTicket
      now := v.nowAfter x } := by
  have hnone : (v.told x).toList.filter (fun n => n.resource == c) = [] := by
    refine List.filter_eq_nil_iff.2 fun n hn hc => h n (Option.mem_toList.1 hn) (beq_iff_eq.1 hc)
  rw [desk_step, hnone]

/-- Tickets are drawn one after the other. -/
theorem nextTicket_le_step (v : Vigil) (x : Doing) :
    v.crowd.nextTicket ≤ (v.step x).crowd.nextTicket := by
  show _ ≤ (v.crowdAfter x).nextTicket
  unfold crowdAfter
  split
  · exact Nat.le_refl _
  · exact Crowd.nextTicket_le _ _

/-- What is no matter of a class passes its desk by. -/
theorem turn_of_apart (h : v.classOf x ≠ some c) (hnow : v.nowAfter x = v.now) :
    (v.desk c).Turn c ((v.step x).desk c) := by
  have hsame : (v.crowdAfter x).gate.get c = v.crowd.gate.get c ∧
      (v.crowdAfter x).waitingOf c = v.crowd.waitingOf c := by
    unfold crowdAfter
    split
    · exact ⟨rfl, rfl⟩
    · next e he =>
        have he : v.crowd.classOf e ≠ some c := by simpa [classOf, he] using h
        obtain ⟨hs, _, hw⟩ := Crowd.step_apart he
        exact ⟨hs, hw⟩
  have hsilence : ∀ n, v.told x = some n → n.resource ≠ c := by
    rintro n hn rfl
    exact h (resource_of_told hn)
  have hwrite : (v.desk c).write c (v.crowd.gate.get c) [] = v.desk c := (v.desk c).write_nil c
  rw [desk_of_silence hsilence, hsame.1, hsame.2, hnow, hwrite]
  exact .aside (v.nextTicket_le_step x)

section Bounded

variable (hbounded : (v.crowd.gate.limit c).isUnbounded = false)

include hbounded

/-- An attempt that may wait passes, or does wait. -/
theorem turn_enter (timeout : Option Duration) :
    (v.desk c).Turn c ((v.step (.enter c timeout)).desk c) := by
  rcases Crowd.passAtOnce?_cases v.crowd.gate c with ⟨hl, _⟩ | ⟨_, ⟨s, hs, hp⟩ | ⟨hs, hp⟩⟩
  · rw [hbounded] at hl
    cases hl
  · have htold : v.told (.enter c timeout) =
        some ⟨c, some v.crowd.nextTicket, v.now, .answered (.ok ⟨c, true⟩)⟩ := by
      simp [told, Gate.enter, hp]
    rw [desk_of_told htold rfl]
    simp only [crowdAfter, event?, Crowd.step, Gate.enter, hp, PerClass.get_set_self]
    exact Desk.Turn.pass (k := v.desk c) hs
  · have htold : v.told (.enter c timeout) = some ⟨c, some v.crowd.nextTicket, v.now,
        .waits (timeout.getD (v.crowd.gate.limit c).acquireTimeout)⟩ := by
      simp [told, Gate.enter, hp]
    rw [desk_of_told htold rfl]
    simp only [crowdAfter, event?, Crowd.step, Gate.enter, hp, PerClass.get_set_self,
      Crowd.waitingOf, List.filter_cons, beq_self_eq_true, if_true]
    exact Desk.Turn.join (k := v.desk c) hs

/-- An attempt that does not wait takes a slot, or is told that the class is busy. -/
theorem turn_tryEnter : (v.desk c).Turn c ((v.step (.tryEnter c)).desk c) := by
  rcases Crowd.passAtOnce?_cases v.crowd.gate c with ⟨hl, _⟩ | ⟨_, ⟨s, hs, hp⟩ | ⟨hs, hp⟩⟩
  · rw [hbounded] at hl
    cases hl
  · have htold : v.told (.tryEnter c) = some ⟨c, none, v.now, .answered (.ok ⟨c, true⟩)⟩ := by
      simp [told, hp]
    rw [desk_of_told htold rfl]
    simp only [crowdAfter, event?, Crowd.step, hp, PerClass.get_set_self]
    exact Desk.Turn.take (k := v.desk c) hs
  · have htold : v.told (.tryEnter c) = some ⟨c, none, v.now, .answered (.error c.busy)⟩ := by
      simp [told, hp]
    rw [desk_of_told htold rfl]
    simp only [crowdAfter, event?, Crowd.step, hp]
    exact Desk.Turn.refuse (k := v.desk c) hs

end Bounded

/-- Who waits for a class is at its desk. -/
theorem mem_desk (h : v.waiter? t = some w) (hc : w.resource = c) : w ∈ (v.desk c).waiting :=
  List.mem_filter.2 ⟨mem_of_waiter h, beq_iff_eq.2 hc⟩

theorem mem_desk_iff : w ∈ (v.desk c).waiting ↔ w ∈ v.crowd.waiting ∧ w.resource = c := by
  simp [desk, Crowd.waitingOf]

/-- The attempts of a class that wait, without one of them. -/
theorem waitingOf_filter (ws : List Waiting) (t : Nat) :
    ((ws.filter fun u => u.ticket != t).filter fun u => u.resource == c) =
      (ws.filter fun u => u.resource == c).filter fun u => u.ticket != t :=
  List.filter_comm ..

theorem turn_resume (T : v.crowd.Ticketed) (h : v.waiter? t = some w) :
    (v.desk w.resource).Turn w.resource ((v.step (.resume t)).desk w.resource) := by
  have hmem := mem_desk h rfl
  obtain rfl := ticket_of_waiter h
  cases hg : (v.crowd.gate.get w.resource).isGranted w.ticket with
  | true =>
      have htold : v.told (.resume w.ticket) =
          some ⟨w.resource, some w.ticket, v.now, .answered (.ok ⟨w.resource, true⟩)⟩ := by
        simp [told, h, Gate.check, hg, Waiting.answer?]
      rw [desk_of_told htold rfl, crowdAfter_resume_granted T h hg]
      simp only [Crowd.waitingOf, PerClass.get_set_self, waitingOf_filter]
      exact Desk.Turn.resume (k := v.desk w.resource) hmem hg
  | false =>
      cases hd : w.deadline.any fun d => d ≤ v.nanos with
      | true =>
          have htold : v.told (.resume w.ticket) =
              some ⟨w.resource, some w.ticket, v.now, .answered (.error w.resource.busy)⟩ := by
            simp [told, h, Gate.check, hg, hd, Waiting.answer?]
          rw [desk_of_told htold rfl, crowdAfter_resume_due T h hg hd]
          simp only [Crowd.waitingOf, PerClass.get_set_self, waitingOf_filter]
          exact Desk.Turn.fail (k := v.desk w.resource) hmem hg ((w.due_iff _).1 hd)
      | false =>
          have htold : v.told (.resume w.ticket) = none := by
            simp [told, h, Gate.check, hg, hd, Waiting.answer?]
          rw [desk_of_silence (by simp [htold]), crowdAfter_resume_pending h hg hd]
          have hsame : (v.desk w.resource).write w.resource (v.crowd.gate.get w.resource) [] =
              v.desk w.resource := Desk.write_nil ..
          rw [hsame]
          exact Desk.Turn.aside (k := v.desk w.resource) (Nat.le_refl _)

theorem turn_abandon (T : v.crowd.Ticketed) (h : v.waiter? t = some w) :
    (v.desk w.resource).Turn w.resource ((v.step (.abandon t)).desk w.resource) := by
  have hmem := mem_desk h rfl
  obtain rfl := ticket_of_waiter h
  have htold : v.told (.abandon w.ticket) =
      some ⟨w.resource, some w.ticket, v.now, .abandoned⟩ := by
    simp [told, h]
  rw [desk_of_told htold rfl, crowdAfter_abandon T h]
  simp only [Crowd.waitingOf, PerClass.get_set_self, waitingOf_filter]
  exact Desk.Turn.abandon (k := v.desk w.resource) hmem

/-- A permit of a bounded class has a slot, which is given back. -/
theorem turn_release {i : Nat} {p : Permit} (h : v.crowd.held[i]? = some p) (hp : p.gated = true) :
    (v.desk p.resource).Turn p.resource ((v.step (.release i)).desk p.resource) := by
  rw [desk_of_silence (by simp [told])]
  simp only [crowdAfter, event?, Crowd.step, h, Gate.release, hp, if_true, PerClass.get_set_self]
  exact Desk.Turn.release (k := v.desk p.resource)

/-- What is done turns the desk of a bounded class. -/
theorem turn_of_doing {config : GateConfig} (T : v.crowd.Ticketed) (b : v.crowd.Balanced config)
    (hc : 0 < (config.get c).capacity) (hx : v.Allows x) :
    (v.desk c).Turn c ((v.step x).desk c) := by
  have hbounded := b.bounded hc
  by_cases hmatter : v.classOf x = some c
  · cases x with
    | enter d timeout =>
        cases hmatter
        exact turn_enter hbounded timeout
    | tryEnter d =>
        cases hmatter
        exact turn_tryEnter hbounded
    | resume t =>
        cases hw : v.waiter? t with
        | none => simp [classOf, event?, place_of_nobody hw] at hmatter
        | some w =>
            obtain ⟨i, hp, hi⟩ := place_of_waiter hw
            obtain rfl : w.resource = c := by
              simpa [classOf, event?, hp, Crowd.classOf, hi] using hmatter
            exact turn_resume T hw
    | abandon t =>
        cases hw : v.waiter? t with
        | none => simp [classOf, event?, place_of_nobody hw] at hmatter
        | some w =>
            obtain ⟨i, hp, hi⟩ := place_of_waiter hw
            obtain rfl : w.resource = c := by
              simpa [classOf, event?, hp, Crowd.classOf, hi] using hmatter
            exact turn_abandon T hw
    | release i =>
        obtain ⟨p, hp, rfl⟩ := Option.map_eq_some_iff.1 hmatter
        have hheld : p ∈ v.crowd.permitsOf p.resource :=
          List.mem_filter.2 ⟨List.mem_of_getElem? hp, beq_self_eq_true _⟩
        exact turn_release hp ((b.slots T hc).1 p hheld)
    | elapse ms => cases hmatter
  · cases x with
    | elapse ms =>
        rw [desk_of_silence (by simp [told])]
        have hsame : (v.desk c).write c (v.crowd.gate.get c) [] = v.desk c := Desk.write_nil ..
        simp only [crowdAfter, event?, hsame]
        refine Desk.Turn.elapse (k := v.desk c) fun w hw => ?_
        obtain ⟨hwaits, rfl⟩ := mem_desk_iff.1 hw
        exact hx w hwaits
    | enter | tryEnter | resume | abandon | release => exact turn_of_apart hmatter rfl

/-! ## Runs -/

/-- A crowd is in balance, and its tickets are apart. -/
structure Sound (config : GateConfig) (v : Vigil) : Prop where
  balanced : v.crowd.Balanced config
  ticketed : v.crowd.Ticketed

theorem Sound.opened (config : GateConfig) : (opened config).Sound config :=
  ⟨Crowd.balanced_after config [], Crowd.ticketed_after config []⟩

theorem Sound.step {config : GateConfig} (h : v.Sound config) (x : Doing) :
    (v.step x).Sound config := by
  show Sound config ⟨v.crowdAfter x, _, _⟩
  unfold crowdAfter
  split
  · exact ⟨h.balanced, h.ticketed⟩
  · next e _ =>
    exact ⟨Crowd.keeps_of_moves (fun q c q' hm b => b.move hm) h.balanced [e],
      Crowd.keeps_of_moves (fun q c q' hm t => t.move hm) h.ticketed [e]⟩

end Vigil

end Backlog
