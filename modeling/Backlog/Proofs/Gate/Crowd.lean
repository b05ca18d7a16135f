import Backlog.Gate.Gate
/-!
# Everybody at the gate

A crowd is a gate with everybody who has to do with it: the permits that are held, and the attempts
that wait.  Anything can happen in any order.  Attempts come, with the time limit of their class or
one of their own, or without any wish to wait; waiting attempts look what became of them, at any
reading of the clock, or are abandoned; permits are given back, by their holders or because the
holder is gone.  What a holder gives back it no longer has, so nothing is given back twice.

Everything that happens is the matter of one class (`Crowd.classOf`), and it comes down to a move in
the slots of that class, in six cases (`moves_of_event`).  The other classes do not notice
(`step_apart`).

## Main results

* `moves_of_event` — what an event does, in six cases.
* `step_apart` — an event leaves the slots, the holders and the attempts of other classes alone.
-/

namespace Backlog

/-- A gate with everybody who has to do with it. -/
structure Crowd where
  gate : Gate
  /-- Permits that are held. -/
  held : List Permit
  /-- Attempts that wait. -/
  waiting : List Waiting
  /-- The ticket of the next attempt. -/
  nextTicket : Nat

/-- Something that happens at a gate. -/
inductive GateEvent where
  /-- An attempt begins that may wait, with a time limit of its own or that of its class. -/
  | enter (c : ResourceClass) (timeout : Option Duration) (now : Nat)
  /-- An attempt that does not wait. -/
  | tryEnter (c : ResourceClass)
  /-- The waiting attempt at a place looks what became of it. -/
  | check (place now : Nat)
  /-- The waiting attempt at a place is abandoned. -/
  | abandon (place : Nat)
  /-- The permit at a place is given back. -/
  | release (place : Nat)

namespace Crowd

/-- The gate of a configuration before anybody comes. -/
def opened (config : GateConfig) : Crowd := ⟨.ofConfig config, [], [], 0⟩

/-- A crowd after something happened; what nobody can do changes nothing. -/
def step (q : Crowd) : GateEvent → Crowd
  | .enter c timeout now =>
    let limit := timeout.getD (q.gate.limit c).acquireTimeout
    match q.gate.enter c limit q.nextTicket now with
    | (.inl p, g) => { q with gate := g, held := p :: q.held, nextTicket := q.nextTicket + 1 }
    | (.inr w, g) => { q with gate := g, waiting := w :: q.waiting, nextTicket := q.nextTicket + 1 }
  | .tryEnter c =>
    match q.gate.passAtOnce? c with
    | some (p, g) => { q with gate := g, held := p :: q.held }
    | none => q
  | .check i now =>
    match q.waiting[i]? with
    | none => q
    | some w =>
      match q.gate.check w now with
      | (.passed p, g) =>
        { q with gate := g, held := p :: q.held, waiting := q.waiting.eraseIdx i }
      | (.busy, g) => { q with gate := g, waiting := q.waiting.eraseIdx i }
      | (.pending, g) => { q with gate := g }
  | .abandon i =>
    match q.waiting[i]? with
    | none => q
    | some w => { q with gate := q.gate.abandon w, waiting := q.waiting.eraseIdx i }
  | .release i =>
    match q.held[i]? with
    | none => q
    | some p => { q with gate := q.gate.release p, held := q.held.eraseIdx i }

/-- A crowd after a run. -/
def after (q : Crowd) (xs : List GateEvent) : Crowd := xs.foldl step q

/-- The class that an event is about, unless it is about nobody. -/
def classOf (q : Crowd) : GateEvent → Option ResourceClass
  | .enter c _ _ | .tryEnter c => some c
  | .check i _ | .abandon i => q.waiting[i]?.map Waiting.resource
  | .release i => q.held[i]?.map Permit.resource

/-- The permits of a class that are held. -/
def permitsOf (q : Crowd) (c : ResourceClass) : List Permit := q.held.filter fun p => p.resource == c

/-- The attempts of a class that wait. -/
def waitingOf (q : Crowd) (c : ResourceClass) : List Waiting :=
  q.waiting.filter fun w => w.resource == c

variable {q q' : Crowd} {c d : ResourceClass}

/-- What an event about a class does. -/
inductive Moves (q : Crowd) (c : ResourceClass) : Crowd → Prop where
  | idle : Moves q c q
  /-- Everybody gets through an unbounded class. -/
  | pass {next : Nat} (unbounded : (q.gate.limit c).isUnbounded = true)
      (later : q.nextTicket ≤ next) :
      Moves q c { q with held := ⟨c, false⟩ :: q.held, nextTicket := next }
  /-- A free slot is taken. -/
  | take {s : Slots} {next : Nat} (bounded : (q.gate.limit c).isUnbounded = false)
      (free : (q.gate.get c).take? = some s) (later : q.nextTicket ≤ next) :
      Moves q c
        { q with gate := q.gate.set c s, held := ⟨c, true⟩ :: q.held, nextTicket := next }
  /-- An attempt joins the queue. -/
  | join {w : Waiting} (bounded : (q.gate.limit c).isUnbounded = false)
      (full : (q.gate.get c).take? = none) (here : w.resource = c)
      (fresh : w.ticket = q.nextTicket) :
      Moves q c
        { q with
          gate := q.gate.set c ((q.gate.get c).enqueue w.ticket)
          waiting := w :: q.waiting
          nextTicket := q.nextTicket + 1 }
  /-- An attempt that was handed a slot takes it. -/
  | resume {i : Nat} {w : Waiting} (waits : q.waiting[i]? = some w) (here : w.resource = c)
      (granted : (q.gate.get c).isGranted w.ticket = true) :
      Moves q c
        { q with
          gate := q.gate.set c ((q.gate.get c).redeem w.ticket)
          held := ⟨c, true⟩ :: q.held
          waiting := q.waiting.eraseIdx i }
  /-- An attempt ends in vain, at its time or before. -/
  | leave {i : Nat} {w : Waiting} (waits : q.waiting[i]? = some w) (here : w.resource = c) :
      Moves q c
        { q with
          gate := q.gate.set c ((q.gate.get c).leave w.ticket)
          waiting := q.waiting.eraseIdx i }
  /-- A permit is given back. -/
  | giveBack {i : Nat} {p : Permit} (holds : q.held[i]? = some p) (here : p.resource = c) :
      Moves q c { q with gate := q.gate.release p, held := q.held.eraseIdx i }

/-- An attempt that does not wait passes an unbounded class, or takes a free slot. -/
theorem passAtOnce?_cases (g : Gate) (c : ResourceClass) :
    ((g.limit c).isUnbounded = true ∧ g.passAtOnce? c = some (⟨c, false⟩, g)) ∨
    ((g.limit c).isUnbounded = false ∧
      ((∃ s, (g.get c).take? = some s ∧ g.passAtOnce? c = some (⟨c, true⟩, g.set c s)) ∨
        ((g.get c).take? = none ∧ g.passAtOnce? c = none))) := by
  unfold Gate.passAtOnce?
  cases hl : (g.limit c).isUnbounded with
  | true => exact Or.inl ⟨rfl, rfl⟩
  | false =>
      refine Or.inr ⟨rfl, ?_⟩
      cases ht : (g.get c).take? with
      | some s => exact Or.inl ⟨s, rfl, rfl⟩
      | none => exact Or.inr ⟨rfl, rfl⟩

/-- Whatever happens is one of the six cases, or nothing. -/
theorem moves_of_event {x : GateEvent} (h : q.classOf x = some c) : Moves q c (q.step x) := by
  cases x with
  | enter d timeout now =>
      cases h
      simp only [step, Gate.enter]
      rcases passAtOnce?_cases q.gate c with ⟨hl, hp⟩ | ⟨hl, ⟨s, hs, hp⟩ | ⟨hs, hp⟩⟩
      · rw [hp]
        exact .pass hl (Nat.le_succ _)
      · rw [hp]
        exact .take hl hs (Nat.le_succ _)
      · rw [hp]
        exact .join (w := ⟨c, q.nextTicket, _, _⟩) hl hs rfl rfl
  | tryEnter d =>
      cases h
      simp only [step]
      rcases passAtOnce?_cases q.gate c with ⟨hl, hp⟩ | ⟨hl, ⟨s, hs, hp⟩ | ⟨_, hp⟩⟩
      · rw [hp]
        exact .pass hl (Nat.le_refl _)
      · rw [hp]
        exact .take hl hs (Nat.le_refl _)
      · rw [hp]
        exact .idle
  | check i now =>
      obtain ⟨w, hw, rfl⟩ := Option.map_eq_some_iff.1 h
      simp only [step, hw, Gate.check]
      cases hg : (q.gate.get w.resource).isGranted w.ticket with
      | true =>
          simp only [if_true]
          exact .resume hw rfl hg
      | false =>
          simp only [Bool.false_eq_true, if_false]
          split
          · next heq =>
              split at heq <;> cases heq
          · next heq =>
              split at heq
              · cases heq
                exact .leave hw rfl
              · cases heq
          · next heq =>
              split at heq
              · cases heq
              · cases heq
                exact .idle
  | abandon i =>
      obtain ⟨w, hw, rfl⟩ := Option.map_eq_some_iff.1 h
      simp only [step, hw]
      exact .leave hw rfl
  | release i =>
      obtain ⟨p, hp, rfl⟩ := Option.map_eq_some_iff.1 h
      simp only [step, hp]
      exact .giveBack hp rfl

/-- What is about nobody changes nothing. -/
theorem step_of_classOf_none {x : GateEvent} (h : q.classOf x = none) : q.step x = q := by
  cases x with
  | enter _ _ _ | tryEnter _ => cases h
  | check i _ | abandon i | release i => simp only [step, Option.map_eq_none_iff.1 h]

/-- What every move keeps, every run keeps. -/
theorem keeps_of_moves {P : Crowd → Prop} (keep : ∀ q c q', Moves q c q' → P q → P q') (h : P q)
    (xs : List GateEvent) : P (q.after xs) := by
  induction xs generalizing q with
  | nil => exact h
  | cons x xs ih =>
      refine ih ?_
      cases hx : q.classOf x with
      | some c => exact keep q c _ (moves_of_event hx) h
      | none =>
          rw [step_of_classOf_none hx]
          exact h

/-! ## Other classes -/

/-- A member that does not meet a condition can be left out before the others are selected. -/
theorem filter_eraseIdx_of_neg {α : Type} {p : α → Bool} {l : List α} {i : Nat} {a : α}
    (hi : l[i]? = some a) (ha : p a = false) : (l.eraseIdx i).filter p = l.filter p := by
  induction l generalizing i with
  | nil => cases hi
  | cons b l ih =>
      cases i with
      | zero =>
          cases hi
          rw [List.eraseIdx_cons_zero, List.filter_cons, ha, if_neg Bool.false_ne_true]
      | succ i =>
          rw [List.eraseIdx_cons_succ, List.filter_cons, List.filter_cons, ih hi]

/-- What is of one class is not of another. -/
theorem beq_of_other (hd : d ≠ c) : (c == d) = false := beq_eq_false_iff_ne.2 (Ne.symm hd)

/-- A move in one class leaves the others alone. -/
theorem Moves.apart (h : Moves q c q') (hd : d ≠ c) :
    q'.gate.get d = q.gate.get d ∧ q'.permitsOf d = q.permitsOf d ∧
      q'.waitingOf d = q.waitingOf d := by
  have hgate : ∀ s, (q.gate.set c s).get d = q.gate.get d := fun s => q.gate.get_set_of_ne hd s
  have hcd := beq_of_other hd
  have hheld : ∀ g, (⟨c, g⟩ :: q.held : List Permit).filter (fun p => p.resource == d) =
      q.permitsOf d := by
    intro g
    rw [List.filter_cons, hcd, if_neg Bool.false_ne_true]
    rfl
  cases h with
  | idle => exact ⟨rfl, rfl, rfl⟩
  | pass _ _ => exact ⟨rfl, hheld false, rfl⟩
  | take _ _ _ => exact ⟨hgate _, hheld true, rfl⟩
  | @join w _ _ here _ =>
      refine ⟨hgate _, rfl, ?_⟩
      show (w :: q.waiting).filter _ = _
      rw [List.filter_cons, here, hcd, if_neg Bool.false_ne_true]
      rfl
  | resume waits here _ =>
      refine ⟨hgate _, hheld true, filter_eraseIdx_of_neg waits ?_⟩
      rw [here, hcd]
  | leave waits here =>
      refine ⟨hgate _, rfl, filter_eraseIdx_of_neg waits ?_⟩
      rw [here, hcd]
  | @giveBack i p holds here =>
      refine ⟨?_, filter_eraseIdx_of_neg holds ?_, rfl⟩
      · show (q.gate.release p).get d = _
        unfold Gate.release
        split
        · rw [here, hgate]
        · rfl
      · rw [here, hcd]

/-- An event leaves the slots, the holders and the attempts of other classes alone. -/
theorem step_apart {x : GateEvent} (h : q.classOf x ≠ some d) :
    (q.step x).gate.get d = q.gate.get d ∧ (q.step x).permitsOf d = q.permitsOf d ∧
      (q.step x).waitingOf d = q.waitingOf d := by
  cases hx : q.classOf x with
  | none =>
      rw [step_of_classOf_none hx]
      exact ⟨rfl, rfl, rfl⟩
  | some c =>
      have hd : d ≠ c := by
        rintro rfl
        exact h hx
      exact (moves_of_event hx).apart hd

end Crowd

end Backlog
