import Backlog.Proofs.Workshop.Change
/-!
# What becomes of one party

A step of a workshop is somebody's, so for any one party it is either the party's own step or
leaves it where it stands.  `Proceeds` says so once for every sort of party: a party stays, goes
where the reply to its call leads, gives its signal, or sees its handler end.  Whoever follows one
party through a run follows it by these four cases.

The requests to the service do not wait for anybody.  `Party.movesLeft` bounds the turns they can
still take, and a turn of their own lowers it, whatever the reply and whatever others do in
between.  So a request that is given enough turns has ended (`movesLeft_after`).

What a party has done can be read from the history as well.  A call that stands there was there
before a step, or the step is the turn that made it (`Step.called`).

## Main results

* `Step.proceeds`, `Step.proceeded` — what one step makes of one party.
* `Step.answered` — an answer is the end of a request.
* `movesLeft_after` — turns of a party bring it to its end.
* `Step.called` — the turn that made a call.
-/

namespace Backlog

variable {H : Type}

namespace Party

/-- How many turns a party can still take.  Attempts are not counted, since they wait for their
handlers. -/
def movesLeft : Party H → Nat
  | submit (.search _) => 4
  | submit (.insert _ _) => 3
  | submit (.searchAgain _) => 2
  | submit (.signal _) => 1
  | cancel (.write _ _) => 2
  | cancel (.reread _ _) => 1
  | sweep (.write _) => 1
  | lookup (.read _ _) => 1
  | listing (.read _ _ _) => 1
  | _ => 0

theorem movesLeft_le (p : Party H) : p.movesLeft ≤ 4 := by
  unfold movesLeft
  split <;> decide

/-- An answer with a task is at most the wake signal away. -/
theorem movesLeft_answerWith (t : Task) :
    (submit (Submit.answerWith t) : Party H).movesLeft ≤ 1 := by
  unfold Submit.answerWith
  split
  · exact Nat.le_refl 1
  · exact Nat.zero_le 1

/-- A call brings the party nearer to its end, whatever the reply. -/
theorem movesLeft_of_asks {now : Instant} {fresh : TaskId} {p : Party H} {c : StoreCall}
    {next : c.Reply → Party H} (asks : p.Asks now fresh c next) (reply : c.Reply) :
    (next reply).movesLeft ≤ p.movesLeft - 1 := by
  cases asks with
  | poll | claim | recheck | complete => exact Nat.zero_le _
  | search =>
      rcases reply with _ | _ | t
      · exact Nat.zero_le _
      · exact Nat.le_refl 3
      · exact Nat.le_trans (movesLeft_answerWith t) (Nat.le_add_left 1 2)
  | insert =>
      rcases reply with (_ | _ | _) | _
      · exact Nat.zero_le _
      · exact Nat.le_refl 2
      · exact Nat.zero_le _
      · exact Nat.le_succ 1
  | searchAgain =>
      rcases reply with _ | _ | t
      · exact Nat.zero_le _
      · exact Nat.zero_le _
      · exact movesLeft_answerWith t
  | cancelWrite =>
      rcases reply with _ | rows
      · exact Nat.zero_le _
      · simp only [Cancel.written]
        split
        · exact Nat.zero_le _
        · exact Nat.le_refl 1
  | cancelRead =>
      rcases reply with _ | _ | t
      · exact Nat.zero_le _
      · exact Nat.zero_le _
      · simp only [Cancel.read]
        split <;> exact Nat.zero_le _
  | sweep => cases reply <;> exact Nat.zero_le _
  | lookup => rcases reply with _ | _ | _ <;> exact Nat.zero_le _
  | listing => cases reply <;> exact Nat.zero_le _

/-- A party that has nothing to do has no turn left. -/
theorem movesLeft_of_rest {now : Instant} {fresh : TaskId} {p : Party H}
    (h : p.move now fresh = .rest) : p.movesLeft = 0 := by
  cases p with
  | attempt r a => rfl
  | submit s => cases s <;> first | rfl | cases h
  | cancel c => cases c <;> first | rfl | cases h
  | sweep s => cases s <;> first | rfl | cases h
  | lookup l => cases l <;> first | rfl | cases h
  | listing l => cases l <;> first | rfl | cases h

/-- Whether a request was answered. -/
def isAnswered : Party H → Bool
  | submit (.done _) | cancel (.done _) | lookup (.done _) | listing (.done _) => true
  | _ => false

end Party

/-- Whether a happening is a turn of a party. -/
def Happening.isTurnOf (i : Nat) : Happening H → Bool
  | turn j _ _ _ => j == i
  | _ => false

namespace Workshop

variable {w w' : Workshop H}

/-- What one step makes of a party. -/
inductive Proceeds (w w' : Workshop H) (i : Nat) (p : Party H) : Party H → Prop where
  | stay : Proceeds w w' i p p
  | ask {c : StoreCall} {next : c.Reply → Party H} {now : Instant} {fresh : TaskId}
      (fault : Option StoreError) (asks : p.Asks now fresh c next)
      (here : w' = w.ask i now fault c next) :
      Proceeds w w' i p (next (w.memory.answer now fault c).2)
  | signal {t : Task} (stood : p = .submit (.signal t)) :
      Proceeds w w' i p (.submit (.done (.ok t)))
  | handled {r : Registry H} {t : Task} {h : H} (outcome : HandlerOutcome)
      (stood : p = .attempt r (.handle t h)) :
      Proceeds w w' i p (.attempt r ((Attempt.handle t h).handled outcome))

/-- What one step makes of the party at a place. -/
theorem Step.proceeds (hs : w.Step w') {i : Nat} {p : Party H} (hi : w.parties[i]? = some p) :
    ∃ q, w'.parties[i]? = some q ∧ Proceeds w w' i p q := by
  have hlt : i < w.parties.length := (List.getElem?_eq_some_iff.1 hi).1
  cases hs with
  | idle => exact ⟨p, hi, .stay⟩
  | switch online => exact ⟨p, hi, .stay⟩
  | arrive a => exact ⟨p, (List.getElem?_append_left hlt).trans hi, .stay⟩
  | @signal j t stands =>
      by_cases hij : j = i
      · subst hij
        have hp : p = .submit (.signal t) := Option.some.inj (hi.symm.trans stands)
        exact ⟨_, List.getElem?_set_self hlt, .signal hp⟩
      · exact ⟨p, (List.getElem?_set_ne hij).trans hi, .stay⟩
  | @ask j q c next now fresh fault stands asks =>
      by_cases hij : j = i
      · subst hij
        have hp : q = p := Option.some.inj (stands.symm.trans hi)
        subst hp
        exact ⟨_, getElem?_ask stands now fault c next, .ask fault asks rfl⟩
      · exact ⟨p, (List.getElem?_set_ne hij).trans hi, .stay⟩
  | @handled j r t h outcome stands =>
      by_cases hij : j = i
      · subst hij
        have hp : p = .attempt r (.handle t h) := Option.some.inj (hi.symm.trans stands)
        exact ⟨_, List.getElem?_set_self hlt, .handled outcome hp⟩
      · exact ⟨p, (List.getElem?_set_ne hij).trans hi, .stay⟩

/-- A party after a step has just arrived, or has come from where it stood. -/
theorem Step.proceeded (hs : w.Step w') {i : Nat} {q : Party H} (hi : w'.parties[i]? = some q) :
    (∃ a : Arrival H, q = a.party) ∨ ∃ p, w.parties[i]? = some p ∧ Proceeds w w' i p q := by
  cases hp : w.parties[i]? with
  | some p =>
      obtain ⟨q', hq', hproceeds⟩ := hs.proceeds hp
      rw [hi] at hq'
      cases hq'
      exact Or.inr ⟨p, rfl, hproceeds⟩
  | none =>
      refine Or.inl ?_
      cases hs with
      | arrive a =>
          rcases getElem?_append_cases hi with ⟨_, hqa⟩ | hold
          · exact ⟨a, hqa⟩
          · rw [hp] at hold
            cases hold
      | idle | switch _ =>
          rw [hp] at hi
          cases hi
      | signal stands | ask _ stands _ | handled _ stands =>
          rcases getElem?_set_cases hi with ⟨rfl, _⟩ | ⟨_, hold⟩
          · rw [hp] at stands
            cases stands
          · rw [hp] at hold
            cases hold

/-- A request that was answered does nothing more. -/
theorem Step.answered (hs : w.Step w') {i : Nat} {p : Party H} (hi : w.parties[i]? = some p)
    (hp : p.isAnswered = true) : w'.parties[i]? = some p := by
  obtain ⟨q, hq, hproceeds⟩ := hs.proceeds hi
  cases hproceeds with
  | stay => exact hq
  | ask fault asks here => cases asks <;> cases hp
  | signal stood =>
      subst stood
      cases hp
  | handled outcome stood =>
      subst stood
      cases hp

/-- No step takes a party further from its end. -/
theorem Proceeds.movesLeft_le {i : Nat} {p q : Party H} (h : Proceeds w w' i p q) :
    q.movesLeft ≤ p.movesLeft := by
  cases h with
  | stay => exact Nat.le_refl _
  | ask fault asks _ => exact Nat.le_trans (Party.movesLeft_of_asks asks _) (Nat.sub_le _ 1)
  | signal stood | handled outcome stood => exact Nat.zero_le _

/-- A turn of its own takes a party nearer to its end. -/
theorem movesLeft_turn {i : Nat} {p : Party H} (hi : w.parties[i]? = some p) (now : Instant)
    (fresh : TaskId) (fault : Option StoreError) :
    ∃ q, (w.step (.turn i now fresh fault)).parties[i]? = some q ∧
      q.movesLeft ≤ p.movesLeft - 1 := by
  have hlt : i < w.parties.length := (List.getElem?_eq_some_iff.1 hi).1
  simp only [step, hi]
  cases hm : p.move now fresh with
  | call c next =>
      exact ⟨_, getElem?_ask hi now fault c _,
        Party.movesLeft_of_asks (Party.asks_of_move hm) _⟩
  | signal q =>
      obtain ⟨t, rfl, rfl⟩ := Party.signal_of_move hm
      exact ⟨_, List.getElem?_set_self hlt, Nat.le_refl 0⟩
  | rest =>
      have hzero := Party.movesLeft_of_rest hm
      exact ⟨p, hi, by omega⟩

/-- Turns of a party bring it to its end, whatever others do between them. -/
theorem movesLeft_after {i : Nat} (xs : List (Happening H)) :
    ∀ {w : Workshop H} {p : Party H}, w.parties[i]? = some p →
      ∃ q, (w.after xs).parties[i]? = some q ∧
        q.movesLeft ≤ p.movesLeft - xs.countP (Happening.isTurnOf i) := by
  induction xs with
  | nil =>
      intro w p hi
      exact ⟨p, hi, Nat.le_refl _⟩
  | cons x xs ih =>
      intro w p hi
      have hone : ∃ q, (w.step x).parties[i]? = some q ∧
          q.movesLeft ≤ p.movesLeft - if x.isTurnOf i = true then 1 else 0 := by
        by_cases hx : x.isTurnOf i = true
        · rw [if_pos hx]
          cases x with
          | turn j now fresh fault =>
              have hj : j = i := eq_of_beq hx
              subst hj
              exact movesLeft_turn hi now fresh fault
          | arrive _ | finish _ _ | switch _ => cases hx
        · rw [if_neg hx]
          obtain ⟨q, hq, hproceeds⟩ := (w.step_of_happening x).proceeds hi
          exact ⟨q, hq, hproceeds.movesLeft_le⟩
      obtain ⟨q, hq, hle⟩ := hone
      obtain ⟨q', hq', hle'⟩ := ih hq
      refine ⟨q', hq', ?_⟩
      rw [List.countP_cons]
      omega

/-! ## Submissions -/

/-- What a submission has answered. -/
def submitting (w : Workshop H) (i : Nat) : Option (Except TaskError Task) :=
  match w.parties[i]? with
  | some (.submit s) => s.answer?
  | _ => none

theorem submitting_eq_some_iff {i : Nat} {answer : Except TaskError Task} :
    w.submitting i = some answer ↔ w.parties[i]? = some (.submit (.done answer)) := by
  constructor
  · intro h
    unfold submitting at h
    split at h
    · next s hs =>
        cases s <;> cases h
        exact hs
    · cases h
  · intro h
    rw [submitting, h]
    rfl

/-- A submission stays where it is while it has no turn. -/
theorem submit_stays {x : Happening H} {i : Nat} {s : Submit} (hx : x.isTurnOf i = false)
    (hi : w.parties[i]? = some (.submit s)) : (w.step x).parties[i]? = some (.submit s) := by
  have hlt : i < w.parties.length := (List.getElem?_eq_some_iff.1 hi).1
  cases x with
  | arrive a => exact (List.getElem?_append_left hlt).trans hi
  | switch online => exact hi
  | finish j outcome =>
      simp only [step]
      split
      · next r t h hj =>
          have hne : j ≠ i := by
            rintro rfl
            rw [hi] at hj
            cases hj
          exact (List.getElem?_set_ne hne).trans hi
      · exact hi
  | turn j now fresh fault =>
      have hne : j ≠ i := by
        rintro rfl
        rw [Happening.isTurnOf, beq_self_eq_true] at hx
        cases hx
      simp only [step]
      split
      · exact hi
      · split
        · exact (List.getElem?_set_ne hne).trans hi
        · exact (List.getElem?_set_ne hne).trans hi
        · exact hi

/-! ## Calls -/

/-- A call in the history was there before a step, or the step made it. -/
theorem Step.called (hs : w.Step w') {i : Nat} {m : Memory} {c : StoreCall} {reply : c.Reply}
    (hd : .call i m c reply ∈ w'.history) :
    .call i m c reply ∈ w.history ∨
      ∃ (p : Party H) (next : c.Reply → Party H) (now : Instant) (fresh : TaskId)
        (fault : Option StoreError), w.parties[i]? = some p ∧ p.Asks now fresh c next ∧
          reply = (w.memory.answer now fault c).2 ∧ w' = w.ask i now fault c next := by
  cases hs with
  | idle | switch _ | arrive _ | signal _ => exact Or.inl hd
  | handled outcome stands =>
      simp only [Workshop.handled, List.mem_cons, reduceCtorEq, false_or] at hd
      exact Or.inl hd
  | @ask j p c' next now fresh fault stands asks =>
      simp only [Workshop.ask, List.mem_append, List.mem_cons] at hd
      rcases hd with hopen | hnew | hold
      · unfold Party.opening at hopen
        split at hopen <;> simp at hopen
      · cases hnew
        exact Or.inr ⟨p, next, now, fresh, fault, stands, asks, rfl, rfl⟩
      · exact Or.inl hold

end Workshop

end Backlog
