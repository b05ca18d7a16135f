import Backlog.Proofs.Workshop.Cancellation
/-!
# What the answer to a cancellation says

A cancellation answers once, and the answer is true of the task from then on.  A success is for
good: the task is its owner's and canceled, nobody writes to it again, no attempt reports an outcome
of it, and the owner may cancel it as often as he likes.  A refusal says that the task was a
stranger's or had ended otherwise when the cancellation looked, and a refused cancellation has
changed nothing.  `Verdict` has one field for each answer.

One thing a cancellation does not do.  A task that is canceled already is left as it is, so a task
that came into the store canceled and with an outcome keeps the outcome (`outcome_can_stay`).  That
is the only way for a canceled task to have one (`Plain`).

## Main results

* `Plain.step` — canceled tasks have no outcome that they did not come with.
* `Lawful.calledOff` — what a success is worth.
* `cancel_verdict` — what each answer says of the task.
* `outcome_can_stay` — a task that came canceled with a result keeps it.
-/

namespace Backlog

open Text (trim)

variable {H : Type}

namespace Workshop

variable {m : Memory} {w w' : Workshop H}

/-! ## Canceled tasks have no outcome -/

/-- A canceled task has no outcome, unless it was in the store `m` as it is. -/
def Plain (m : Memory) (w : Workshop H) : Prop :=
  ∀ id u, w.memory.find? id = some u → u.status = .canceled →
    (u.result = none ∧ u.error = none) ∨ m.find? id = some u

theorem plain_opened (m : Memory) : Plain m (opened m : Workshop H) :=
  fun _ _ hu _ => Or.inr hu

/-- Canceled tasks have no outcome, through everything that can happen. -/
theorem Plain.step (hs : w.Step w') (ho : w.Orderly) (h : Plain m w) : Plain m w' := by
  intro id u hu hcanceled
  rcases hs.origin ho hu with ⟨t, ht, rfl | ⟨j, hrewrites⟩⟩ | ⟨_, hqueued, _⟩
  · exact h id u ht hcanceled
  · cases hrewrites with
    | claim _ _ _ _ => cases hcanceled
    | @outcome _ _ v _ _ _ _ _ _ => cases v <;> cases hcanceled
    | cancel _ _ _ => exact Or.inl ⟨rfl, rfl⟩
    | sweep _ _ _ => cases hcanceled
  · rw [hqueued] at hcanceled
    cases hcanceled

/-- What the answers to cancellations rest on, on a run from the store `m`. -/
structure Lawful (m : Memory) (w : Workshop H) : Prop where
  sound : w.Sound
  endings : w.Endings
  reported : w.Reported
  plain : Plain m w

theorem Lawful.step (hs : w.Step w') (h : Lawful m w) : Lawful m w' where
  sound := h.sound.step hs
  endings := h.endings.step hs
  reported := h.reported.step hs
  plain := h.plain.step hs h.sound.orderly

theorem Lawful.after (h : Lawful m w) (xs : List (Happening H)) : Lawful m (w.after xs) :=
  keeps_of_step (fun _ _ hs h => h.step hs) h xs

theorem lawful_opened (es : List StoreEvent) :
    Lawful (Memory.empty.after es) (opened (Memory.empty.after es) : Workshop H) where
  sound := sound_opened (Memory.apart_after es)
  endings := endings_opened _
  reported := reported_opened _
  plain := plain_opened _

/-! ## What a success is worth -/

/-- What a cancellation has answered. -/
def canceling (w : Workshop H) (i : Nat) : Option (Except TaskError Unit) :=
  match w.parties[i]? with
  | some (.cancel c) => c.answer?
  | _ => none

theorem canceling_eq_some_iff {i : Nat} {a : Except TaskError Unit} :
    w.canceling i = some a ↔ w.parties[i]? = some (.cancel (.done a)) := by
  constructor
  · intro h
    unfold canceling at h
    split at h
    · next c hc =>
        cases c <;> cases h
        exact hc
    · cases h
  · intro h
    rw [canceling, h]
    rfl

/-- A cancellation stands at the last place when it has arrived. -/
theorem canceling_arrived (w : Workshop H) (idText owner : String) :
    (w.step (.arrive (.cancel idText owner))).parties[w.parties.length]? =
      some (.cancel (Cancel.start idText owner)) :=
  List.getElem?_concat_length

/-- A cancellation that arrives, after a run. -/
theorem course_arrived (w : Workshop H) (idText owner : String) (xs : List (Happening H)) :
    ∃ c, ((w.step (.arrive (.cancel idText owner))).after xs).parties[w.parties.length]? =
        some (.cancel c) ∧
      Course w.memory ((w.step (.arrive (.cancel idText owner))).after xs) w.parties.length
        idText owner c := by
  have hstart := course_start w w.parties.length idText owner
  have hgrows := (w.step_of_happening (.arrive (.cancel idText owner))).grows
  exact (hstart.mono hgrows).after (w.canceling_arrived idText owner) xs

/-- On a run the cancellation at a place answers with success, and has answered after two turns,
unless a call of it fails. -/
def Succeeds (w : Workshop H) (i : Nat) (xs : List (Happening H)) : Prop :=
  (∀ n c e, .call i n c (.error e) ∉ (w.after xs).history) →
    (∀ a, (w.after xs).canceling i = some a → a = .ok ()) ∧
    (2 ≤ xs.countP (Happening.isTurnOf i) → (w.after xs).canceling i = some (.ok ()))

/-- The owner called the task off, for good. -/
structure CalledOff (m : Memory) (w : Workshop H) (id : TaskId) (owner : String) : Prop where
  stored : ∃ u, w.memory.find? id = some u ∧ u.owner = trim owner ∧ u.status = .canceled ∧
    ((u.result = none ∧ u.error = none) ∨ m.find? id = some u) ∧
    ∀ xs, (w.after xs).memory.find? id = some u
  /-- No attempt ever ends with an outcome of the task. -/
  unreported : ∀ (xs : List (Happening H)) (j : Nat) (r : Registry H) (x : Processed),
    (w.after xs).parties[j]? = some (.attempt r (.done (.ok (some x)))) →
      x ≠ .succeeded id ∧ x ≠ .failed id
  /-- Every later cancellation by the owner succeeds. -/
  again : ∀ xs idText owner' ys, TaskId.readTrimmed? idText = some id → trim owner' = trim owner →
    ((w.after xs).step (.arrive (.cancel idText owner'))).Succeeds (w.after xs).parties.length ys

/-- What met a store in which the caller's task was canceled does not answer with an error of its
own. -/
theorem Course.ok_of_canceled {base : Memory} {i : Nat} {idText owner : String}
    {a : Except TaskError Unit} (h : Course base w i idText owner (.done a)) {id : TaskId}
    {u : Task} (hreads : TaskId.readTrimmed? idText = some id)
    (hnamed : (trim owner).isEmpty = false) (hu : base.find? id = some u)
    (hown : u.owner = trim owner) (hstatus : u.status = .canceled)
    (hhonest : ∀ n c e, .call i n c (.error e) ∉ w.history) : a = .ok () := by
  have hterminal : u.status.isTerminal = true := by
    rw [hstatus]
    rfl
  cases h with
  | blank empty =>
      rcases empty with hblank | hblank
      · rw [TaskId.readTrimmed?_of_blank hblank] at hreads
        cases hreads
      · rw [hnamed] at hblank
        cases hblank
  | unreadable reads =>
      rw [reads] at hreads
      cases hreads
  | failed met => exact (hhonest _ _ _ met).elim
  | canceled _ _ _ _ => rfl
  | gone aims _ missing since =>
      cases Option.some.inj (aims.reads.symm.trans hreads)
      obtain ⟨v, hv, _⟩ := since id u hu
      rw [missing] at hv
      cases hv
  | late aims _ _ stored since refused _ =>
      cases Option.some.inj (aims.reads.symm.trans hreads)
      obtain ⟨v, hv, _, hend⟩ := since id u hu
      rw [hend hterminal, stored] at hv
      cases hv
      exact (refused ⟨hown, hstatus⟩).elim

/-- Who cancels a task that is canceled already succeeds. -/
theorem succeeds_of_canceled {id : TaskId} {u : Task} {idText owner : String}
    (hreads : TaskId.readTrimmed? idText = some id) (hnamed : (trim owner).isEmpty = false)
    (hu : w.memory.find? id = some u) (hown : u.owner = trim owner) (hstatus : u.status = .canceled)
    (xs : List (Happening H)) :
    (w.step (.arrive (.cancel idText owner))).Succeeds w.parties.length xs := by
  intro hhonest
  obtain ⟨c, hc, hcourse⟩ := course_arrived w idText owner xs
  have hok : ∀ a, ((w.step (.arrive (.cancel idText owner))).after xs).canceling
      w.parties.length = some a → a = .ok () := by
    intro a ha
    rw [canceling_eq_some_iff, hc] at ha
    cases ha
    exact hcourse.ok_of_canceled hreads hnamed hu hown hstatus hhonest
  refine ⟨hok, ?_⟩
  intro hturns
  have hstart : (Party.cancel (Cancel.start idText owner) : Party H).movesLeft ≤ 2 := by
    rcases Cancel.start idText owner with _ | _ | _
    · exact Nat.le_refl 2
    · exact Nat.le_succ 1
    · exact Nat.zero_le 2
  obtain ⟨q, hq, hle⟩ := movesLeft_after xs (w.canceling_arrived idText owner)
  rw [hc] at hq
  cases hq
  have hzero : (Party.cancel c : Party H).movesLeft = 0 := by omega
  cases c with
  | write _ _ | reread _ _ => cases hzero
  | done a =>
      have ha := canceling_eq_some_iff.2 hc
      rw [ha, hok a ha]

/-- A task that its owner has cancelled is called off for good. -/
theorem Lawful.calledOff (h : Lawful m w) {id : TaskId} {u : Task} {owner : String}
    (hu : w.memory.find? id = some u) (hown : u.owner = trim owner) (hstatus : u.status = .canceled)
    (hnamed : (trim owner).isEmpty = false) : CalledOff m w id owner := by
  have hforever : ∀ xs, (w.after xs).memory.find? id = some u := by
    intro xs
    obtain ⟨v, hv, _, hend⟩ := (w.grows_after xs).stored hu
    rw [hv, hend (by rw [hstatus]; rfl)]
  refine ⟨⟨u, hu, hown, hstatus, h.plain id u hu hstatus, hforever⟩, ?_, ?_⟩
  · intro xs j r x hj
    have hheld := (h.after xs).reported j r x hj
    have hother : ∀ s : Status, s ≠ .canceled →
        ¬ ∃ v, (w.after xs).memory.find? id = some v ∧ v.status = s := by
      rintro s hne ⟨v, hv, rfl⟩
      rw [hforever xs] at hv
      cases hv
      exact hne hstatus
    constructor
    · rintro rfl
      exact hother .succeeded Status.noConfusion hheld
    · rintro rfl
      exact hother .failed Status.noConfusion hheld
  · intro xs idText owner' ys hreads howner
    exact succeeds_of_canceled hreads (howner ▸ hnamed) (hforever xs) (howner ▸ hown) hstatus ys

/-! ## The answers -/

/-- What the answer of the cancellation at place `i`, after the run `xs`, says of the task.  The
store was once `m`. -/
structure Verdict (m : Memory) (w : Workshop H) (i : Nat) (idText owner : String)
    (xs : List (Happening H)) : Prop where
  canceled : (w.after xs).canceling i = some (.ok ()) →
    ∃ id, Cancel.Aims idText owner id ∧ CalledOff m (w.after xs) id owner
  /-- The task was there at the second look, a stranger's or ended otherwise, unless its identifier
  came into use between the two calls. -/
  notCancelable : (w.after xs).canceling i = some (.error .notCancelable) →
    ∃ id m₁ m₂ t, Cancel.Aims idText owner id ∧
      .call i m₁ (.updateIf id (Cancel.guard (trim owner)) Update.cancel) (.ok 0) ∈
        (w.after xs).history ∧
      .call i m₂ (.get id) (.ok (some t)) ∈ (w.after xs).history ∧ m₂.find? id = some t ∧
      ((m₁.find? id = none → m₂.find? id = none) →
        t.owner ≠ trim owner ∨ (t.status.isTerminal = true ∧ t.status ≠ .canceled))
  notFound : (w.after xs).canceling i = some (.error .notFound) →
    TaskId.readTrimmed? idText = none ∨
      ∃ id m₂, Cancel.Aims idText owner id ∧
        .call i m₂ (.get id) (.ok none) ∈ (w.after xs).history ∧
        m₂.find? id = none ∧ w.memory.find? id = none
  refused : ∀ e, (w.after xs).canceling i = some (.error e) → w.Untouched i xs
  stranger : (∀ id u, Cancel.Aims idText owner id → (w.after xs).memory.find? id = some u →
    u.owner ≠ trim owner) → w.Untouched i xs
  /-- Of all writes that end a task, one at most takes effect. -/
  once : ∀ id, (w.after xs).history.countP (Deed.ends id) ≤ 1

/-- What the course of a cancellation comes to. -/
theorem Course.verdict {i : Nat} {idText owner : String} {c : Cancel} (h : Lawful m w)
    (hi : w.parties[i]? = some (.cancel c)) (hcourse : Course w.memory w i idText owner c)
    (xs : List (Happening H)) : Verdict m w i idText owner xs := by
  obtain ⟨c', hi', hcourse'⟩ := hcourse.after hi xs
  have hlawful := h.after xs
  refine ⟨?_, ?_, ?_, ?_, ?_, hlawful.endings.once⟩
  · intro ha
    rw [canceling_eq_some_iff, hi'] at ha
    cases ha
    cases hcourse' with
    | canceled aims stored own status =>
        exact ⟨_, aims, hlawful.calledOff stored own status aims.named⟩
  · intro ha
    rw [canceling_eq_some_iff, hi'] at ha
    cases ha
    cases hcourse' with
    | @late id m₁ m₂ t aims tried looked stored since refused ended =>
        refine ⟨id, m₁, m₂, t, aims, tried, looked, stored, ?_⟩
        intro hkept
        by_cases hown : t.owner = trim owner
        · refine Or.inr ⟨?_, fun hstatus => refused ⟨hown, hstatus⟩⟩
          refine ended ?_ hown
          intro hmissing
          rw [hkept hmissing] at stored
          cases stored
        · exact Or.inl hown
  · intro ha
    rw [canceling_eq_some_iff, hi'] at ha
    cases ha
    cases hcourse' with
    | unreadable reads => exact Or.inl reads
    | @gone id m₂ aims looked missing since =>
        refine Or.inr ⟨id, m₂, aims, looked, missing, ?_⟩
        cases ht : w.memory.find? id with
        | none => rfl
        | some t =>
            obtain ⟨u, hu, _⟩ := since id t ht
            rw [missing] at hu
            cases hu
  · intro e ha
    refine hcourse.untouched h.sound hi ?_
    intro id u _ _ _ hok
    rw [canceling_eq_some_iff, hok] at ha
    cases ha
  · intro hstranger
    refine hcourse.untouched h.sound hi ?_
    intro id u aims hown hu _
    exact hstranger id u aims hu hown

/-- **The verdict on a cancellation.**  Whatever happened in a workshop before a cancellation
arrives, whoever acts between its two calls and after them, and whichever calls fail, its answer
says the truth. -/
theorem cancel_verdict (es : List StoreEvent) (before xs : List (Happening H))
    (idText owner : String) :
    Verdict (Memory.empty.after es)
      (((opened (Memory.empty.after es)).after before).step (.arrive (.cancel idText owner)))
      ((opened (Memory.empty.after es)).after before).parties.length idText owner xs := by
  have hlawful := (lawful_opened (H := H) es).after before
  have hs := step_of_happening ((opened (Memory.empty.after es)).after before)
    (.arrive (.cancel idText owner))
  obtain ⟨c, hc, hcourse⟩ := course_arrived _ idText owner []
  exact Course.verdict (hlawful.step hs) hc hcourse xs

/-! ## A task that came with an outcome -/

/-- A store that was given the recognition of an invoice, canceled and yet with a result. -/
def givenResult : List StoreEvent :=
  [.call .epoch (.insert { Memory.invoiceTask .canceled with result := some (.str "paid") })]

/-- The owner cancels it, and takes two turns. -/
def cancelledByOwner : Workshop Unit :=
  (opened (Memory.empty.after givenResult)).after
    [.arrive (.cancel "00000000-0000-0000-0000-000000000007" "u1"),
      .turn 0 .epoch (idOf 0) none, .turn 0 .epoch (idOf 0) none]

/-- A task that came into the store canceled and with a result keeps it. -/
theorem outcome_can_stay : ¬ ∀ (es : List StoreEvent) (before xs : List (Happening Unit))
    (idText owner : String) (id : TaskId) (u : Task),
    ((((opened (Memory.empty.after es)).after before).step
      (.arrive (.cancel idText owner))).after xs).canceling
        ((opened (Memory.empty.after es)).after before).parties.length = some (.ok ()) →
    TaskId.readTrimmed? idText = some id →
    ((((opened (Memory.empty.after es)).after before).step
      (.arrive (.cancel idText owner))).after xs).memory.find? id = some u →
    u.result = none := by
  intro h
  have hrun : cancelledByOwner.canceling 0 = some (.ok ()) ∧
      (cancelledByOwner.memory.find? (idOf 7)).map (fun u => u.result.isSome) =
        some true := by
    decide +kernel
  obtain ⟨u, hu, hresult⟩ := Option.map_eq_some_iff.1 hrun.2
  have hnone := h givenResult [] [.turn 0 .epoch (idOf 0) none,
    .turn 0 .epoch (idOf 0) none] "00000000-0000-0000-0000-000000000007" "u1"
    (idOf 7) u hrun.1 (by decide +kernel) hu
  rw [hnone] at hresult
  cases hresult

end Workshop

end Backlog
