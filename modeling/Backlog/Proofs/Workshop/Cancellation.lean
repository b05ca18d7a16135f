import Backlog.Proofs.Workshop.Endings
import Backlog.Proofs.Workshop.Sound
/-!
# Cancellations

A cancellation writes first and reads afterwards, if the write changed nothing.  Between the two
others may claim the task, end it, cancel it or sweep it up, and yet the answer has to be true of
the task.  It is, because what the write found cannot be undone: it found a stranger's task, and a
task keeps its owner, or it found a task that had ended, and that stays as it is.  So the read sees
what the write saw, or an ending that came first.

`Course` says what is true of a cancellation by the point it stands at, in terms of the two stores
that its calls met.  It follows that a cancellation changes nothing unless its write succeeds, and
that this write is aimed at a task of the caller (`Course.untouched`).

## Main results

* `Course.step` — what is true of a cancellation, through everything that can happen.
* `unchanged_or_canceled` — a turn of a cancellation changes nothing, or is the one that succeeds.
* `Course.untouched` — a cancellation that does not succeed against its own task changes nothing.
-/

namespace Backlog

open Text (trim)

variable {H : Type}

/-- A cancellation may change the tasks of its caller that are in flight. -/
theorem Cancel.mayChange_iff {owner : String} {t : Task} :
    Update.cancel.mayChange (guard owner) t = true ↔
      t.owner = owner ∧ t.status.isActive = true := by
  rw [Update.mayChange, Bool.and_eq_true, Guard.allows_iff]
  constructor
  · rintro ⟨⟨hactive, hown⟩, _⟩
    refine ⟨?_, Status.mem_activeOnes.1 hactive⟩
    rcases hown with hnone | hsome
    · cases hnone
    · exact (Option.some.inj hsome).symm
  · rintro ⟨rfl, hactive⟩
    refine ⟨⟨Status.mem_activeOnes.2 hactive, Or.inr rfl⟩, ?_⟩
    cases hs : t.status <;> rw [hs] at hactive <;> first | rfl | cases hactive

/-- The arguments of a cancellation name a task and a caller. -/
structure Cancel.Aims (idText owner : String) (id : TaskId) : Prop where
  reads : TaskId.readTrimmed? idText = some id
  named : (trim owner).isEmpty = false

namespace Memory

/-- What one store holds is in another, as the same work, and what has ended as it was. -/
def Precedes (m n : Memory) : Prop :=
  ∀ id t, m.find? id = some t →
    ∃ u, n.find? id = some u ∧ t.SameWork u ∧ (t.status.isTerminal = true → u = t)

theorem Precedes.trans {l m n : Memory} (h : l.Precedes m) (h' : m.Precedes n) : l.Precedes n := by
  intro id t ht
  obtain ⟨u, hu, hwork, hend⟩ := h id t ht
  obtain ⟨v, hv, hwork', hend'⟩ := h' id u hu
  refine ⟨v, hv, hwork.trans hwork', ?_⟩
  intro hterminal
  have hut := hend hterminal
  rw [hend' (hut ▸ hterminal), hut]

end Memory

namespace Workshop

variable {w w' : Workshop H}

theorem Grows.precedes (hg : w.Grows w') : w.memory.Precedes w'.memory :=
  fun _ _ ht => hg.stored ht

/-! ## The course of a cancellation -/

/-- What is true of the cancellation at place `i`, by the point it stands at.  It arrived when the
store was `base`. -/
inductive Course (base : Memory) (w : Workshop H) (i : Nat) (idText owner : String) :
    Cancel → Prop where
  | blank (empty : (trim idText).isEmpty = true ∨ (trim owner).isEmpty = true) :
      Course base w i idText owner (.done (.error (.invalidInput "missing task id or owner_id")))
  | unreadable (reads : TaskId.readTrimmed? idText = none) :
      Course base w i idText owner (.done (.error .notFound))
  | failed {m : Memory} {c : StoreCall} {e : StoreError}
      (met : .call i m c (.error e) ∈ w.history) :
      Course base w i idText owner (.done (.error e.toTaskError))
  | write {id : TaskId} (aims : Cancel.Aims idText owner id) (since : base.Precedes w.memory) :
      Course base w i idText owner (.write id (trim owner))
  /-- The write met a store where the task was missing, somebody else's, or ended. -/
  | reread {id : TaskId} {m : Memory} (aims : Cancel.Aims idText owner id)
      (tried : .call i m (.updateIf id (Cancel.guard (trim owner)) Update.cancel) (.ok 0) ∈
        w.history)
      (barred : ∀ t, m.find? id = some t → t.owner = trim owner → t.status.isTerminal = true)
      (since : base.Precedes m) (later : m.Precedes w.memory) :
      Course base w i idText owner (.reread id (trim owner))
  | canceled {id : TaskId} {u : Task} (aims : Cancel.Aims idText owner id)
      (stored : w.memory.find? id = some u) (own : u.owner = trim owner)
      (status : u.status = .canceled) : Course base w i idText owner (.done (.ok ()))
  | gone {id : TaskId} {n : Memory} (aims : Cancel.Aims idText owner id)
      (looked : .call i n (.get id) (.ok none) ∈ w.history) (missing : n.find? id = none)
      (since : base.Precedes n) : Course base w i idText owner (.done (.error .notFound))
  | late {id : TaskId} {m n : Memory} {t : Task} (aims : Cancel.Aims idText owner id)
      (tried : .call i m (.updateIf id (Cancel.guard (trim owner)) Update.cancel) (.ok 0) ∈
        w.history)
      (looked : .call i n (.get id) (.ok (some t)) ∈ w.history) (stored : n.find? id = some t)
      (since : base.Precedes n) (refused : ¬ (t.owner = trim owner ∧ t.status = .canceled))
      (ended : m.find? id ≠ none → t.owner = trim owner → t.status.isTerminal = true) :
      Course base w i idText owner (.done (.error .notCancelable))

variable {base : Memory} {i : Nat} {idText owner : String} {c : Cancel}

/-- A cancellation that arrives is refused, or about to write. -/
theorem course_start (w : Workshop H) (i : Nat) (idText owner : String) :
    Course w.memory w i idText owner (Cancel.start idText owner) := by
  unfold Cancel.start
  by_cases hempty : (trim idText).isEmpty = true ∨ (trim owner).isEmpty = true
  · simp only [Bool.or_eq_true, hempty, if_true]
    exact .blank hempty
  · simp only [Bool.or_eq_true, hempty, if_false]
    split
    · next hreads => exact .unreadable hreads
    · next id hreads =>
        have hnamed : (trim owner).isEmpty = false := by
          rw [← Bool.not_eq_true]
          exact fun h => hempty (Or.inr h)
        exact .write ⟨hreads, hnamed⟩ fun _ t ht => ⟨t, ht, .refl t, fun _ => rfl⟩

/-- What is true of a cancellation stays true while it does nothing. -/
theorem Course.mono (h : Course base w i idText owner c) (hg : w.Grows w') :
    Course base w' i idText owner c := by
  cases h with
  | blank empty => exact .blank empty
  | unreadable reads => exact .unreadable reads
  | failed met => exact .failed (hg.history met)
  | write aims since => exact .write aims (since.trans hg.precedes)
  | reread aims tried barred since later =>
      exact .reread aims (hg.history tried) barred since (later.trans hg.precedes)
  | canceled aims stored own status =>
      obtain ⟨v, hv, _, hend⟩ := hg.stored stored
      rw [hend (by rw [status]; rfl)] at hv
      exact .canceled aims hv own status
  | gone aims looked missing since => exact .gone aims (hg.history looked) missing since
  | late aims tried looked stored since refused ended =>
      exact .late aims (hg.history tried) (hg.history looked) stored since refused ended

/-- The write of a cancellation. -/
theorem Course.written {id : TaskId} {o : String} (h : Course base w i idText owner (.write id o))
    {now : Instant} {fault : Option StoreError} (hg : w.Grows w')
    (hmemory : w'.memory =
      (w.memory.answer now fault (.updateIf id (Cancel.guard o) Update.cancel)).1)
    (hdeed : .call i w.memory (.updateIf id (Cancel.guard o) Update.cancel)
      (w.memory.answer now fault (.updateIf id (Cancel.guard o) Update.cancel)).2 ∈ w'.history) :
    Course base w' i idText owner (Cancel.written id o
      (w.memory.answer now fault (.updateIf id (Cancel.guard o) Update.cancel)).2).1 := by
  cases h with
  | write aims since =>
      generalize hr : (w.memory.answer now fault
        (.updateIf id (Cancel.guard (trim owner)) Update.cancel)).2 = reply at hdeed ⊢
      cases reply with
      | error e => exact .failed hdeed
      | ok rows =>
          by_cases hrows : rows > 0
          · obtain ⟨t, _, hmay, ht⟩ := Memory.updateIf_ok hr hrows
            simp only [Cancel.written, if_pos hrows]
            rw [← hmemory] at ht
            exact .canceled aims ht (Cancel.mayChange_iff.1 hmay).1 rfl
          · have hzero : rows = 0 := Nat.eq_zero_of_not_pos hrows
            subst hzero
            simp only [Cancel.written, if_neg hrows]
            refine .reread aims hdeed ?_ since hg.precedes
            intro t ht hown
            cases hactive : t.status.isActive with
            | true =>
                have hmay := Cancel.mayChange_iff.2 ⟨hown, hactive⟩
                exact (Memory.mayChange_of_zero hr ht hmay).elim
            | false =>
                rw [Status.isTerminal, hactive]
                rfl

/-- The read of a cancellation. -/
theorem Course.read {id : TaskId} {o : String} (h : Course base w i idText owner (.reread id o))
    {now : Instant} {fault : Option StoreError} (hg : w.Grows w')
    (hdeed : .call i w.memory (.get id) (w.memory.answer now fault (.get id)).2 ∈ w'.history) :
    Course base w' i idText owner
      (Cancel.read id o (w.memory.answer now fault (.get id)).2).1 := by
  cases h with
  | @reread _ m aims tried barred since later =>
      generalize hr : (w.memory.answer now fault (.get id)).2 = reply at hdeed ⊢
      cases reply with
      | error e => exact .failed hdeed
      | ok found =>
          have hfound : w.memory.find? id = found := Except.ok.inj (Memory.answer_ok hr).2
          cases found with
          | none => exact .gone aims hdeed hfound (since.trans later)
          | some t =>
              by_cases hmine : t.owner = trim owner ∧ t.status = .canceled
              · simp only [Cancel.read, if_pos hmine]
                have hcourse : Course base w i idText owner (.done (.ok ())) :=
                  .canceled aims hfound hmine.1 hmine.2
                exact hcourse.mono hg
              · simp only [Cancel.read, if_neg hmine]
                refine .late aims (hg.history tried) hdeed hfound (since.trans later) hmine ?_
                intro hstored hown
                obtain ⟨t₀, ht₀⟩ := Option.ne_none_iff_exists'.1 hstored
                obtain ⟨u, hu, hwork, hend⟩ := later id t₀ ht₀
                rw [hfound] at hu
                cases hu
                have hterminal := barred t₀ ht₀ (hwork.owner.symm.trans hown)
                rw [hend hterminal]
                exact hterminal

/-- What is true of a cancellation, through everything that can happen. -/
theorem Course.step (hs : w.Step w') (hi : w.parties[i]? = some (.cancel c))
    (h : Course base w i idText owner c) :
    ∃ c', w'.parties[i]? = some (.cancel c') ∧ Course base w' i idText owner c' := by
  obtain ⟨q, hq, hproceeds⟩ := hs.proceeds hi
  cases hproceeds with
  | stay => exact ⟨c, hq, h.mono hs.grows⟩
  | ask fault asks here =>
      have hg := hs.grows
      subst here
      have hdeed : ∀ {call : StoreCall} {next : call.Reply → Party H} {now : Instant},
          .call i w.memory call (w.memory.answer now fault call).2 ∈
            (w.ask i now fault call next).history :=
        List.mem_append_right _ List.mem_cons_self
      cases asks with
      | cancelWrite => exact ⟨_, hq, h.written hg rfl hdeed⟩
      | cancelRead => exact ⟨_, hq, h.read hg hdeed⟩
  | signal stood => cases stood
  | handled outcome stood => cases stood

/-- What is true of a cancellation after a run. -/
theorem Course.after (hi : w.parties[i]? = some (.cancel c))
    (h : Course base w i idText owner c) (xs : List (Happening H)) :
    ∃ c', (w.after xs).parties[i]? = some (.cancel c') ∧
      Course base (w.after xs) i idText owner c' :=
  keeps_of_step
    (P := fun v => ∃ c', v.parties[i]? = some (.cancel c') ∧ Course base v i idText owner c')
    (fun _ _ hs ⟨_, hi, hc⟩ => hc.step hs hi) ⟨c, hi, h⟩ xs

/-! ## What a cancellation changes -/

/-- A turn of a cancellation changes nothing, or is the write that succeeds. -/
theorem unchanged_or_canceled (h : w.Sound) (hi : w.parties[i]? = some (.cancel c))
    (now : Instant) (fresh : TaskId) (fault : Option StoreError) :
    (w.step (.turn i now fresh fault)).memory = w.memory ∨
      ∃ id o t, c = .write id o ∧ w.memory.find? id = some t ∧ t.owner = o ∧
        (w.step (.turn i now fresh fault)).parties[i]? = some (.cancel (.done (.ok ()))) := by
  simp only [step, hi]
  cases c with
  | done a => exact Or.inl rfl
  | reread id o => exact Or.inl (Memory.answer_lookup rfl w.memory now fault)
  | write id o =>
      have hgoes := getElem?_ask (H := H) hi now fault
        (.updateIf id (Cancel.guard o) Update.cancel) fun x => .cancel (Cancel.written id o x).1
      simp only [Party.move, Cancel.move, Move.map]
      cases hr : (w.memory.answer now fault (.updateIf id (Cancel.guard o) Update.cancel)).2 with
      | error e => exact Or.inl (Memory.answer_error hr)
      | ok rows =>
          by_cases hrows : rows > 0
          · obtain ⟨t, ht, hmay, _⟩ := Memory.updateIf_ok hr hrows
            refine Or.inr ⟨id, o, t, rfl, ht, (Cancel.mayChange_iff.1 hmay).1, ?_⟩
            refine hgoes.trans ?_
            rw [hr]
            simp only [Cancel.written, if_pos hrows]
          · have hzero : rows = 0 := Nat.eq_zero_of_not_pos hrows
            subst hzero
            exact Or.inl (h.apart.updateIf_zero hr)

/-- The turns of party `i` on a run leave the store as they find it. -/
def Untouched (w : Workshop H) (i : Nat) (xs : List (Happening H)) : Prop :=
  ∀ ys now fresh fault zs, xs = ys ++ .turn i now fresh fault :: zs →
    ((w.after ys).step (.turn i now fresh fault)).memory = (w.after ys).memory

/-- A cancellation that does not succeed against its own task leaves the store as it finds it. -/
theorem Course.untouched (h : Course base w i idText owner c) (hw : w.Sound)
    (hi : w.parties[i]? = some (.cancel c)) {xs : List (Happening H)}
    (hnever : ∀ id u, Cancel.Aims idText owner id → u.owner = trim owner →
      (w.after xs).memory.find? id = some u →
      (w.after xs).parties[i]? ≠ some (.cancel (.done (.ok ())))) : w.Untouched i xs := by
  intro ys now fresh fault zs hxs
  obtain ⟨c', hi', hcourse⟩ := h.after hi ys
  have hsound : (w.after ys).Sound := keeps_of_step (fun _ _ hs h => h.step hs) hw ys
  rcases unchanged_or_canceled hsound hi' now fresh fault with
    hsame | ⟨id, o, t, rfl, ht, hown, hok⟩
  · exact hsame
  · cases hcourse with
    | write aims since =>
        have hsplit : w.after xs = ((w.after ys).step (.turn i now fresh fault)).after zs :=
          (congrArg w.after hxs).trans (w.after_append ys _)
        obtain ⟨u, hu, hwork, _⟩ :=
          ((step_of_happening _ (.turn i now fresh fault)).grows.trans (grows_after _ zs)).stored ht
        have hstays := keeps_of_step (P := fun v => v.parties[i]? = some (.cancel (.done (.ok ()))))
          (fun _ _ hs hv => hs.answered hv rfl) hok zs
        rw [hsplit] at hnever
        exact (hnever id u aims (hwork.owner.trans hown) hu hstays).elim

end Workshop

end Backlog
