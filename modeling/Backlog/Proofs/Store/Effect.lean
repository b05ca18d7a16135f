import Backlog.Proofs.Task.Advance
import Backlog.Store.Memory
/-!
# What one call does to the store in memory

Of the eight calls three can change the tasks that are stored, and each of them in one way.  An
insert that nothing bars puts its task behind the others.  A guarded update rewrites the task it is
aimed at, and a sweep rewrites the stale ones; both leave every task in its place, advanced along
its life or as it was.  `Memory.Effect` lists these cases once, and every invariant of the stored
tasks is proved from the list (`effect_exec`).

What a caller can conclude from a reply is said of single identifiers, and of a call that may fail
before it reaches the store (`Memory.answer`).  A stored task stays stored, and either it is as it
was or the call and its reply say how it was altered (`find?_answer`).

## Main results

* `effect_exec` — the tasks after a call, in three cases.
* `find?_answer` — a stored task after a call: as it was, or altered by an update or a sweep.
* `updateIf_ok` — an update that counts a row found its task and changed it.
* `insert_ok` — a task whose insert was taken is stored.
* `oldestQueued_ok` — a poll answers with a stored task that is queued.
-/

namespace Backlog

/-- Whether a call only looks at what is stored. -/
def StoreCall.isLookup : StoreCall → Bool
  | insert _ | updateIf _ _ _ | failStale _ _ => false
  | get _ | getForOwner _ _ | findActive _ | oldestQueued | listForOwner _ _ _ => true

namespace Memory

/-! ## Stored tasks by their identifier -/

theorem find?_some {m : Memory} {id : TaskId} {t : Task} (h : m.find? id = some t) :
    t ∈ m.tasks ∧ t.id = id := by
  have hid := List.find?_some h
  exact ⟨List.mem_of_find?_eq_some h, eq_of_beq hid⟩

theorem find?_none_iff {m : Memory} {id : TaskId} :
    m.find? id = none ↔ ∀ t ∈ m.tasks, t.id ≠ id := by
  simp [find?]

/-- A rewriting that keeps identifiers is seen by a search as a rewriting of what it finds. -/
theorem find?_map {f : Task → Task} (hf : ∀ t, (f t).id = t.id) (ts : List Task) (id : TaskId) :
    (ts.map f).find? (fun t => t.id == id) = (ts.find? fun t => t.id == id).map f := by
  rw [List.find?_map]
  congr 2
  funext t
  simp only [Function.comp_apply, hf]

theorem mem_of_earliest? {ts : List Task} {t : Task} (h : earliest? ts = some t) : t ∈ ts := by
  induction ts generalizing t with
  | nil => cases h
  | cons a rest ih =>
      simp only [earliest?] at h
      cases hr : earliest? rest with
      | none =>
          rw [hr] at h
          cases h
          exact List.mem_cons_self
      | some u =>
          rw [hr] at h
          simp only [Option.some.injEq] at h
          split at h
          · rw [← h]
            exact List.mem_cons_of_mem _ (ih hr)
          · rw [← h]
            exact List.mem_cons_self

/-! ## The tasks after a call -/

/-- Whether stored tasks bar the insert of another: one of them has its identifier, or one in flight
has its key and it would be in flight itself. -/
def Bars (ts : List Task) (t : Task) : Prop :=
  (∃ u ∈ ts, u.id = t.id) ∨
    (t.status.isActive = true ∧ ∃ u ∈ ts, u.status.isActive = true ∧ u.key = t.key)

/-- What a call may make of the stored tasks. -/
inductive Effect (ts : List Task) : List Task → Prop where
  | keep : Effect ts ts
  | add {t : Task} (free : ¬ Bars ts t) : Effect ts (ts ++ [t])
  | rewrite {f : Task → Task} (advances : ∀ t : Task, t.Advances (f t)) : Effect ts (ts.map f)

/-- A stored task stays stored under whatever effect, advanced or as it was. -/
theorem Effect.find? {ts us : List Task} (h : Effect ts us) {id : TaskId} {t : Task}
    (ht : ts.find? (fun u => u.id == id) = some t) :
    ∃ u, us.find? (fun u => u.id == id) = some u ∧ t.Advances u := by
  cases h with
  | keep => exact ⟨t, ht, .stay⟩
  | add _ =>
      refine ⟨t, ?_, .stay⟩
      rw [List.find?_append, ht]
      rfl
  | rewrite advances =>
      refine ⟨_, ?_, advances t⟩
      rw [find?_map fun u => (advances u).id_eq, ht]
      rfl

/-- An insert collides exactly with what bars its task. -/
theorem collision?_eq_none_iff {m : Memory} {t : Task} :
    m.collision? t = none ↔ ¬ Bars m.tasks t := by
  unfold collision? Bars
  by_cases hid : ∃ u ∈ m.tasks, u.id = t.id
  · have hsome : (m.find? t.id).isSome = true := by
      obtain ⟨u, hu, heq⟩ := hid
      rw [find?, List.find?_isSome]
      exact ⟨u, hu, beq_iff_eq.2 heq⟩
    simp [hsome, hid]
  · have hnone : m.find? t.id = none := by
      rw [find?_none_iff]
      intro u hu heq
      exact hid ⟨u, hu, heq⟩
    have hkey : (m.inFlight? t.key).isSome = true ↔
        ∃ u ∈ m.tasks, u.status.isActive = true ∧ u.key = t.key := by
      simp [inFlight?, WorkKey.isExact_iff_key_eq]
    by_cases ha : t.status.isActive = true
    · rw [hnone]
      simp only [Option.isSome_none, Bool.false_eq_true, if_false, ha, if_true,
        Option.map_eq_none_iff, hid, false_or, true_and, ← hkey, Option.not_isSome_iff_eq_none]
    · simp [hnone, ha, hid]

/-- A collision is reported as a conflict. -/
theorem conflict_of_collision {m : Memory} {t : Task} {e : StoreError}
    (h : m.collision? t = some e) : ∃ reason, e = .conflict reason := by
  unfold collision? at h
  split at h
  · cases h
    exact ⟨_, rfl⟩
  · split at h
    · obtain ⟨u, _, hu⟩ := Option.map_eq_some_iff.1 h
      exact ⟨_, hu.symm⟩
    · cases h

theorem status_of_isStale {cutoff : Instant} {t : Task} (h : isStale cutoff t = true) :
    t.status = .processing := by
  simp only [isStale, Bool.and_eq_true, beq_iff_eq] at h
  exact h.1

/-- The rewriting of an update, task by task. -/
theorem advances_updated (id : TaskId) (g : Guard) (u : Update) (now : Instant) (t : Task) :
    t.Advances (if t.id = id ∧ u.mayChange g t = true then u.apply t now else t) := by
  split
  · next h => exact Update.advances_apply h.2 now
  · exact .stay

/-- The rewriting of a sweep, task by task. -/
theorem advances_swept (cutoff : Instant) (error : String) (now : Instant) (t : Task) :
    t.Advances (if isStale cutoff t = true then (Update.fail error).apply t now else t) := by
  split
  · next h =>
      refine .move (Update.sameWork_apply _ _ _) ?_
      rw [status_of_isStale h]
      rfl
  · exact .stay

/-- The tasks after a call: as they were, with one more, or each advanced in its place. -/
theorem effect_perform (m : Memory) (now : Instant) (c : StoreCall) :
    Effect m.tasks (m.perform now c).1 := by
  cases c with
  | insert t =>
      simp only [perform]
      cases hc : m.collision? t with
      | some e => exact .keep
      | none => exact .add (collision?_eq_none_iff.1 hc)
  | updateIf id g u => exact .rewrite (advances_updated id g u now)
  | failStale cutoff error => exact .rewrite (advances_swept cutoff error now)
  | _ => exact .keep

theorem effect_exec (m : Memory) (now : Instant) (c : StoreCall) :
    Effect m.tasks (m.exec now c).1.tasks := by
  unfold exec
  split
  · exact effect_perform m now c
  · exact .keep

theorem exec_of_online {m : Memory} (h : m.online = true) (now : Instant) (c : StoreCall) :
    m.exec now c = ({ m with tasks := (m.perform now c).1 }, (m.perform now c).2) := by
  simp [exec, h]

/-! ## Calls that may fail -/

/-- A call of the store by a caller who may not reach it: with a fault the call ends in that error
and the store is not touched. -/
def answer (m : Memory) (now : Instant) (fault : Option StoreError) (c : StoreCall) :
    Memory × c.Reply :=
  match fault with
  | none => m.exec now c
  | some e => (m, .error e)

theorem effect_answer (m : Memory) (now : Instant) (fault : Option StoreError) (c : StoreCall) :
    Effect m.tasks (m.answer now fault c).1.tasks := by
  cases fault with
  | none => exact effect_exec m now c
  | some e => exact .keep

/-- A reply other than an error comes from an online store that was reached. -/
theorem answer_ok {m : Memory} {now : Instant} {fault : Option StoreError} {c : StoreCall}
    {a : c.Answer} (h : (m.answer now fault c).2 = .ok a) :
    m.answer now fault c = ({ m with tasks := (m.perform now c).1 }, .ok a) ∧
      (m.perform now c).2 = .ok a := by
  cases fault with
  | some e => cases h
  | none =>
      simp only [answer] at h ⊢
      by_cases hon : m.online = true
      · rw [exec_of_online hon] at h ⊢
        exact ⟨by rw [← h], h⟩
      · rw [exec_offline (Bool.not_eq_true _ ▸ hon)] at h
        cases h

/-- Which call with which reply altered a stored task, and what it made of it. -/
inductive Alters (now : Instant) (t : Task) : (c : StoreCall) → c.Reply → Task → Prop where
  | update {id : TaskId} {g : Guard} {u : Update} {rows : Nat} (target : t.id = id)
      (changed : 0 < rows) (may : u.mayChange g t = true) :
      Alters now t (.updateIf id g u) (.ok rows) (u.apply t now)
  | sweep {cutoff : Instant} {error : String} {rows : Nat} (stale : isStale cutoff t = true) :
      Alters now t (.failStale cutoff error) (.ok rows) ((Update.fail error).apply t now)

/-- The task an update is aimed at, afterwards. -/
theorem find?_updated (m : Memory) (id : TaskId) (g : Guard) (u : Update) (now : Instant)
    (i : TaskId) :
    (updated m.tasks id g u now).find? (fun t => t.id == i) =
      (m.find? i).map fun t => if t.id = id ∧ u.mayChange g t = true then u.apply t now else t := by
  rw [updated, find?_map]
  · rfl
  · intro t
    split <;> rfl

theorem find?_swept (m : Memory) (cutoff : Instant) (error : String) (now : Instant)
    (i : TaskId) :
    (m.tasks.map fun t => if isStale cutoff t then (Update.fail error).apply t now else t).find?
        (fun t => t.id == i) =
      (m.find? i).map fun t => if isStale cutoff t then (Update.fail error).apply t now else t := by
  rw [find?_map]
  · rfl
  · intro t
    split <;> rfl

/-- An update counts a row exactly if it finds its task and may change it. -/
theorem changes_pos_iff {m : Memory} {id : TaskId} {g : Guard} {u : Update} :
    0 < changes m.tasks id g u ↔ ∃ t, m.find? id = some t ∧ u.mayChange g t = true := by
  unfold changes find?
  split
  · next t ht =>
      rw [ht]
      by_cases hm : u.mayChange g t = true <;> simp [hm]
  · next hn => simp [hn]

/-- A stored task after an online call: as it was, or altered. -/
theorem find?_perform {m : Memory} {id : TaskId} {t : Task} (h : m.find? id = some t)
    (now : Instant) (c : StoreCall) :
    (m.perform now c).1.find? (fun t => t.id == id) = some t ∨
      ∃ u, (m.perform now c).1.find? (fun t => t.id == id) = some u ∧
        Alters now t c (m.perform now c).2 u := by
  cases c with
  | insert u =>
      refine Or.inl ?_
      simp only [perform]
      cases m.collision? u with
      | some e => exact h
      | none =>
          rw [List.find?_append]
          simp only [find?] at h
          rw [h]
          rfl
  | updateIf i g u =>
      simp only [perform, find?_updated, h, Option.map_some]
      by_cases hc : t.id = i ∧ u.mayChange g t = true
      · obtain ⟨rfl, hm⟩ := hc
        refine Or.inr ⟨u.apply t now, by simp [hm], .update rfl ?_ hm⟩
        rw [(find?_some h).2] at *
        exact changes_pos_iff.2 ⟨t, h, hm⟩
      · exact Or.inl (by rw [if_neg hc])
  | failStale cutoff error =>
      simp only [perform, find?_swept, h, Option.map_some]
      by_cases hs : isStale cutoff t = true
      · exact Or.inr ⟨_, by rw [if_pos hs], .sweep hs⟩
      · exact Or.inl (by rw [if_neg hs])
  | _ => exact Or.inl h

/-- A stored task after a call: as it was, or altered. -/
theorem find?_answer {m : Memory} {id : TaskId} {t : Task} (h : m.find? id = some t)
    (now : Instant) (fault : Option StoreError) (c : StoreCall) :
    (m.answer now fault c).1.find? id = some t ∨
      ∃ u, (m.answer now fault c).1.find? id = some u ∧
        Alters now t c (m.answer now fault c).2 u := by
  cases fault with
  | some e => exact Or.inl h
  | none =>
      simp only [answer]
      cases hon : m.online with
      | false =>
          rw [exec_offline hon]
          exact Or.inl h
      | true =>
          rw [exec_of_online hon]
          exact find?_perform h now c

/-- An update that counts a row found its task, could change it, and did. -/
theorem updateIf_ok {m : Memory} {now : Instant} {fault : Option StoreError} {id : TaskId}
    {g : Guard} {u : Update} {rows : Nat}
    (h : (m.answer now fault (.updateIf id g u)).2 = .ok rows) (hrows : 0 < rows) :
    ∃ t, m.find? id = some t ∧ u.mayChange g t = true ∧
      (m.answer now fault (.updateIf id g u)).1.find? id = some (u.apply t now) := by
  obtain ⟨heq, hreply⟩ := answer_ok h
  simp only [perform, Except.ok.injEq] at hreply
  obtain ⟨t, ht, hmay⟩ := changes_pos_iff.1 (hreply ▸ hrows)
  refine ⟨t, ht, hmay, ?_⟩
  rw [heq]
  show (updated m.tasks id g u now).find? (fun t => t.id == id) = _
  rw [find?_updated, ht, Option.map_some, if_pos ⟨(find?_some ht).2, hmay⟩]

/-- An update that counts no row could not change its task. -/
theorem mayChange_of_zero {m : Memory} {now : Instant} {fault : Option StoreError} {id : TaskId}
    {g : Guard} {u : Update} (h : (m.answer now fault (.updateIf id g u)).2 = .ok 0) {t : Task}
    (ht : m.find? id = some t) : ¬ u.mayChange g t = true := by
  intro hmay
  have hzero : changes m.tasks id g u = 0 := Except.ok.inj (answer_ok h).2
  have hpos := changes_pos_iff.2 ⟨t, ht, hmay⟩
  omega

/-- A lookup leaves the store as it was. -/
theorem answer_lookup {c : StoreCall} (h : c.isLookup = true) (m : Memory) (now : Instant)
    (fault : Option StoreError) : (m.answer now fault c).1 = m := by
  cases fault with
  | some e => rfl
  | none =>
      simp only [answer, exec]
      split
      · cases c <;> first | rfl | cases h
      · rfl

theorem exec_lookup {c : StoreCall} (h : c.isLookup = true) (m : Memory) (now : Instant) :
    (m.exec now c).1 = m :=
  answer_lookup h m now none

/-- An update leaves every other identifier alone. -/
theorem find?_updateIf_of_ne {id i : TaskId} (h : i ≠ id) (m : Memory) (now : Instant)
    (fault : Option StoreError) (g : Guard) (u : Update) :
    (m.answer now fault (.updateIf id g u)).1.find? i = m.find? i := by
  cases hi : m.find? i with
  | some t =>
      rcases find?_answer hi now fault (.updateIf id g u) with hsame | ⟨v, _, halters⟩
      · exact hsame
      · generalize (m.answer now fault (.updateIf id g u)).2 = reply at halters
        cases halters with
        | update target _ _ => exact absurd ((find?_some hi).2.symm.trans target) h
  | none =>
      cases fault with
      | some e => exact hi
      | none =>
          simp only [answer]
          cases hon : m.online with
          | false =>
              rw [exec_offline hon]
              exact hi
          | true =>
              rw [exec_of_online hon]
              exact (find?_updated m id g u now i).trans (by rw [hi]; rfl)

/-- A task whose insert was taken is stored. -/
theorem insert_ok {m : Memory} {now : Instant} {fault : Option StoreError} {t : Task}
    (h : (m.answer now fault (.insert t)).2 = .ok ()) :
    (m.answer now fault (.insert t)).1.find? t.id = some t := by
  obtain ⟨heq, hreply⟩ := answer_ok h
  rw [heq]
  simp only [perform] at hreply ⊢
  cases hc : m.collision? t with
  | some e =>
      rw [hc] at hreply
      cases hreply
  | none =>
      have hnone : m.tasks.find? (fun u => u.id == t.id) = none := by
        rw [List.find?_eq_none]
        intro u hu hid
        exact collision?_eq_none_iff.1 hc (Or.inl ⟨u, hu, eq_of_beq hid⟩)
      show (m.tasks ++ [t]).find? (fun u => u.id == t.id) = some t
      rw [List.find?_append, hnone, Option.none_or]
      simp

/-- A poll answers with a stored task that is queued. -/
theorem oldestQueued_ok {m : Memory} {now : Instant} {fault : Option StoreError} {t : Task}
    (h : (m.answer now fault .oldestQueued).2 = .ok (some t)) :
    t ∈ m.tasks ∧ t.status = .queued := by
  obtain ⟨-, hreply⟩ := answer_ok h
  simp only [perform, Except.ok.injEq] at hreply
  obtain ⟨hmem, hq⟩ := List.mem_filter.1 (mem_of_earliest? hreply)
  exact ⟨hmem, eq_of_beq hq⟩

/-- Under an identifier that is free, only the insert of a task stores one. -/
theorem insert_of_find?_none {m : Memory} {id : TaskId} {u : Task} (h : m.find? id = none)
    {now : Instant} {fault : Option StoreError} {c : StoreCall}
    (hu : (m.answer now fault c).1.find? id = some u) : c = .insert u := by
  cases fault with
  | some e =>
      rw [answer, h] at hu
      cases hu
  | none =>
      simp only [answer] at hu
      cases hon : m.online with
      | false =>
          rw [exec_offline hon, h] at hu
          cases hu
      | true =>
          rw [exec_of_online hon] at hu
          cases c with
          | insert t =>
              cases hc : m.collision? t with
              | some e =>
                  simp only [perform, hc] at hu
                  exact absurd (hu.symm.trans h) (Option.some_ne_none u)
              | none =>
                  simp only [perform, hc, find?, List.find?_append] at hu h
                  rw [h, Option.none_or, List.find?_singleton] at hu
                  split at hu
                  · rw [Option.some.inj hu]
                  · cases hu
          | updateIf i g v =>
              have hsame := find?_updated m i g v now id
              rw [h, Option.map_none] at hsame
              exact absurd (hu.symm.trans hsame) (Option.some_ne_none u)
          | failStale cutoff error =>
              have hsame := find?_swept m cutoff error now id
              rw [h, Option.map_none] at hsame
              exact absurd (hu.symm.trans hsame) (Option.some_ne_none u)
          | _ => exact absurd (hu.symm.trans h) (Option.some_ne_none u)

/-- A call that fails leaves the store as it was. -/
theorem answer_error {m : Memory} {now : Instant} {fault : Option StoreError} {c : StoreCall}
    {e : StoreError} (h : (m.answer now fault c).2 = .error e) :
    (m.answer now fault c).1 = m := by
  cases fault with
  | some e' => rfl
  | none =>
      simp only [answer] at h ⊢
      cases hon : m.online with
      | false => rw [exec_offline hon]
      | true =>
          rw [exec_of_online hon] at h ⊢
          cases c with
          | insert t =>
              simp only [perform] at h ⊢
              cases hc : m.collision? t with
              | some e' => rfl
              | none =>
                  rw [hc] at h
                  cases h
          | _ => cases h

/-- A stored task after a call, advanced or as it was. -/
theorem advances_answer {m : Memory} {id : TaskId} {t : Task} (h : m.find? id = some t)
    (now : Instant) (fault : Option StoreError) (c : StoreCall) :
    ∃ u, (m.answer now fault c).1.find? id = some u ∧ t.Advances u :=
  (effect_answer m now fault c).find? h

end Memory

end Backlog
