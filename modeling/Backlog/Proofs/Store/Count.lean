import Backlog.Proofs.Store.InFlight
/-!
# How many tasks have a status

Counters elsewhere are meant to agree with the store, so this module says by how much a call
changes the number of stored tasks of one status.  An update and a sweep rewrite some of the tasks,
and of those they rewrite a status loses the ones that had it and gains the ones that get it
(`countP_rewritten`).  What a status loses is what its guard says: a terminal status loses nothing,
so what it gains is in the reply (`tally_answer`); an update that expects one status moves as many
tasks out of it as it counts rows (`tally_moved`).

That the rows are the tasks that were rewritten rests on identifiers being stored once: an update
looks at the first task of an identifier to say how many it changes, and rewrites all of them
(`changes_eq_countP`).

## Main results

* `countP_rewritten` — the tasks of a status after some were rewritten.
* `tally_answer` — the tasks of a terminal status after a call.
* `tally_moved` — the tasks of any status after an update that expects one.
-/

namespace Backlog

namespace Memory

/-- How many stored tasks have a status. -/
def tally (m : Memory) (s : Status) : Nat := m.tasks.countP fun t => t.status == s

/-- How many tasks a call brings into a status, by its reply. -/
def gain (s : Status) : (c : StoreCall) → c.Reply → Nat
  | .insert t, .ok () => if t.status = s then 1 else 0
  | .updateIf _ _ u, .ok rows => if u.status = s then rows else 0
  | .failStale _ _, .ok rows => if s = .failed then rows else 0
  | _, _ => 0

/-- Where the tasks that meet a condition are rewritten, a status loses those of them that had it
and gains those that get it. -/
theorem countP_rewritten (p : Task → Bool) (u : Update) (now : Instant) (s : Status)
    (ts : List Task) :
    (ts.map fun t => if p t = true then u.apply t now else t).countP (fun t => t.status == s) +
        ts.countP (fun t => p t && t.status == s) =
      ts.countP (fun t => t.status == s) + ts.countP (fun t => p t && u.status == s) := by
  induction ts with
  | nil => rfl
  | cons t ts ih =>
      simp only [List.map_cons, List.countP_cons]
      cases hp : p t with
      | true =>
          simp only [if_true, Update.status_apply, Bool.true_and]
          omega
      | false =>
          simp only [Bool.false_eq_true, if_false, Bool.false_and]
          omega

/-- An update is counted once at most. -/
theorem changes_le_one (ts : List Task) (id : TaskId) (g : Guard) (u : Update) :
    changes ts id g u ≤ 1 := by
  unfold changes
  split
  · split
    · exact Nat.le_refl 1
    · exact Nat.zero_le 1
  · exact Nat.zero_le 1

/-- Where identifiers are stored once, an update counts the tasks it rewrites. -/
theorem changes_eq_countP {ts : List Task} (h : (ts.map Task.id).Nodup) (id : TaskId) (g : Guard)
    (u : Update) :
    changes ts id g u = ts.countP fun t => decide (t.id = id ∧ u.mayChange g t = true) := by
  induction ts with
  | nil => rfl
  | cons t ts ih =>
      rw [List.map_cons, List.nodup_cons] at h
      rw [List.countP_cons]
      by_cases ht : t.id = id
      · have hrest : ts.countP (fun v => decide (v.id = id ∧ u.mayChange g v = true)) = 0 := by
          refine List.countP_eq_zero.2 fun v hv hmeets => h.1 ?_
          rw [ht, ← (of_decide_eq_true hmeets).1]
          exact List.mem_map_of_mem hv
        have hfind : (t :: ts).find? (fun v => v.id == id) = some t :=
          List.find?_cons_of_pos (beq_iff_eq.2 ht)
        rw [hrest, changes, hfind]
        simp [ht]
      · have hfind : (t :: ts).find? (fun v => v.id == id) = ts.find? fun v => v.id == id :=
          List.find?_cons_of_neg (by simpa using ht)
        rw [changes, hfind, ← changes, ih h.2]
        simp [ht]

variable {m : Memory} {s : Status}

/-- Those of some tasks that get a status are all of them, or none. -/
theorem countP_and_beq (p : Task → Bool) (a b : Status) (ts : List Task) :
    ts.countP (fun t => p t && a == b) = if a = b then ts.countP p else 0 := by
  by_cases h : a = b
  · rw [if_pos h]
    simp only [h, beq_self_eq_true, Bool.and_true]
  · rw [if_neg h]
    simp only [beq_eq_false_iff_ne.2 h, Bool.and_false, List.countP_false]
    rfl

/-- Where all that meet a condition have a status, those that also have another are all of them, or
none. -/
theorem countP_and_status {p : Task → Bool} {f : Status} (h : ∀ t, p t = true → t.status = f)
    (s : Status) (ts : List Task) :
    ts.countP (fun t => p t && t.status == s) = if f = s then ts.countP p else 0 := by
  rw [← countP_and_beq]
  refine List.countP_congr fun t _ => ?_
  cases hp : p t with
  | true => rw [h t hp]
  | false => rfl

/-- The tasks of a status after an update. -/
theorem tally_updated (h : (m.tasks.map Task.id).Nodup) (id : TaskId) (g : Guard) (u : Update)
    (now : Instant) (s : Status) :
    (updated m.tasks id g u now).countP (fun t => t.status == s) +
        m.tasks.countP (fun t => decide (t.id = id ∧ u.mayChange g t = true) && t.status == s) =
      m.tally s + if u.status = s then changes m.tasks id g u else 0 := by
  have hrewritten := countP_rewritten (fun t => decide (t.id = id ∧ u.mayChange g t = true)) u now s
    m.tasks
  rw [countP_and_beq, ← changes_eq_countP h] at hrewritten
  simpa only [updated, tally, decide_eq_true_eq] using hrewritten

/-- No task of a terminal status may be changed. -/
theorem countP_mayChange (hs : s.isTerminal = true) (id : TaskId) (g : Guard) (u : Update)
    (ts : List Task) :
    ts.countP (fun t => decide (t.id = id ∧ u.mayChange g t = true) && t.status == s) = 0 := by
  refine List.countP_eq_zero.2 fun t _ ht => ?_
  rw [Bool.and_eq_true, decide_eq_true_eq, beq_iff_eq] at ht
  obtain ⟨⟨_, hmay⟩, rfl⟩ := ht
  rw [Status.isTerminal, Update.isActive_of_mayChange hmay] at hs
  cases hs

/-- The tasks of a terminal status after a sweep. -/
theorem tally_swept (hs : s.isTerminal = true) (cutoff : Instant) (error : String)
    (now : Instant) :
    (m.tasks.map fun t => if isStale cutoff t then (Update.fail error).apply t now else t).countP
        (fun t => t.status == s) =
      m.tally s + if s = .failed then m.tasks.countP (isStale cutoff) else 0 := by
  have hrewritten := countP_rewritten (isStale cutoff) (Update.fail error) now s m.tasks
  rw [countP_and_beq, countP_and_status fun t => status_of_isStale, if_neg] at hrewritten
  · rw [Nat.add_zero] at hrewritten
    rw [hrewritten]
    simp only [tally, Update.fail, eq_comm]
  · rintro rfl
    cases hs

/-- The tasks of a terminal status after a call: those before it and what its reply says. -/
theorem tally_answer (h : Apart m.tasks) (hs : s.isTerminal = true) (now : Instant)
    (fault : Option StoreError) (c : StoreCall) :
    (m.answer now fault c).1.tally s = m.tally s + gain s c (m.answer now fault c).2 := by
  cases hr : (m.answer now fault c).2 with
  | error e =>
      rw [answer_error hr]
      cases c <;> rfl
  | ok a =>
      obtain ⟨heq, hreply⟩ := answer_ok hr
      rw [heq]
      cases c with
      | insert t =>
          show ((m.perform now (.insert t)).1).countP _ = m.tally s + _
          simp only [perform] at hreply ⊢
          cases hc : m.collision? t with
          | some e =>
              rw [hc] at hreply
              cases hreply
          | none =>
              show (m.tasks ++ [t]).countP _ = _
              rw [List.countP_append, List.countP_singleton]
              simp [gain, tally]
      | updateIf id g u =>
          rw [← Except.ok.inj hreply]
          have hupdated := tally_updated h.ids id g u now s
          rw [countP_mayChange hs] at hupdated
          exact hupdated
      | failStale cutoff error =>
          rw [← Except.ok.inj hreply]
          exact tally_swept hs cutoff error now
      | _ => rfl

/-- The tasks of any status after an update that expects one: the rows it counts have moved. -/
theorem tally_moved (h : Apart m.tasks) {id : TaskId} {f : Status} {u : Update} {now : Instant}
    {fault : Option StoreError} {rows : Nat}
    (hr : (m.answer now fault (.updateIf id (Guard.status f) u)).2 = .ok rows) (s : Status) :
    (m.answer now fault (.updateIf id (Guard.status f) u)).1.tally s +
        (if f = s then rows else 0) = m.tally s + if u.status = s then rows else 0 := by
  obtain ⟨heq, hreply⟩ := answer_ok hr
  have hrows : changes m.tasks id (Guard.status f) u = rows := Except.ok.inj hreply
  have hupdated := tally_updated h.ids id (Guard.status f) u now s
  rw [countP_and_status (f := f), ← changes_eq_countP h.ids, hrows] at hupdated
  · rw [heq]
    exact hupdated
  · intro t ht
    have hmay := (of_decide_eq_true ht).2
    have hallowed := (Guard.allows_iff.1 (Bool.and_eq_true_iff.1 hmay).1).1
    exact List.mem_singleton.1 hallowed

end Memory

end Backlog
