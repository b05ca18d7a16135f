import Backlog.Proofs.Store.InFlight
/-!
# The oldest task in flight for a key

A submission asks the store for a task in flight that its key finds, and of several it is given the
one that comes first, by the time of creation and then by identifier.  Both are fixed for as long as
a task is stored, so the answer is a choice of a task and not of a record: updates and sweeps that
let the matching tasks stay in flight leave it at the same task (`oldestMatch?_map`), and so does an
insert of other work (`oldestMatch?_append_other`).

The search is looser than the rule the store keeps on inserts.  A key without a fingerprint finds
tasks with any, several of which can be in flight, while an insert collides with its exact key
alone.  The order of `Task.isBefore` is what makes the answer one of them.

## Main results

* `oldestMatch?_eq_some_iff` — the answer is the match that comes before every other.
* `oldestMatch?_eq_none_iff` — there is no answer when nothing in flight matches.
* `oldestMatch?_map`, `oldestMatch?_append_other`, `oldestMatch?_append_first` — the answer after
  each effect of a call.
-/

namespace Backlog

namespace Task

/-! ## The order of tasks -/

/-- Tasks are compared by second, nanosecond and number, in this order. -/
theorem isBefore_iff {a b : Task} : a.isBefore b = true ↔
    a.createdAt.second < b.createdAt.second ∨ (a.createdAt.second = b.createdAt.second ∧
      (a.createdAt.nano < b.createdAt.nano ∨
        (a.createdAt.nano = b.createdAt.nano ∧ a.id.val < b.id.val))) := by
  rw [isBefore, Bool.or_eq_true, Bool.and_eq_true, beq_iff_eq, decide_eq_true_eq, TaskId.lt_def,
    Instant.before_iff, Instant.ext_iff]
  omega

theorem isBefore_irrefl (a : Task) : a.isBefore a = false := by
  rw [← Bool.not_eq_true, isBefore_iff]
  omega

theorem isBefore_asymm {a b : Task} (h : a.isBefore b = true) : b.isBefore a = false := by
  rw [← Bool.not_eq_true, isBefore_iff]
  rw [isBefore_iff] at h
  omega

/-- What comes before a task comes before everything that does not precede it. -/
theorem isBefore_of_not {a b c : Task} (h : a.isBefore b = true) (h' : c.isBefore b = false) :
    a.isBefore c = true := by
  rw [← Bool.not_eq_true, isBefore_iff] at h'
  rw [isBefore_iff] at h ⊢
  omega

/-- Of two tasks with different identifiers one comes first. -/
theorem isBefore_of_ne {a b : Task} (hid : a.id ≠ b.id) (h : b.isBefore a = false) :
    a.isBefore b = true := by
  have hval : a.id.val ≠ b.id.val := fun heq => hid (TaskId.ext heq)
  rw [← Bool.not_eq_true, isBefore_iff] at h
  rw [isBefore_iff]
  omega

/-- The order looks at the creation of a task and its identifier only. -/
theorem SameWork.isBefore_eq {a a' b b' : Task} (ha : a.SameWork a') (hb : b.SameWork b') :
    a'.isBefore b' = a.isBefore b := by
  rw [isBefore, isBefore, ha.createdAt, ha.id, hb.createdAt, hb.id]

end Task

namespace WorkKey

/-- The key without its fingerprint, which finds all work of the kind, the owner and the target. -/
def loose (k : WorkKey) : WorkKey := { k with fingerprint := none }

theorem loose_finds {k : WorkKey} {t : Task} (h : k.finds t = true) : k.loose.finds t = true := by
  rw [finds_iff] at h ⊢
  exact ⟨h.1, h.2.1, h.2.2.1, Or.inl rfl⟩

/-- A task is found by its own key. -/
theorem finds_of_key {k : WorkKey} {t : Task} (h : t.key = k) : k.finds t = true :=
  finds_of_isExact (isExact_iff_key_eq.2 h)

/-- What a key finds is a matter of the work alone. -/
theorem finds_sameWork {k : WorkKey} {t u : Task} (h : t.SameWork u) : k.finds u = k.finds t := by
  rw [finds, finds, h.kind, h.owner, h.target, h.fingerprint]

end WorkKey

namespace Memory

/-! ## The first of some tasks -/

theorem earliest?_eq_none_iff {ts : List Task} : earliest? ts = none ↔ ts = [] := by
  cases ts with
  | nil => exact ⟨fun _ => rfl, fun _ => rfl⟩
  | cons a rest =>
      refine ⟨fun h => ?_, fun h => by cases h⟩
      simp only [earliest?] at h
      split at h <;> cases h

/-- Nothing comes before the first. -/
theorem not_isBefore_of_earliest? {ts : List Task} {t : Task} (h : earliest? ts = some t) :
    ∀ u ∈ ts, u.isBefore t = false := by
  induction ts generalizing t with
  | nil => cases h
  | cons a rest ih =>
      intro u hu
      simp only [earliest?] at h
      cases hr : earliest? rest with
      | none =>
          rw [hr] at h
          cases h
          rw [earliest?_eq_none_iff.1 hr, List.mem_singleton] at hu
          rw [hu]
          exact Task.isBefore_irrefl a
      | some v =>
          rw [hr] at h
          simp only [Option.some.injEq] at h
          cases hva : v.isBefore a with
          | true =>
              rw [hva, if_pos rfl] at h
              subst h
              rcases List.mem_cons.1 hu with rfl | hrest
              · exact Task.isBefore_asymm hva
              · exact ih hr u hrest
          | false =>
              rw [hva, if_neg Bool.false_ne_true] at h
              subst h
              rcases List.mem_cons.1 hu with rfl | hrest
              · exact Task.isBefore_irrefl u
              · cases hua : u.isBefore a with
                | false => rfl
                | true =>
                    have huv := Task.isBefore_of_not hua hva
                    rw [ih hr u hrest] at huv
                    cases huv

/-- The first of rewritten tasks is the first, rewritten. -/
theorem earliest?_map {f : Task → Task} (hf : ∀ t : Task, t.SameWork (f t)) (ts : List Task) :
    earliest? (ts.map f) = (earliest? ts).map f := by
  induction ts with
  | nil => rfl
  | cons a rest ih =>
      simp only [List.map_cons, earliest?, ih]
      cases earliest? rest with
      | none => rfl
      | some v =>
          simp only [Option.map_some, (hf v).isBefore_eq (hf a)]
          split <;> rfl

/-! ## The oldest match of a key -/

/-- Whether a task is in flight and found by a key. -/
def isMatch (k : WorkKey) (t : Task) : Bool := t.status.isActive && k.finds t

/-- The task in flight that a search by a key answers with. -/
def oldestMatch? (m : Memory) (k : WorkKey) : Option Task := earliest? (m.tasks.filter (isMatch k))

theorem isMatch_iff {k : WorkKey} {t : Task} :
    isMatch k t = true ↔ t.status.isActive = true ∧ k.finds t = true := by
  rw [isMatch, Bool.and_eq_true]

/-- A search that reaches the store answers with the oldest match. -/
theorem answer_findActive {m : Memory} (h : m.online = true) (now : Instant) (k : WorkKey) :
    m.answer now none (.findActive k) = (m, .ok (m.oldestMatch? k)) := by
  rw [answer, exec_of_online h]
  rfl

theorem oldestMatch?_eq_none_iff {m : Memory} {k : WorkKey} :
    m.oldestMatch? k = none ↔ ∀ t ∈ m.tasks, isMatch k t = false := by
  rw [oldestMatch?, earliest?_eq_none_iff, List.filter_eq_nil_iff]
  simp only [Bool.not_eq_true]

/-- The answer to a search is the match that comes before every other. -/
theorem oldestMatch?_eq_some_iff {m : Memory} (h : Apart m.tasks) {k : WorkKey} {t : Task} :
    m.oldestMatch? k = some t ↔ t ∈ m.tasks ∧ isMatch k t = true ∧
      ∀ u ∈ m.tasks, isMatch k u = true → u ≠ t → t.isBefore u = true := by
  have hspec : ∀ v, m.oldestMatch? k = some v → v ∈ m.tasks ∧ isMatch k v = true ∧
      ∀ u ∈ m.tasks, isMatch k u = true → u ≠ v → v.isBefore u = true := by
    intro v hv
    obtain ⟨hmem, hmatch⟩ := List.mem_filter.1 (mem_of_earliest? hv)
    refine ⟨hmem, hmatch, ?_⟩
    intro u hu humatch hne
    refine Task.isBefore_of_ne (fun hid => hne (h.eq_of_id hu hmem hid.symm)) ?_
    exact not_isBefore_of_earliest? hv u (List.mem_filter.2 ⟨hu, humatch⟩)
  refine ⟨hspec t, ?_⟩
  rintro ⟨ht, hmatch, hfirst⟩
  cases hv : m.oldestMatch? k with
  | none =>
      rw [oldestMatch?_eq_none_iff.1 hv t ht] at hmatch
      cases hmatch
  | some v =>
      obtain ⟨hmem, hvmatch, hvfirst⟩ := hspec v hv
      by_contra hne
      have hvt : v ≠ t := fun heq => hne (congrArg some heq)
      have htv := hfirst v hmem hvmatch hvt
      rw [Task.isBefore_asymm (hvfirst t ht hmatch (Ne.symm hvt))] at htv
      cases htv

/-- Calls that leave the matches in flight leave the oldest match the same work. -/
theorem oldestMatch?_map {m n : Memory} {k : WorkKey} {f : Task → Task}
    (advances : ∀ t : Task, t.Advances (f t)) (htasks : n.tasks = m.tasks.map f)
    (hlast : ∀ t ∈ m.tasks, isMatch k t = true → (f t).status.isActive = true) :
    n.oldestMatch? k = (m.oldestMatch? k).map f := by
  have hmatch : ∀ t ∈ m.tasks, (isMatch k ∘ f) t = isMatch k t := by
    intro t ht
    rw [Function.comp_apply, Bool.eq_iff_iff, isMatch_iff, isMatch_iff,
      WorkKey.finds_sameWork (advances t).sameWork]
    constructor
    · exact fun h => ⟨(advances t).isActive h.1, h.2⟩
    · exact fun h => ⟨hlast t ht (isMatch_iff.2 h), h.2⟩
  rw [oldestMatch?, oldestMatch?, htasks, List.filter_map, List.filter_congr hmatch,
    earliest?_map fun t => (advances t).sameWork]

/-- An insert of other work leaves the oldest match. -/
theorem oldestMatch?_append_other {m n : Memory} {k : WorkKey} {t : Task}
    (htasks : n.tasks = m.tasks ++ [t]) (h : k.finds t = false) :
    n.oldestMatch? k = m.oldestMatch? k := by
  have hother : isMatch k t = false := by rw [isMatch, h, Bool.and_false]
  rw [oldestMatch?, oldestMatch?, htasks, List.filter_append, List.filter_singleton, hother,
    cond_false, List.append_nil]

/-- Where nothing matched, what is inserted is the oldest match. -/
theorem oldestMatch?_append_first {m n : Memory} {k : WorkKey} {t : Task}
    (htasks : n.tasks = m.tasks ++ [t]) (hnone : m.oldestMatch? k = none)
    (h : isMatch k t = true) : n.oldestMatch? k = some t := by
  have hnil : m.tasks.filter (isMatch k) = [] := earliest?_eq_none_iff.1 hnone
  rw [oldestMatch?, htasks, List.filter_append, hnil, List.nil_append, List.filter_singleton, h]
  rfl

/-- Where nothing matches its key, a task with an unused identifier can be inserted. -/
theorem not_bars_of_oldestMatch? {m : Memory} {t : Task} (hnone : m.oldestMatch? t.key = none)
    (hfree : m.find? t.id = none) : ¬ Bars m.tasks t := by
  rintro (⟨u, hu, hid⟩ | ⟨_, u, hu, hactive, hkey⟩)
  · exact find?_none_iff.1 hfree u hu hid
  · have hu' := oldestMatch?_eq_none_iff.1 hnone u hu
    rw [isMatch, hactive, WorkKey.finds_of_key hkey] at hu'
    cases hu'

end Memory

end Backlog
