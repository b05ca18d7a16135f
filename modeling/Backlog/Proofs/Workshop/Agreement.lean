import Backlog.Proofs.Store.Match
import Backlog.Proofs.Workshop.Sound
import Backlog.Proofs.Workshop.Turns
/-!
# Submitters of one key agree

Several callers may submit the same work at once.  Each of them searches before it inserts, but the
search and the insert are two calls, so all of them may find nothing and all of them may try to
insert.  The store takes the first insert and refuses the others, and the losers search again and
find the winner.  So everybody is answered with one task.

For this the task in question must stay in flight.  `Meanwhile` names what has to hold at every
moment of a run, and asks for nothing else: any other parties may come and go, claim the task and
work on other keys.  The search is the loose one and the insert looks at the exact key, and the
invariant `Agreed` ties them together.  Before anything matches nobody is past the insert.  Once
something does, the oldest match stays the same task; and if somebody still is about to insert, the
match is one with the exact key, so that the insert will be refused.

## Main results

* `step_tasks` — the stored tasks after a step: each in its place, or with one insert more.
* `Agreed.others`, `Agreed.turn` — the identifier agreed upon, while others act and when one of the
  group does.
* `Agreed.step`, `Agreed.run` — the same through one moment and through a run.
* `submitters_agree` — everybody is answered, with one task, and one row is gained at most.
-/

namespace Backlog

variable {H : Type}

namespace Workshop

variable {w : Workshop H}

/-! ## The moments of a run -/

/-- The task that somebody inserts when something happens, and who does. -/
def inserts (w : Workshop H) : Happening H → Option (Nat × Task)
  | .turn i _ _ _ =>
    match w.parties[i]? with
    | some (.submit (.insert _ t)) => some (i, t)
    | _ => none
  | _ => none

/-- Whether a call that is made when something happens reaches the store. -/
def reaches (w : Workshop H) : Happening H → Bool
  | .turn _ _ _ fault => fault.isNone && w.memory.online
  | _ => true

/-- What has to hold at a moment of the run on which a group of parties submits a key. -/
structure Meanwhile (k : WorkKey) (group : List Nat) (w : Workshop H) (x : Happening H) :
    Prop where
  /-- Calls of the store do not fail. -/
  reached : w.reaches x = true
  /-- No task in flight of this kind, owner and target ends. -/
  lasting : ∀ t ∈ w.memory.tasks, Memory.isMatch k.loose t = true →
    ∀ u ∈ (w.step x).memory.tasks, u.id = t.id → u.status.isActive = true
  /-- Nobody else inserts a task of this kind, owner and target. -/
  alone : ∀ p ∈ w.inserts x, k.loose.finds p.2 = true → p.1 ∈ group
  /-- The identifiers of the group are unused. -/
  unused : ∀ p ∈ w.inserts x, p.1 ∈ group → w.memory.find? p.2.id = none

instance (k : WorkKey) (group : List Nat) (w : Workshop H) (x : Happening H) :
    Decidable (Meanwhile k group w x) :=
  decidable_of_iff (w.reaches x = true ∧
      (∀ t ∈ w.memory.tasks, Memory.isMatch k.loose t = true →
        ∀ u ∈ (w.step x).memory.tasks, u.id = t.id → u.status.isActive = true) ∧
      (∀ p ∈ w.inserts x, k.loose.finds p.2 = true → p.1 ∈ group) ∧
      ∀ p ∈ w.inserts x, p.1 ∈ group → (w.memory.find? p.2.id).isNone = true)
    ⟨fun h => ⟨h.1, h.2.1, h.2.2.1, fun p hp hg => Option.isNone_iff_eq_none.1 (h.2.2.2 p hp hg)⟩,
      fun h => ⟨h.reached, h.lasting, h.alone,
        fun p hp hg => Option.isNone_iff_eq_none.2 (h.unused p hp hg)⟩⟩

/-- The same at every moment of a run. -/
def Undisturbed (k : WorkKey) (group : List Nat) : Workshop H → List (Happening H) → Prop
  | _, [] => True
  | w, x :: xs => Meanwhile k group w x ∧ Undisturbed k group (w.step x) xs

instance decidableUndisturbed (k : WorkKey) (group : List Nat) :
    ∀ (w : Workshop H) (xs : List (Happening H)), Decidable (Undisturbed k group w xs)
  | _, [] => inferInstanceAs (Decidable True)
  | w, x :: xs =>
    have := decidableUndisturbed k group (w.step x) xs
    inferInstanceAs (Decidable (Meanwhile k group w x ∧ Undisturbed k group (w.step x) xs))

/-- How many tasks of the kind, owner and target of a key are stored. -/
def rows (k : WorkKey) (m : Memory) : Nat := m.tasks.countP k.loose.finds

/-! ## What others do -/

/-- Who inserts takes a turn. -/
theorem isTurnOf_of_inserts {x : Happening H} {i : Nat} {t : Task}
    (h : w.inserts x = some (i, t)) : x.isTurnOf i = true := by
  unfold inserts at h
  split at h
  · split at h
    · cases h
      exact beq_self_eq_true i
    · cases h
  · cases h

/-- The stored tasks after a step: each in its place, as it was or advanced, or with one insert
more. -/
theorem step_tasks (w : Workshop H) (x : Happening H) :
    (∃ f : Task → Task, (∀ t : Task, t.Advances (f t)) ∧
      (w.step x).memory.tasks = w.memory.tasks.map f) ∨
    ∃ i t, w.inserts x = some (i, t) ∧ (w.step x).memory.tasks = w.memory.tasks ++ [t] := by
  have hkeep : ∀ {ts : List Task}, ts = w.memory.tasks →
      ∃ f : Task → Task, (∀ t : Task, t.Advances (f t)) ∧ ts = w.memory.tasks.map f :=
    fun hts => ⟨id, fun _ => .stay, by rw [List.map_id, hts]⟩
  cases x with
  | arrive a => exact Or.inl (hkeep rfl)
  | switch online => exact Or.inl (hkeep rfl)
  | finish i outcome =>
      refine Or.inl (hkeep ?_)
      simp only [step]
      split <;> rfl
  | turn i now fresh fault =>
      simp only [step]
      cases hp : w.parties[i]? with
      | none => exact Or.inl (hkeep rfl)
      | some p =>
          simp only
          cases hm : p.move now fresh with
          | signal q => exact Or.inl (hkeep rfl)
          | rest => exact Or.inl (hkeep rfl)
          | call c next =>
              have heffect := Memory.effect_answer w.memory now fault c
              generalize hn : (w.memory.answer now fault c).1.tasks = ts at heffect
              cases heffect with
              | keep => exact Or.inl (hkeep hn)
              | rewrite advances => exact Or.inl ⟨_, advances, hn⟩
              | @add t free =>
                  refine Or.inr ⟨i, t, ?_, hn⟩
                  -- a task under a free identifier was inserted, and only submissions insert
                  have hfree : w.memory.find? t.id = none := by
                    rw [Memory.find?_none_iff]
                    exact fun u hu hid => free (Or.inl ⟨u, hu, hid⟩)
                  have hstored : (w.memory.answer now fault c).1.find? t.id = some t := by
                    rw [Memory.find?, hn, List.find?_append, ← Memory.find?, hfree]
                    simp
                  have hc := Memory.insert_of_find?_none hfree hstored
                  subst hc
                  have hasks := Party.asks_of_move hm
                  generalize (fun reply => (next reply).1) = goes at hasks
                  cases hasks with
                  | insert => rw [inserts, hp]

/-! ## The invariant -/

/-- Where a submission of a key may stand, by the identifier that has been agreed upon. -/
inductive Stands (k : WorkKey) : Option TaskId → Submit → Prop where
  | search {a : Option TaskId} {s : Submission} (key : s.key = k) : Stands k a (.search s)
  | insert {a : Option TaskId} {s : Submission} {t : Task} (key : s.key = k) (task : t.key = k)
      (queued : t.status = .queued) : Stands k a (.insert s t)
  | searchAgain {id : TaskId} {s : Submission} (key : s.key = k) :
      Stands k (some id) (.searchAgain s)
  | signal {t : Task} : Stands k (some t.id) (.signal t)
  | done {t : Task} : Stands k (some t.id) (.done (.ok t))

/-- Before anything is agreed upon, a submission stands where it may stand afterwards. -/
theorem Stands.of_none {k : WorkKey} {s : Submit} (h : Stands k none s) (a : Option TaskId) :
    Stands k a s := by
  cases h with
  | search key => exact .search key
  | insert key task queued => exact .insert key task queued

/-- An answer with a task agrees on it. -/
theorem Stands.answerWith (k : WorkKey) (t : Task) :
    Stands k (some t.id) (Submit.answerWith t) := by
  unfold Submit.answerWith
  split
  · exact .signal
  · exact .done

/-- Whether a submission is about to insert. -/
def Inserting (w : Workshop H) (i : Nat) : Prop :=
  ∃ s t, w.parties[i]? = some (.submit (.insert s t))

/-- A group of submissions of one key, and the identifier that it has agreed upon. -/
structure Agreed (k : WorkKey) (group : List Nat) (w : Workshop H) (a : Option TaskId) :
    Prop where
  found : (w.memory.oldestMatch? k).map Task.id = a
  members : ∀ i ∈ group, ∃ s, w.parties[i]? = some (.submit s) ∧ Stands k a s
  /-- An insert that is still to come will be refused. -/
  barred : a.isSome = true → ∀ i ∈ group, w.Inserting i →
    ∃ u ∈ w.memory.tasks, u.status.isActive = true ∧ u.key = k

/-- What one moment, or a run, adds to the store and to the agreement. -/
inductive Settles (k : WorkKey) (m n : Memory) : Option TaskId → Option TaskId → Prop where
  | stay {a : Option TaskId} (same : rows k n = rows k m) : Settles k m n a a
  | settle {id : TaskId} (more : rows k n = rows k m + 1) : Settles k m n none (some id)

variable {k : WorkKey} {group : List Nat} {a : Option TaskId}

theorem Settles.trans {l m n : Memory} {b c : Option TaskId} (h : Settles k l m a b)
    (h' : Settles k m n b c) : Settles k l n a c := by
  cases h with
  | stay same =>
      cases h' with
      | stay same' => exact .stay (same'.trans same)
      | settle more => exact .settle (more.trans (by rw [same]))
  | settle more =>
      cases h' with
      | stay same' => exact .settle (same'.trans more)

/-- One row is gained at most. -/
theorem Settles.gained {m n : Memory} {b : Option TaskId} (h : Settles k m n a b) :
    rows k n = rows k m ∨ rows k n = rows k m + 1 := by
  cases h with
  | stay same => exact Or.inl same
  | settle more => exact Or.inr more

/-- A member of the group goes on, and the store is as it was. -/
theorem Agreed.moved (h : Agreed k group w a) {w' : Workshop H} {i : Nat} {s' : Submit}
    (hi : i < w.parties.length) (hmemory : w'.memory = w.memory)
    (hparties : w'.parties = w.parties.set i (.submit s')) (hstands : Stands k a s')
    (hinsert : ∀ s t, s' = .insert s t → a = none) : Agreed k group w' a := by
  refine ⟨by rw [hmemory]; exact h.found, ?_, ?_⟩
  · intro j hj
    rw [hparties]
    by_cases hij : i = j
    · subst hij
      exact ⟨s', List.getElem?_set_self hi, hstands⟩
    · obtain ⟨s, hs, hst⟩ := h.members j hj
      exact ⟨s, (List.getElem?_set_ne hij).trans hs, hst⟩
  · rintro ha j hj ⟨s, t, hs⟩
    rw [hparties] at hs
    rw [hmemory]
    rcases getElem?_set_cases hs with ⟨_, heq⟩ | ⟨_, hold⟩
    · cases heq
      rw [hinsert s t rfl] at ha
      cases ha
    · exact h.barred ha j hj ⟨s, t, hold⟩

/-- The group waits while stored tasks advance and work of the key stays in flight. -/
theorem Agreed.advanced (h : Agreed k group w a) {w' : Workshop H}
    (hwaits : ∀ i ∈ group, w'.parties[i]? = w.parties[i]?) {f : Task → Task}
    (advances : ∀ t : Task, t.Advances (f t)) (htasks : w'.memory.tasks = w.memory.tasks.map f)
    (hlast : ∀ t ∈ w.memory.tasks, Memory.isMatch k.loose t = true →
      (f t).status.isActive = true) :
    Agreed k group w' a ∧ Settles k w.memory w'.memory a a := by
  have hloose : ∀ t, Memory.isMatch k t = true → Memory.isMatch k.loose t = true := by
    intro t ht
    rw [Memory.isMatch_iff] at ht ⊢
    exact ⟨ht.1, WorkKey.loose_finds ht.2⟩
  refine ⟨⟨?_, ?_, ?_⟩, .stay ?_⟩
  · rw [Memory.oldestMatch?_map advances htasks fun t ht hmatch => hlast t ht (hloose t hmatch),
      Option.map_map, ← h.found]
    congr 1
    funext t
    exact (advances t).id_eq
  · intro i hi
    rw [hwaits i hi]
    exact h.members i hi
  · rintro ha i hi ⟨s, t, hs⟩
    obtain ⟨u, hu, hactive, hkey⟩ := h.barred ha i hi ⟨s, t, (hwaits i hi).symm.trans hs⟩
    refine ⟨f u, htasks ▸ List.mem_map_of_mem hu, hlast u hu ?_, ?_⟩
    · exact hloose u (Memory.isMatch_iff.2 ⟨hactive, WorkKey.finds_of_key hkey⟩)
    · rw [(advances u).sameWork.key_eq, hkey]
  · rw [rows, htasks, List.countP_map, rows]
    congr 1
    funext t
    exact WorkKey.finds_sameWork (advances t).sameWork

/-- The group waits while other work is inserted. -/
theorem Agreed.extended (h : Agreed k group w a) {w' : Workshop H}
    (hwaits : ∀ i ∈ group, w'.parties[i]? = w.parties[i]?) {t : Task}
    (htasks : w'.memory.tasks = w.memory.tasks ++ [t]) (hother : k.loose.finds t = false) :
    Agreed k group w' a ∧ Settles k w.memory w'.memory a a := by
  have hunfound : k.finds t = false := by
    rw [← Bool.not_eq_true]
    intro hfinds
    rw [WorkKey.loose_finds hfinds] at hother
    cases hother
  refine ⟨⟨?_, ?_, ?_⟩, .stay ?_⟩
  · rw [Memory.oldestMatch?_append_other htasks hunfound]
    exact h.found
  · intro i hi
    rw [hwaits i hi]
    exact h.members i hi
  · rintro ha i hi ⟨s, t', hs⟩
    obtain ⟨u, hu, hactive, hkey⟩ := h.barred ha i hi ⟨s, t', (hwaits i hi).symm.trans hs⟩
    exact ⟨u, htasks ▸ List.mem_append_left _ hu, hactive, hkey⟩
  · rw [rows, htasks, List.countP_append, List.countP_singleton, hother,
      if_neg Bool.false_ne_true, rows, Nat.add_zero]

/-- Others take their turns, and the group waits. -/
theorem Agreed.others (h : Agreed k group w a) {x : Happening H} (hm : Meanwhile k group w x)
    (hx : ∀ i ∈ group, x.isTurnOf i = false) :
    Agreed k group (w.step x) a ∧ Settles k w.memory (w.step x).memory a a := by
  have hwaits : ∀ i ∈ group, (w.step x).parties[i]? = w.parties[i]? := by
    intro i hi
    obtain ⟨s, hs, _⟩ := h.members i hi
    rw [submit_stays (hx i hi) hs, hs]
  rcases w.step_tasks x with ⟨f, advances, htasks⟩ | ⟨i, t, hinsert, htasks⟩
  · refine h.advanced hwaits advances htasks ?_
    intro t ht hmatch
    refine hm.lasting t ht hmatch (f t) ?_ (advances t).id_eq
    rw [htasks]
    exact List.mem_map_of_mem ht
  · refine h.extended hwaits htasks ?_
    rw [← Bool.not_eq_true]
    intro hfinds
    have hturn := hx i (hm.alone (i, t) hinsert hfinds)
    rw [isTurnOf_of_inserts hinsert] at hturn
    cases hturn

/-- The search of a submission that reaches the store. -/
theorem step_search {i : Nat} {s : Submission} (hi : w.parties[i]? = some (.submit (.search s)))
    (hon : w.memory.online = true) (now : Instant) (fresh : TaskId) :
    (w.step (.turn i now fresh none)).memory = w.memory ∧
      (w.step (.turn i now fresh none)).parties = w.parties.set i
        (.submit (Submit.searched now fresh s (.ok (w.memory.oldestMatch? s.key))).1) := by
  simp only [step, hi, Party.move, Submit.move, Move.map, ask, Memory.answer_findActive hon]
  exact ⟨trivial, trivial⟩

/-- The second search of a submission that reaches the store. -/
theorem step_searchAgain {i : Nat} {s : Submission}
    (hi : w.parties[i]? = some (.submit (.searchAgain s))) (hon : w.memory.online = true)
    (now : Instant) (fresh : TaskId) :
    (w.step (.turn i now fresh none)).memory = w.memory ∧
      (w.step (.turn i now fresh none)).parties = w.parties.set i
        (.submit (Submit.searchedAgain (.ok (w.memory.oldestMatch? s.key))).1) := by
  simp only [step, hi, Party.move, Submit.move, Move.map, ask, Memory.answer_findActive hon]
  exact ⟨trivial, trivial⟩

/-- The insert of a submission. -/
theorem step_insert {i : Nat} {s : Submission} {t : Task}
    (hi : w.parties[i]? = some (.submit (.insert s t))) (now : Instant) (fresh : TaskId) :
    (w.step (.turn i now fresh none)).memory = (w.memory.exec now (.insert t)).1 ∧
      (w.step (.turn i now fresh none)).parties = w.parties.set i
        (.submit (Submit.inserted s t (w.memory.exec now (.insert t)).2).1) := by
  simp only [step, hi, Party.move, Submit.move, Move.map, ask, Memory.answer]
  exact ⟨trivial, trivial⟩

/-- A member of the group founds the agreement by its insert. -/
theorem Agreed.founded (h : Agreed k group w none) {w' : Workshop H} {i : Nat} {t : Task}
    (hi : i < w.parties.length) (htasks : w'.memory.tasks = w.memory.tasks ++ [t])
    (hparties : w'.parties = w.parties.set i (.submit (.signal t))) (ht : t.key = k)
    (hq : t.status = .queued) :
    Agreed k group w' (some t.id) ∧ Settles k w.memory w'.memory none (some t.id) := by
  have hnone : w.memory.oldestMatch? k = none := Option.map_eq_none_iff.1 h.found
  have hactive : t.status.isActive = true := by
    rw [hq]
    rfl
  have hfinds : k.finds t = true := WorkKey.finds_of_key ht
  refine ⟨⟨?_, ?_, ?_⟩, .settle ?_⟩
  · have hmatch := Memory.isMatch_iff.2 ⟨hactive, hfinds⟩
    rw [Memory.oldestMatch?_append_first htasks hnone hmatch]
    rfl
  · intro j hj
    rw [hparties]
    by_cases hij : i = j
    · subst hij
      exact ⟨_, List.getElem?_set_self hi, .signal⟩
    · obtain ⟨s, hs, hst⟩ := h.members j hj
      exact ⟨s, (List.getElem?_set_ne hij).trans hs, hst.of_none _⟩
  · intro _ j _ _
    exact ⟨t, htasks ▸ List.mem_append_right _ List.mem_cons_self, hactive, ht⟩
  · rw [rows, htasks, List.countP_append, List.countP_singleton, WorkKey.loose_finds hfinds,
      if_pos rfl, rows]

/-- A member of the group inserts. -/
theorem Agreed.inserted (h : Agreed k group w a) {i : Nat} (hg : i ∈ group) {s : Submission}
    {t : Task} (hi : w.parties[i]? = some (.submit (.insert s t))) (hs : s.key = k)
    (ht : t.key = k) (hq : t.status = .queued) (hon : w.memory.online = true)
    (hfree : w.memory.find? t.id = none) (now : Instant) (fresh : TaskId) :
    ∃ b, Agreed k group (w.step (.turn i now fresh none)) b ∧
      Settles k w.memory (w.step (.turn i now fresh none)).memory a b := by
  have hlt : i < w.parties.length := (List.getElem?_eq_some_iff.1 hi).1
  obtain ⟨hmemory, hparties⟩ := step_insert hi now fresh
  obtain ⟨hconflict, htaken⟩ := Memory.insert_reply hon now t
  cases a with
  | some id =>
      -- somebody was quicker, so the insert is refused
      obtain ⟨u, hu, hactive, hkey⟩ := h.barred rfl i hg ⟨s, t, hi⟩
      have hbars : Memory.Bars w.memory.tasks t := by
        refine Or.inr ⟨?_, u, hu, hactive, hkey.trans ht.symm⟩
        rw [hq]
        rfl
      obtain ⟨reason, hreply⟩ := hconflict.2 hbars
      have hkept : (w.memory.answer now none (.insert t)).1 = w.memory :=
        Memory.answer_error hreply
      have hsame := hmemory.trans hkept
      rw [hreply] at hparties
      refine ⟨_, h.moved hlt hsame hparties (.searchAgain hs) ?_, ?_⟩
      · intro s' t' heq
        cases heq
      · rw [hsame]
        exact .stay rfl
  | none =>
      have hnone : w.memory.oldestMatch? k = none := Option.map_eq_none_iff.1 h.found
      have hfits := Memory.not_bars_of_oldestMatch? (ht ▸ hnone) hfree
      have htasks : (w.step (.turn i now fresh none)).memory.tasks = w.memory.tasks ++ [t] := by
        rw [hmemory, Memory.exec_of_online hon, Memory.perform,
          Memory.collision?_eq_none_iff.2 hfits]
      rw [htaken.2 hfits] at hparties
      exact ⟨some t.id, h.founded hlt htasks hparties ht hq⟩

/-- A member of the group takes its turn. -/
theorem Agreed.turn (h : Agreed k group w a) {i : Nat} (hg : i ∈ group) {now : Instant}
    {fresh : TaskId} {fault : Option StoreError}
    (hm : Meanwhile k group w (.turn i now fresh fault)) :
    ∃ b, Agreed k group (w.step (.turn i now fresh fault)) b ∧
      Settles k w.memory (w.step (.turn i now fresh fault)).memory a b := by
  obtain ⟨p, hi, hstands⟩ := h.members i hg
  have hlt : i < w.parties.length := (List.getElem?_eq_some_iff.1 hi).1
  have hreached := hm.reached
  rw [reaches, Bool.and_eq_true, Option.isNone_iff_eq_none] at hreached
  obtain ⟨rfl, hon⟩ := hreached
  have hstay : ∀ {s' : Submit},
      (w.step (.turn i now fresh none)).memory = w.memory →
      (w.step (.turn i now fresh none)).parties = w.parties.set i (.submit s') →
      Stands k a s' → (∀ s t, s' = .insert s t → a = none) →
      ∃ b, Agreed k group (w.step (.turn i now fresh none)) b ∧
        Settles k w.memory (w.step (.turn i now fresh none)).memory a b := by
    intro s' hmemory hparties hst hinsert
    exact ⟨a, h.moved hlt hmemory hparties hst hinsert, by rw [hmemory]; exact .stay rfl⟩
  have hanswer : ∀ {t u : Task} {s : Submission}, Submit.answerWith u ≠ .insert s t := by
    intro t u s heq
    unfold Submit.answerWith at heq
    split at heq <;> cases heq
  cases hstands with
  | @search _ s key =>
      obtain ⟨hmemory, hparties⟩ := step_search hi hon now fresh
      subst key
      have hfound := h.found
      cases hr : w.memory.oldestMatch? s.key with
      | none =>
          rw [hr] at hparties hfound
          exact hstay hmemory hparties (.insert rfl (s.key_task fresh now) rfl)
            fun _ _ _ => hfound.symm
      | some t =>
          rw [hr] at hparties hfound
          subst hfound
          exact hstay hmemory hparties (.answerWith s.key t) fun _ _ heq => (hanswer heq).elim
  | @insert _ s t key task queued =>
      have hinserts : w.inserts (.turn i now fresh none) = some (i, t) := by rw [inserts, hi]
      exact h.inserted hg hi key task queued hon (hm.unused (i, t) hinserts hg) now fresh
  | @searchAgain id s key =>
      obtain ⟨hmemory, hparties⟩ := step_searchAgain hi hon now fresh
      subst key
      have hfound := h.found
      obtain ⟨t, hr, rfl⟩ := Option.map_eq_some_iff.1 hfound
      rw [hr] at hparties
      exact hstay hmemory hparties (.answerWith s.key t) fun _ _ heq => (hanswer heq).elim
  | @signal t =>
      have hgiven : w.step (.turn i now fresh none) =
          { w with parties := w.parties.set i (.submit (.done (.ok t))) } := by
        simp only [step, hi, Party.move, Submit.move, Move.map]
      rw [hgiven] at hstay ⊢
      exact hstay rfl rfl .done fun _ _ heq => by cases heq
  | @done t =>
      have hsame : w.step (.turn i now fresh none) = w := by
        simp only [step, hi, Party.move, Submit.move, Move.map]
      rw [hsame]
      exact ⟨_, h, .stay rfl⟩

/-- The identifier agreed upon, through one moment. -/
theorem Agreed.step (h : Agreed k group w a) {x : Happening H} (hm : Meanwhile k group w x) :
    ∃ b, Agreed k group (w.step x) b ∧ Settles k w.memory (w.step x).memory a b := by
  by_cases hx : ∃ i ∈ group, x.isTurnOf i = true
  · obtain ⟨i, hg, hturn⟩ := hx
    cases x with
    | turn j now fresh fault =>
        have hj : j = i := eq_of_beq hturn
        subst hj
        exact h.turn hg hm
    | arrive _ | finish _ _ | switch _ => cases hturn
  · refine ⟨a, h.others hm ?_⟩
    intro i hg
    rw [← Bool.not_eq_true]
    exact fun hturn => hx ⟨i, hg, hturn⟩

/-- The identifier agreed upon, through a run. -/
theorem Agreed.run (xs : List (Happening H)) : ∀ {w : Workshop H} {a : Option TaskId},
    Agreed k group w a → Undisturbed k group w xs →
    ∃ b, Agreed k group (w.after xs) b ∧ Settles k w.memory (w.after xs).memory a b := by
  induction xs with
  | nil =>
      intro w a h _
      exact ⟨a, h, .stay rfl⟩
  | cons x xs ih =>
      intro w a h hu
      obtain ⟨b, hb, hsettles⟩ := h.step hu.1
      obtain ⟨c, hc, hsettles'⟩ := ih hb hu.2
      exact ⟨c, hc, hsettles.trans hsettles'⟩

/-! ## The agreement -/

/-- A workshop after a group of submissions has arrived. -/
def joinedBy (w : Workshop H) (forms : List SubmissionForm) : Workshop H :=
  w.after (forms.map fun form => .arrive (.submit form))

theorem joinedBy_eq (w : Workshop H) (forms : List SubmissionForm) :
    w.joinedBy forms = { w with
      parties := w.parties ++ forms.map fun form => .submit (Submit.start form) } := by
  unfold joinedBy
  induction forms generalizing w with
  | nil =>
      rw [List.map_nil, List.map_nil, List.append_nil]
      rfl
  | cons form forms ih =>
      rw [List.map_cons, List.map_cons]
      refine (ih (w.step (.arrive (.submit form)))).trans ?_
      simp only [step, Arrival.party, List.append_assoc, List.singleton_append]

/-- The places of a group that arrives. -/
def placesOf (w : Workshop H) (forms : List SubmissionForm) : List Nat :=
  List.range' w.parties.length forms.length

/-- A submission of a key begins with its search. -/
theorem start_of_check {form : SubmissionForm}
    (h : (Submission.check form).map Submission.key = .ok k) :
    ∃ s, Submit.start form = .search s ∧ s.key = k := by
  unfold Submit.start
  cases hc : Submission.check form with
  | error e =>
      rw [hc] at h
      cases h
  | ok s =>
      rw [hc] at h
      exact ⟨s, rfl, Except.ok.inj h⟩

theorem joined_member {forms : List SubmissionForm}
    (hforms : ∀ form ∈ forms, (Submission.check form).map Submission.key = .ok k) {i : Nat}
    (hi : i ∈ w.placesOf forms) :
    ∃ s, (w.joinedBy forms).parties[i]? = some (.submit (.search s)) ∧ s.key = k := by
  obtain ⟨hle, hlt⟩ := List.mem_range'_1.1 hi
  obtain ⟨j, rfl⟩ := Nat.exists_eq_add_of_le hle
  have hj : j < forms.length := by omega
  obtain ⟨s, hs, hkey⟩ := start_of_check (hforms forms[j] (List.getElem_mem hj))
  refine ⟨s, ?_, hkey⟩
  rw [joinedBy_eq, List.getElem?_append_right hle, Nat.add_sub_cancel_left, List.getElem?_map,
    List.getElem?_eq_getElem hj, Option.map_some, hs]

/-- A group that has arrived has agreed upon the oldest match, if there is one. -/
theorem agreed_joined {forms : List SubmissionForm}
    (hforms : ∀ form ∈ forms, (Submission.check form).map Submission.key = .ok k) :
    Agreed k (w.placesOf forms) (w.joinedBy forms)
      ((w.memory.oldestMatch? k).map Task.id) where
  found := by rw [joinedBy_eq]
  members := by
    intro i hi
    obtain ⟨s, hs, hkey⟩ := joined_member hforms hi
    exact ⟨_, hs, .search hkey⟩
  barred := by
    rintro _ i hi ⟨s', t, ht⟩
    obtain ⟨s, hs, _⟩ := joined_member hforms hi
    rw [hs] at ht
    cases ht

/-- Whoever is answered has the task agreed upon. -/
theorem Agreed.answer (h : Agreed k group w a) {i : Nat} (hi : i ∈ group)
    {answer : Except TaskError Task} (ha : w.submitting i = some answer) :
    ∃ t, answer = .ok t ∧ a = some t.id := by
  obtain ⟨s, hs, hst⟩ := h.members i hi
  rw [submitting_eq_some_iff, hs] at ha
  cases ha
  cases hst with
  | @done t => exact ⟨t, rfl, rfl⟩

/-- Whoever has had four turns is answered. -/
theorem Agreed.answered (h : Agreed k group w a) {xs : List (Happening H)}
    (hafter : ∃ b, Agreed k group (w.after xs) b) {i : Nat} (hi : i ∈ group)
    (hturns : 4 ≤ xs.countP (Happening.isTurnOf i)) :
    ((w.after xs).submitting i).isSome = true := by
  obtain ⟨s, hs, _⟩ := h.members i hi
  obtain ⟨b, hb⟩ := hafter
  obtain ⟨s', hs', hst⟩ := hb.members i hi
  obtain ⟨q, hq, hle⟩ := movesLeft_after xs hs
  rw [hs'] at hq
  cases hq
  have hstart := Party.movesLeft_le (Party.submit s : Party H)
  have hzero : (Party.submit s' : Party H).movesLeft = 0 := by omega
  cases hst with
  | search _ | insert _ _ _ | searchAgain _ | signal => cases hzero
  | done => rw [submitting_eq_some_iff.2 hs', Option.isSome_some]

/-- What a group of submissions of one key is answered with on a run, and what it adds to the
store. -/
structure Agreement (k : WorkKey) (group : List Nat) (w : Workshop H) (xs : List (Happening H)) :
    Prop where
  /-- Everybody is answered who has had the turns for it. -/
  answered : ∀ i ∈ group, 4 ≤ xs.countP (Happening.isTurnOf i) →
    ((w.after xs).submitting i).isSome = true
  /-- Every answer is a task, and all are one task. -/
  same : ∀ i ∈ group, ∀ j ∈ group, ∀ a b, (w.after xs).submitting i = some a →
    (w.after xs).submitting j = some b → ∃ t u, a = .ok t ∧ b = .ok u ∧ t.id = u.id
  /-- One row is gained at most. -/
  most : rows k (w.after xs).memory = rows k w.memory ∨
    rows k (w.after xs).memory = rows k w.memory + 1
  /-- Where something matched, nothing is gained, and the answer is the oldest match. -/
  joined : ∀ t ∈ w.memory.tasks, Memory.isMatch k t = true →
    (∀ u ∈ w.memory.tasks, Memory.isMatch k u = true → u ≠ t → t.isBefore u = true) →
    rows k (w.after xs).memory = rows k w.memory ∧
      ∀ i ∈ group, ∀ u, (w.after xs).submitting i = some (.ok u) → u.id = t.id
  /-- Where nothing matched, one row is gained as soon as anybody is answered. -/
  founded : (∀ t ∈ w.memory.tasks, Memory.isMatch k t = false) →
    (∃ i ∈ group, ((w.after xs).submitting i).isSome = true) →
    rows k (w.after xs).memory = rows k w.memory + 1

/-- What the invariant comes to. -/
theorem Agreed.agreement (happart : Memory.Apart w.memory.tasks)
    (h : Agreed k group w ((w.memory.oldestMatch? k).map Task.id)) {xs : List (Happening H)}
    (hu : Undisturbed k group w xs) : Agreement k group w xs := by
  obtain ⟨b, hb, hsettles⟩ := h.run xs hu
  refine ⟨fun i hi hturns => h.answered ⟨b, hb⟩ hi hturns, ?_, ?_, ?_, ?_⟩
  · intro i hi j hj x y hx hy
    obtain ⟨t, rfl, ht⟩ := hb.answer hi hx
    obtain ⟨u, rfl, hu'⟩ := hb.answer hj hy
    exact ⟨t, u, rfl, rfl, Option.some.inj (ht.symm.trans hu')⟩
  · exact hsettles.gained
  · intro t ht hmatch hfirst
    have holdest := (Memory.oldestMatch?_eq_some_iff happart).2 ⟨ht, hmatch, hfirst⟩
    rw [holdest, Option.map_some] at hsettles
    cases hsettles with
    | stay same =>
        refine ⟨same, ?_⟩
        intro i hi u hu'
        obtain ⟨v, hv, hid⟩ := hb.answer hi hu'
        cases hv
        exact (Option.some.inj hid).symm
  · rintro hnone ⟨i, hi, hanswered⟩
    obtain ⟨x, hx⟩ := Option.isSome_iff_exists.1 hanswered
    obtain ⟨t, rfl, ht⟩ := hb.answer hi hx
    rw [Memory.oldestMatch?_eq_none_iff.2 hnone, Option.map_none, ht] at hsettles
    cases hsettles with
    | settle more => exact more

/-- **Submitters of one key agree.**  Whatever happened in a workshop before a group of submissions
of one key arrives, and whoever else acts while it is served, everybody is answered with one task,
as long as calls do not fail, work of the kind, owner and target neither ends nor is inserted by
others, and identifiers are unused. -/
theorem submitters_agree (es : List StoreEvent) (before xs : List (Happening H)) (k : WorkKey)
    (forms : List SubmissionForm)
    (hforms : ∀ form ∈ forms, (Submission.check form).map Submission.key = .ok k)
    (hu : Undisturbed k (((opened (Memory.empty.after es)).after before).placesOf forms)
      (((opened (Memory.empty.after es)).after before).joinedBy forms) xs) :
    Agreement k (((opened (Memory.empty.after es)).after before).placesOf forms)
      (((opened (Memory.empty.after es)).after before).joinedBy forms) xs := by
  have hsound := sound_after (H := H) es before
  have hmemory := congrArg Workshop.memory
    (joinedBy_eq ((opened (Memory.empty.after es)).after before) forms)
  have hagreed := agreed_joined (w := (opened (Memory.empty.after es)).after before) hforms
  refine Agreed.agreement ?_ ?_ hu
  · rw [hmemory]
    exact hsound.apart
  · rw [hmemory]
    exact hagreed

/-- The recognition of one invoice, asked for twice, with and without blanks around the texts. -/
def invoiceForms : List SubmissionForm :=
  [invoiceForm, ⟨" invoice_ocr", "u1 ", "u2", "\tinv1", some " "⟩]

/-- Both search, then both insert; the task of the first is claimed before the second looks
again. -/
def invoiceRace : List (Happening Unit) :=
  [.turn 0 .epoch (idOf 1) none, .turn 1 .epoch (idOf 2) none,
    .turn 0 .epoch (idOf 0) none, .turn 1 .epoch (idOf 0) none,
    .arrive (.attempt invoiceRegistry),
    .turn 2 .epoch (idOf 0) none, .turn 2 .epoch (idOf 0) none] ++
    threeTurns 0 (idOf 0) ++ threeTurns 1 (idOf 0)

/-- A workshop at an empty store, in which nothing has happened. -/
def newWorkshop : Workshop Unit := (opened (Memory.empty.after [])).after []

/-- The two who ask for one invoice agree, though both found nothing at first. -/
theorem submitters_of_invoice_agree :
    (∀ form ∈ invoiceForms,
      (Submission.check form).map Submission.key = .ok ⟨.invoiceOcr, "u1", "inv1", none⟩) ∧
    Undisturbed ⟨.invoiceOcr, "u1", "inv1", none⟩ (newWorkshop.placesOf invoiceForms)
      (newWorkshop.joinedBy invoiceForms) invoiceRace ∧
    Agreement ⟨.invoiceOcr, "u1", "inv1", none⟩ (newWorkshop.placesOf invoiceForms)
      (newWorkshop.joinedBy invoiceForms) invoiceRace :=
  ⟨by decide +kernel, by decide +kernel,
    submitters_agree [] [] invoiceRace _ invoiceForms (by decide +kernel) (by decide +kernel)⟩

end Workshop

end Backlog
