import Backlog.Proofs.Owner.Store
import Backlog.Proofs.Task.Check
import Backlog.Proofs.Workshop.Change
/-!
# Owners are isolated from each other

Two workshops that differ only in the tasks of other owners are run side by side: the same requests
of one owner arrive, take their turns in the same order, read the same clock, are given the same
identifiers and meet the same faults.  The invariant `Mirrors` says that after every step the two
stores are the same for the owner, that the tasks of everybody else are those of the beginning, and
that at every place the two parties are twins.

Twins stand at the same point, with one exception that the code makes on purpose.  A cancellation
that has changed nothing reads the task to say why, and that read does not ask for an owner.  Under
an identifier that is no task of the owner the answer is that there is no such task, or that it
cannot be canceled, and which of them it is tells whether somebody else has it (`Twins.apart`).

The requests need not come one after another.  They may overlap in any way, so a submission can also
lose the race for its key and search again, which is the only way to a conflict.

## Main results

* `Party.StandsFor.isFor` — a request made as an owner asks for the owner only.
* `Mirrors.step`, `Mirrors.after` — the invariant of one step and of a run.
* `owner_isolation` — what the owner sees, and what nobody else loses.
-/

namespace Backlog

variable {H : Type} {A : String} {F : List TaskId}

open Text

/-- A request is made as an owner: its owner is this one, but for outer blanks. -/
def Arrival.IsAs (A : String) : Arrival H → Prop
  | submit form => trim form.owner = A
  | cancel _ owner | lookup owner _ | listing owner _ _ => trim owner = A
  | attempt _ | sweep _ _ => False

namespace Happening

/-- Who arrives. -/
def arrival? : Happening H → Option (Arrival H)
  | arrive a => some a
  | _ => none

/-- The identifier that a turn can give to a new task. -/
def fresh? : Happening H → Option TaskId
  | turn _ _ fresh _ => some fresh
  | _ => none

end Happening

/-- The owner of a checked submission is the one of the form, without outer blanks. -/
theorem Submission.owner_of_check {form : SubmissionForm} {s : Submission}
    (h : check form = .ok s) : s.owner = trim form.owner := by
  obtain ⟨-, rfl⟩ := check_eq_ok_iff.1 h
  rfl

namespace Party

/-- The points at which a request made as an owner can stand. -/
inductive StandsFor (A : String) (F : List TaskId) : Arrival H → Party H → Prop where
  | search {form : SubmissionForm} {s : Submission} (owner : s.owner = A) :
      StandsFor A F (.submit form) (.submit (.search s))
  | insert {form : SubmissionForm} {s : Submission} (owner : s.owner = A) {id : TaskId}
      (fresh : id ∈ F) (now : Instant) :
      StandsFor A F (.submit form) (.submit (.insert s (s.task id now)))
  | searchAgain {form : SubmissionForm} {s : Submission} (owner : s.owner = A) :
      StandsFor A F (.submit form) (.submit (.searchAgain s))
  | signal {form : SubmissionForm} (t : Task) :
      StandsFor A F (.submit form) (.submit (.signal t))
  | submitted {form : SubmissionForm} (r : Except TaskError Task) :
      StandsFor A F (.submit form) (.submit (.done r))
  | write {idText owner : String} {id : TaskId} (read : TaskId.readTrimmed? idText = some id) :
      StandsFor A F (.cancel idText owner) (.cancel (.write id A))
  | reread {idText owner : String} {id : TaskId} (read : TaskId.readTrimmed? idText = some id) :
      StandsFor A F (.cancel idText owner) (.cancel (.reread id A))
  | canceled {idText owner : String} (r : Except TaskError Unit) :
      StandsFor A F (.cancel idText owner) (.cancel (.done r))
  | lookup {owner idText : String} (id : TaskId) :
      StandsFor A F (.lookup owner idText) (.lookup (.read A id))
  | lookedUp {owner idText : String} (r : Except TaskError Task) :
      StandsFor A F (.lookup owner idText) (.lookup (.done r))
  | listing {owner : String} {status : Option Status} {limit : Nat} :
      StandsFor A F (.listing owner status limit) (.listing (.read A status limit))
  | listed {owner : String} {status : Option Status} {limit : Nat}
      (r : Except TaskError (List Task)) :
      StandsFor A F (.listing owner status limit) (.listing (.done r))

/-- A request made as an owner begins at such a point. -/
theorem standsFor_arrives {a : Arrival H} (h : a.IsAs A) : StandsFor A F a a.party := by
  cases a with
  | submit form =>
      simp only [Arrival.party, Submit.start]
      cases hc : Submission.check form with
      | error e => exact .submitted _
      | ok s => exact .search ((Submission.owner_of_check hc).trans h)
  | cancel idText owner =>
      have howner : trim owner = A := h
      simp only [Arrival.party, Cancel.start, howner]
      split
      · exact .canceled _
      · split
        · exact .canceled _
        · next id hread => exact .write hread
  | lookup owner idText =>
      have howner : trim owner = A := h
      simp only [Arrival.party, Lookup.start, howner]
      split
      · exact .lookedUp _
      · split
        · exact .lookedUp _
        · exact .lookup _
  | listing owner status limit =>
      have howner : trim owner = A := h
      simp only [Arrival.party, Listing.start, howner]
      split
      · exact .listed _
      · exact .listing
  | attempt registry => exact h.elim
  | sweep now limit => exact h.elim

namespace StandsFor

variable {a : Arrival H} {p : Party H} {now : Instant} {fresh : TaskId} {c : StoreCall}
  {next : c.Reply → Party H}

/-- A request made as an owner asks for the owner only. -/
theorem isFor (h : StandsFor A F a p) (asks : p.Asks now fresh c next) : c.IsFor A F := by
  cases asks with
  | search =>
      cases h with
      | search owner => exact .findActive owner
  | searchAgain =>
      cases h with
      | searchAgain owner => exact .findActive owner
  | insert =>
      cases h with
      | insert owner fresh _ => exact .insert owner fresh
  | cancelWrite =>
      cases h with
      | write _ => exact .cancel _
  | cancelRead => exact .get _
  | lookup =>
      cases h with
      | lookup _ => exact .getForOwner _
  | listing =>
      cases h with
      | listing => exact .listForOwner _ _
  | poll | claim | recheck | complete | sweep => cases h

theorem answerWith {form : SubmissionForm} (t : Task) :
    StandsFor A F (.submit form : Arrival H) (.submit (.answerWith t)) := by
  unfold Submit.answerWith
  split
  · exact .signal t
  · exact .submitted _

/-- Whatever the reply, the request goes on to such a point. -/
theorem follows (h : StandsFor A F a p) (asks : p.Asks now fresh c next) (hfresh : fresh ∈ F)
    (reply : c.Reply) : StandsFor A F a (next reply) := by
  cases asks with
  | search =>
      cases h with
      | search owner =>
          rcases reply with e | _ | t
          · exact .submitted _
          · exact .insert owner hfresh now
          · exact answerWith t
  | insert =>
      cases h with
      | insert owner _ _ =>
          rcases reply with (_ | _ | _) | _
          · exact .submitted _
          · exact .searchAgain owner
          · exact .submitted _
          · exact .signal _
  | searchAgain =>
      cases h with
      | searchAgain _ =>
          rcases reply with e | _ | t
          · exact .submitted _
          · exact .submitted _
          · exact answerWith t
  | cancelWrite =>
      cases h with
      | write read =>
          rcases reply with e | rows
          · exact .canceled _
          · simp only [Cancel.written]
            split
            · exact .canceled _
            · exact .reread read
  | cancelRead =>
      cases h with
      | reread _ =>
          rcases reply with e | _ | t
          · exact .canceled _
          · exact .canceled _
          · simp only [Cancel.read]
            split <;> exact .canceled _
  | lookup =>
      cases h with
      | lookup _ => rcases reply with e | _ | t <;> exact .lookedUp _
  | listing =>
      cases h with
      | listing => rcases reply with e | ts <;> exact .listed _
  | poll | claim | recheck | complete | sweep => cases h

end StandsFor

/-- A cancellation was told that there is no such task, or that it cannot be canceled. -/
inductive IsRefused : Party H → Prop where
  | notFound : IsRefused (.cancel (.done (.error .notFound)))
  | notCancelable : IsRefused (.cancel (.done (.error .notCancelable)))

end Party

/-- Somebody else has a task under an identifier in one of two stores. -/
def Memory.Elsewhere (A : String) (m n : Memory) (id : TaskId) : Prop :=
  ∃ t, (t ∈ m.tasksOfOthers A ∨ t ∈ n.tasksOfOthers A) ∧ t.id = id

/-- Two parties that one arrival has become over two stores: they stand at one point, or are
cancellations of somebody else's task that were refused. -/
inductive Twins (A : String) (F : List TaskId) (m n : Memory) :
    Arrival H → Party H → Party H → Prop where
  | same {a : Arrival H} {p : Party H} (stands : p.StandsFor A F a) : Twins A F m n a p p
  | apart {idText owner : String} {id : TaskId} {p q : Party H}
      (read : TaskId.readTrimmed? idText = some id) (elsewhere : Memory.Elsewhere A m n id)
      (left : p.IsRefused) (right : q.IsRefused) : Twins A F m n (.cancel idText owner) p q

namespace Memory

variable {m n : Memory}

/-- The second look of a cancellation refuses a task that is not the caller's, or is not there. -/
theorem isRefused_read {id : TaskId} {o : Option Task} (h : ∀ t, o = some t → t.owner ≠ A) :
    (Party.cancel (Cancel.read id A (.ok o)).1 : Party H).IsRefused := by
  cases o with
  | none => exact .notFound
  | some t =>
      rw [Cancel.read, if_neg fun hcanceled => h t rfl hcanceled.1]
      exact .notCancelable

/-- Where a read by identifier tells apart two stores that are the same for the owner, somebody else
has the task in one of them, and a cancellation is refused over both. -/
theorem SameFor.reply_get (h : SameFor A F m n) (id : TaskId) (now : Instant)
    (fault : Option StoreError) :
    (m.answer now fault (.get id)).2 = (n.answer now fault (.get id)).2 ∨
      (Elsewhere A m n id ∧
        (Party.cancel (Cancel.read id A (m.answer now fault (.get id)).2).1 : Party H).IsRefused ∧
        (Party.cancel (Cancel.read id A (n.answer now fault (.get id)).2).1 :
          Party H).IsRefused) := by
  cases fault with
  | some e => exact Or.inl rfl
  | none =>
      rw [Memory.answer, Memory.answer]
      cases hon : m.online with
      | false => exact Or.inl (by rw [exec_offline hon, exec_offline (h.online ▸ hon)])
      | true =>
          rw [exec_of_online hon, exec_of_online (h.online ▸ hon)]
          rcases h.find?_cases id with ⟨t, -, hm, hn⟩ | ⟨hm, hn⟩
          · exact Or.inl (congrArg Except.ok (hm.trans hn.symm))
          · by_cases hnone : m.find? id = none ∧ n.find? id = none
            · exact Or.inl (congrArg Except.ok (hnone.1.trans hnone.2.symm))
            · refine Or.inr ⟨?_, isRefused_read hm, isRefused_read hn⟩
              rw [not_and_or, ← ne_eq, ← ne_eq, Option.ne_none_iff_exists',
                Option.ne_none_iff_exists'] at hnone
              rcases hnone with ⟨t, ht⟩ | ⟨t, ht⟩
              · exact ⟨t, Or.inl (mem_tasksOfOthers.2 ⟨(find?_some ht).1, hm t ht⟩),
                  (find?_some ht).2⟩
              · exact ⟨t, Or.inr (mem_tasksOfOthers.2 ⟨(find?_some ht).1, hn t ht⟩),
                  (find?_some ht).2⟩

end Memory

/-- Twins that ask two stores that are the same for the owner are twins afterwards. -/
theorem Party.StandsFor.twins {m n : Memory} {a : Arrival H} {p : Party H} {now : Instant}
    {fresh : TaskId} {c : StoreCall} {next : c.Reply → Party H} (h : p.StandsFor A F a)
    (asks : p.Asks now fresh c next) (hfresh : fresh ∈ F) (hsame : Memory.SameFor A F m n)
    (fault : Option StoreError) :
    Twins A F m n a (next (m.answer now fault c).2) (next (n.answer now fault c).2) := by
  have hfollows := h.follows asks hfresh
  have hsameReply : (m.answer now fault c).2 = (n.answer now fault c).2 →
      Twins A F m n a (next (m.answer now fault c).2) (next (n.answer now fault c).2) := by
    intro hreply
    rw [hreply]
    exact .same (hfollows _)
  cases asks with
  | @search s =>
      cases h with
      | search owner => exact hsameReply (hsame.reply_findActive (k := s.key) owner now fault)
  | @insert s t =>
      cases h with
      | @insert _ _ owner id fresh created =>
          rcases hsame.reply_insert (t := s.task id created) owner fresh now fault with
            hreply | hreply
          · exact hsameReply hreply
          · generalize (m.answer now fault (.insert (s.task id created))).2 = x at hreply
            generalize (n.answer now fault (.insert (s.task id created))).2 = y at hreply
            cases hreply with
            | ok _ => exact .same (hfollows _)
            | conflict _ _ => exact .same (.searchAgain owner)
  | @searchAgain s =>
      cases h with
      | searchAgain owner => exact hsameReply (hsame.reply_findActive (k := s.key) owner now fault)
  | @cancelWrite id owner =>
      cases h with
      | write _ => exact hsameReply (hsame.reply_cancel id now fault)
  | @cancelRead id owner =>
      cases h with
      | reread read =>
          rcases hsame.reply_get (H := H) id now fault with hreply | ⟨helsewhere, hleft, hright⟩
          · exact hsameReply hreply
          · exact .apart read helsewhere hleft hright
  | @lookup owner id =>
      cases h with
      | lookup _ => exact hsameReply (hsame.reply_getForOwner id now fault)
  | @listing owner status limit =>
      cases h with
      | listing => exact hsameReply (hsame.reply_listForOwner status limit now fault)
  | poll | claim | recheck | complete | sweep => cases h

namespace Workshop

open Memory Happening

variable {m n : Memory} {as : List (Arrival H)} {w v : Workshop H}

/-- Two workshops that an owner cannot tell apart.  They began with the stores `m` and `n`, and `as`
is who has arrived. -/
structure Mirrors (A : String) (F : List TaskId) (m n : Memory) (as : List (Arrival H))
    (w v : Workshop H) : Prop where
  memory : SameFor A F w.memory v.memory
  others : w.memory.tasksOfOthers A = m.tasksOfOthers A
  others' : v.memory.tasksOfOthers A = n.tasksOfOthers A
  length : w.parties.length = as.length
  length' : v.parties.length = as.length
  twins : ∀ (i : Nat) (a : Arrival H), as[i]? = some a →
    ∃ p q, w.parties[i]? = some p ∧ v.parties[i]? = some q ∧ Twins A F m n a p q

namespace Mirrors

/-- Twins at one place are exchanged. -/
theorem exchange (h : Mirrors A F m n as w v) {i : Nat} {a : Arrival H} (ha : as[i]? = some a)
    {p q : Party H} (hpq : Twins A F m n a p q) (j : Nat) (b : Arrival H)
    (hb : as[j]? = some b) :
    ∃ p' q', (w.parties.set i p)[j]? = some p' ∧ (v.parties.set i q)[j]? = some q' ∧
      Twins A F m n b p' q' := by
  by_cases hj : j = i
  · subst hj
    have hlt : j < as.length := (List.getElem?_eq_some_iff.1 ha).1
    rw [ha] at hb
    cases hb
    refine ⟨p, q, ?_, ?_, hpq⟩
    · exact List.getElem?_set_self (h.length ▸ hlt)
    · exact List.getElem?_set_self (h.length' ▸ hlt)
  · rw [List.getElem?_set_ne (Ne.symm hj), List.getElem?_set_ne (Ne.symm hj)]
    exact h.twins j b hb

theorem arrive (h : Mirrors A F m n as w v) {a : Arrival H} (ha : a.IsAs A) :
    Mirrors A F m n (as ++ [a]) (w.step (.arrive a)) (v.step (.arrive a)) := by
  refine ⟨h.memory, h.others, h.others', ?_, ?_, ?_⟩
  · simp only [step, List.length_append, h.length, List.length_singleton]
  · simp only [step, List.length_append, h.length', List.length_singleton]
  · intro i b hb
    rcases getElem?_append_cases hb with ⟨rfl, rfl⟩ | hold
    · refine ⟨b.party, b.party, ?_, ?_, .same (Party.standsFor_arrives ha)⟩
      · rw [step, ← h.length, List.getElem?_concat_length]
      · rw [step, ← h.length', List.getElem?_concat_length]
    · obtain ⟨p, q, hp, hq, hpq⟩ := h.twins i b hold
      refine ⟨p, q, ?_, ?_, hpq⟩
      · exact List.getElem?_append_left (List.getElem?_eq_some_iff.1 hp).1 ▸ hp
      · exact List.getElem?_append_left (List.getElem?_eq_some_iff.1 hq).1 ▸ hq

/-- A turn of twins. -/
theorem turn (h : Mirrors A F m n as w v) (i : Nat) (now : Instant) {fresh : TaskId}
    (hfresh : fresh ∈ F) (fault : Option StoreError) :
    Mirrors A F m n as (w.step (.turn i now fresh fault)) (v.step (.turn i now fresh fault)) := by
  cases ha : as[i]? with
  | none =>
      have hle : as.length ≤ i := List.getElem?_eq_none_iff.1 ha
      simp only [step, List.getElem?_eq_none (h.length.symm ▸ hle),
        List.getElem?_eq_none (h.length'.symm ▸ hle)]
      exact h
  | some a =>
      obtain ⟨p, q, hp, hq, hpq⟩ := h.twins i a ha
      simp only [step, hp, hq]
      cases hpq with
      | apart _ _ left right =>
          cases left <;> cases right <;> exact h
      | same stands =>
          cases hmove : p.move now fresh with
          | rest => exact h
          | signal s =>
              obtain ⟨t, rfl, rfl⟩ := Party.signal_of_move hmove
              have hdone : Twins A F m n a (.submit (.done (.ok t))) (.submit (.done (.ok t))) := by
                cases stands with
                | signal _ => exact .same (.submitted _)
              exact ⟨h.memory, h.others, h.others', List.length_set.trans h.length,
                List.length_set.trans h.length', h.exchange ha hdone⟩
          | call c next =>
              have asks := Party.asks_of_move hmove
              have hfor := stands.isFor asks
              have htwins := stands.twins asks hfresh h.memory fault
              have helsewhere : ∀ id, Elsewhere A w.memory v.memory id → Elsewhere A m n id := by
                intro id hid
                rwa [Elsewhere, h.others, h.others'] at hid
              refine ⟨h.memory.answer hfor now fault, ?_, ?_, ?_, ?_, h.exchange ha ?_⟩
              · exact (others_answer hfor w.memory now fault).trans h.others
              · exact (others_answer hfor v.memory now fault).trans h.others'
              · exact List.length_set.trans h.length
              · exact List.length_set.trans h.length'
              · show Twins A F m n a (next (w.memory.answer now fault c).2).1
                  (next (v.memory.answer now fault c).2).1
                generalize (next (w.memory.answer now fault c).2).1 = p' at htwins ⊢
                generalize (next (v.memory.answer now fault c).2).1 = q' at htwins ⊢
                cases htwins with
                | same stands => exact .same stands
                | apart read elsewhere left right =>
                    exact .apart read (helsewhere _ elsewhere) left right

/-- No request of an owner has a handler that could end. -/
theorem finish (h : Mirrors A F m n as w v) (i : Nat) (outcome : HandlerOutcome) :
    Mirrors A F m n as (w.step (.finish i outcome)) (v.step (.finish i outcome)) := by
  have hquiet : ∀ (u : Workshop H), u.parties.length = as.length →
      (∀ a, as[i]? = some a → ∃ p, u.parties[i]? = some p ∧
        ∀ r t k, p ≠ .attempt r (.handle t k)) → u.step (.finish i outcome) = u := by
    intro u hlength hparty
    simp only [step]
    split
    · next r t k hp =>
        cases ha : as[i]? with
        | none =>
            have hle : as.length ≤ i := List.getElem?_eq_none_iff.1 ha
            rw [List.getElem?_eq_none (hlength ▸ hle)] at hp
            cases hp
        | some a =>
            obtain ⟨p, hp', hne⟩ := hparty a ha
            rw [hp] at hp'
            exact absurd (Option.some.inj hp').symm (hne r t k)
    · rfl
  have hne : ∀ {a : Arrival H} {p q : Party H}, Twins A F m n a p q →
      (∀ r t k, p ≠ .attempt r (.handle t k)) ∧ ∀ r t k, q ≠ .attempt r (.handle t k) := by
    intro a p q hpq
    cases hpq with
    | same stands =>
        have hidle : ∀ r t k, p ≠ .attempt r (.handle t k) := by
          rintro r t k rfl
          cases stands
        exact ⟨hidle, hidle⟩
    | apart _ _ left right =>
        refine ⟨?_, ?_⟩
        · rintro r t k rfl
          cases left
        · rintro r t k rfl
          cases right
  rw [hquiet w h.length, hquiet v h.length']
  · exact h
  · intro a ha
    obtain ⟨p, q, -, hq, hpq⟩ := h.twins i a ha
    exact ⟨q, hq, (hne hpq).2⟩
  · intro a ha
    obtain ⟨p, q, hp, -, hpq⟩ := h.twins i a ha
    exact ⟨p, hp, (hne hpq).1⟩

/-- Whatever happens to both workshops, the owner cannot tell them apart afterwards. -/
theorem step (h : Mirrors A F m n as w v) {x : Happening H}
    (hby : ∀ a ∈ x.arrival?, a.IsAs A) (hfresh : ∀ id ∈ x.fresh?, id ∈ F) :
    Mirrors A F m n (as ++ x.arrival?.toList) (w.step x) (v.step x) := by
  cases x with
  | arrive a => exact h.arrive (hby a rfl)
  | turn i now fresh fault =>
      show Mirrors A F m n (as ++ []) _ _
      rw [List.append_nil]
      exact h.turn i now (hfresh fresh rfl) fault
  | finish i outcome =>
      show Mirrors A F m n (as ++ []) _ _
      rw [List.append_nil]
      exact h.finish i outcome
  | switch online =>
      show Mirrors A F m n (as ++ []) _ _
      rw [List.append_nil]
      exact ⟨⟨rfl, h.memory.ids, h.memory.ids', h.memory.own, h.memory.fresh, h.memory.fresh'⟩,
        h.others, h.others', h.length, h.length', h.twins⟩

/-- What a list yields is what its head yields and then the rest. -/
theorem filterMap_cons_toList {α β : Type} (f : α → Option β) (x : α) (xs : List α) :
    (x :: xs).filterMap f = (f x).toList ++ xs.filterMap f := by
  rw [List.filterMap_cons]
  cases f x <;> rfl

/-- The same through a run. -/
theorem after (xs : List (Happening H)) (h : Mirrors A F m n as w v)
    (hby : ∀ a ∈ xs.filterMap arrival?, a.IsAs A) (hfresh : ∀ id ∈ xs.filterMap fresh?, id ∈ F) :
    Mirrors A F m n (as ++ xs.filterMap arrival?) (w.after xs) (v.after xs) := by
  induction xs generalizing as w v with
  | nil =>
      rw [List.filterMap_nil, List.append_nil]
      exact h
  | cons x xs ih =>
      rw [filterMap_cons_toList] at hby hfresh ⊢
      rw [List.forall_mem_append] at hby hfresh
      have hx := h.step (x := x) (fun a ha => hby.1 a (Option.mem_toList.2 ha))
        (fun id hid => hfresh.1 id (Option.mem_toList.2 hid))
      rw [← List.append_assoc]
      exact ih hx hby.2 hfresh.2

/-- No task of the owner is stored under an identifier that somebody else has. -/
theorem owner_of_elsewhere (h : Mirrors A F m n as w v) {id : TaskId}
    (hid : Elsewhere A m n id) {t : Task} (ht : t.id = id) (howner : t.owner = A) :
    t ∉ w.memory.tasks ∧ t ∉ v.memory.tasks := by
  have hone : ∀ {l : Memory} {u : Task}, (l.tasks.map Task.id).Nodup → u ∈ l.tasksOfOthers A →
      u.id = id → t ∉ l.tasks := by
    intro l u hids hu huid hmem
    obtain ⟨hul, hne⟩ := mem_tasksOfOthers.1 hu
    rw [List.inj_on_of_nodup_map hids hul hmem (huid.trans ht.symm)] at hne
    exact hne howner
  have hboth : t ∈ w.memory.tasks ↔ t ∈ v.memory.tasks := h.memory.mem_iff howner
  obtain ⟨u, hu, huid⟩ := hid
  rw [← h.others, ← h.others'] at hu
  rcases hu with hw | hv
  · have hnot := hone h.memory.ids hw huid
    exact ⟨hnot, mt hboth.2 hnot⟩
  · have hnot := hone h.memory.ids' hv huid
    exact ⟨mt hboth.1 hnot, hnot⟩

end Mirrors

/-- The way in which one request can come out differently in two workshops: it cancels under an
identifier that is no task of the owner, and is told in one that there is no such task, in the other
that it cannot be canceled. -/
def CancelsElsewhere (A : String) (w v : Workshop H) (a : Arrival H) (p q : Party H) : Prop :=
  ∃ idText owner id, a = .cancel idText owner ∧ TaskId.readTrimmed? idText = some id ∧
    (∀ t, t.id = id → t.owner = A → t ∉ w.memory.tasks ∧ t ∉ v.memory.tasks) ∧
    p.IsRefused ∧ q.IsRefused

/-- **Owners are isolated.**  Two stores hold the same tasks of an owner and any other tasks, and
the same requests of that owner are made of both, in any order of turns, at the same readings of the
clock, with the same faults and with new identifiers that neither store has.  Then the stores hold
the same tasks of the owner, the tasks of everybody else are untouched in both, and every request
stands at the same point with the same answer; only a cancellation under an identifier that is no
task of the owner may be refused in two ways. -/
theorem owner_isolation {A : String} {m n : Memory} (hm : (m.tasks.map Task.id).Nodup)
    (hn : (n.tasks.map Task.id).Nodup) (honline : m.online = n.online)
    (hown : (m.tasksOf A).Perm (n.tasksOf A)) (xs : List (Happening H))
    (hby : ∀ a ∈ xs.filterMap arrival?, a.IsAs A)
    (hfresh : ∀ id ∈ xs.filterMap fresh?, m.find? id = none ∧ n.find? id = none) :
    let w := (opened m : Workshop H).after xs
    let v := (opened n : Workshop H).after xs
    (w.memory.tasksOf A).Perm (v.memory.tasksOf A) ∧
    w.memory.tasksOfOthers A = m.tasksOfOthers A ∧
    v.memory.tasksOfOthers A = n.tasksOfOthers A ∧
    ∀ (i : Nat) (a : Arrival H), (xs.filterMap arrival?)[i]? = some a →
      ∃ p q, w.parties[i]? = some p ∧ v.parties[i]? = some q ∧
        (p = q ∨ CancelsElsewhere A w v a p q) := by
  intro w v
  have hunused : ∀ l : Memory, (∀ id ∈ xs.filterMap fresh?, l.find? id = none) →
      ∀ t ∈ l.tasks, t.id ∈ xs.filterMap fresh? → t.owner = A := by
    intro l hl t ht hid
    exact absurd rfl (find?_none_iff.1 (hl t.id hid) t ht)
  have hopened : Mirrors A (xs.filterMap fresh?) m n [] (opened m : Workshop H) (opened n) :=
    { memory := ⟨honline, hm, hn, hown, hunused m fun id hid => (hfresh id hid).1,
        hunused n fun id hid => (hfresh id hid).2⟩
      others := rfl
      others' := rfl
      length := rfl
      length' := rfl
      twins := by
        intro i a ha
        cases ha }
  have hafter := hopened.after xs hby fun id hid => hid
  refine ⟨hafter.memory.own, hafter.others, hafter.others', fun i a ha => ?_⟩
  obtain ⟨p, q, hp, hq, hpq⟩ := hafter.twins i a ha
  refine ⟨p, q, hp, hq, ?_⟩
  cases hpq with
  | same _ => exact Or.inl rfl
  | apart read elsewhere left right =>
      exact Or.inr ⟨_, _, _, rfl, read,
        fun t ht howner => hafter.owner_of_elsewhere elsewhere ht howner, left, right⟩

/-! ## A cancellation across owners -/

/-- A store with a task of `u1` and one of `u2`. -/
def twoOwners : Memory :=
  ⟨[invoiceTask .queued, { invoiceTask .queued with id := idOf 8, owner := "u2" }], true⟩

/-- The same without `u2`. -/
def oneOwner : Memory := ⟨[invoiceTask .queued], true⟩

/-- `u1` tries to cancel the task of `u2`. -/
def cancelAcross : List (Happening Unit) :=
  [ .arrive (.cancel (idOf 8).text " u1"), .turn 0 .epoch (idOf 9) none,
    .turn 0 .epoch (idOf 9) none ]

/-- The owner `u1` cannot tell the two stores apart but by such an attempt. -/
theorem owner_isolation_of_cancelAcross :
    let w := (opened twoOwners).after cancelAcross
    let v := (opened oneOwner).after cancelAcross
    (w.memory.tasksOf "u1").Perm (v.memory.tasksOf "u1") ∧
    w.memory.tasksOfOthers "u1" = twoOwners.tasksOfOthers "u1" ∧
    v.memory.tasksOfOthers "u1" = oneOwner.tasksOfOthers "u1" ∧
    ∀ (i : Nat) (a : Arrival Unit), (cancelAcross.filterMap arrival?)[i]? = some a →
      ∃ p q, w.parties[i]? = some p ∧ v.parties[i]? = some q ∧
        (p = q ∨ CancelsElsewhere "u1" w v a p q) := by
  have hown : (twoOwners.tasksOf "u1").Perm (oneOwner.tasksOf "u1") :=
    List.Perm.refl [invoiceTask .queued]
  have hby : ∀ a ∈ cancelAcross.filterMap arrival?, a.IsAs "u1" :=
    List.forall_mem_singleton.2 (by decide +kernel : trim " u1" = "u1")
  have hfresh : ∀ id ∈ cancelAcross.filterMap fresh?,
      twoOwners.find? id = none ∧ oneOwner.find? id = none :=
    List.forall_mem_cons.2 ⟨⟨rfl, rfl⟩, List.forall_mem_singleton.2 ⟨rfl, rfl⟩⟩
  exact owner_isolation (m := twoOwners) (n := oneOwner) (by decide) (by decide) rfl hown
    cancelAcross hby hfresh

/-- The answers to it are different. -/
example :
    [twoOwners, oneOwner].map (fun m =>
      ((opened m : Workshop Unit).after cancelAcross).parties.map fun
        | .cancel c => c.answer?
        | _ => none) =
      [[some (.error .notCancelable)], [some (.error .notFound)]] := by
  decide +kernel

end Workshop

end Backlog
