import Backlog.Proofs.Gate.Order
/-!
# Who gets no slot is not noticed

An attempt that waits and is handed no slot takes a place in the queue of its class, and nothing
else.  Take it out of the queue, with the notes on it, and everything that anybody else does comes
to the same (`Vigil.step_without`): whether a slot is free does not depend on who queues, and a slot
that is given back goes to the same ticket, since it does not go to this one.  Whatever the attempt
does itself, be it that it ends, leaves the others where they are without it (`Vigil.step_about`).

Over a run this says that all others fare as if the attempt had never queued, or had left at any
moment of its wait; the one thing it has had is a ticket.

## Main results

* `Vigil.after_without` — a run without an attempt that is handed no slot comes to the same.
-/

namespace Backlog

/-- The slots without a ticket that queues. -/
def Slots.without (s : Slots) (t : Nat) : Slots :=
  { s with queue := s.queue.filter fun u => u != t }

namespace Slots

variable {s : Slots} {t u : Nat}

@[simp] theorem isGranted_without (s : Slots) (t u : Nat) :
    (s.without t).isGranted u = s.isGranted u := rfl

theorem without_redeem (s : Slots) (t u : Nat) :
    (s.without t).redeem u = (s.redeem u).without t := rfl

theorem without_take? (s : Slots) (t : Nat) : (s.without t).take? = s.take?.map (·.without t) := by
  unfold take?
  by_cases hf : 0 < s.free <;> simp [without, hf]

theorem without_enqueue (h : u ≠ t) : (s.without t).enqueue u = (s.enqueue u).without t := by
  simp [without, enqueue, h]

/-- A slot given back goes to the same ticket, whether another one queues or not. -/
theorem without_release (h : t ∉ s.release.granted) :
    (s.without t).release = s.release.without t := by
  cases hq : s.queue with
  | nil =>
      rw [release_nil hq, release_nil (by simp [without, hq])]
      simp [without, hq]
  | cons u us =>
      rw [release_cons hq] at h ⊢
      have hne : u ≠ t := by
        rintro rfl
        exact h (List.mem_append_right _ (List.mem_singleton_self _))
      have hq' : (s.without t).queue = u :: us.filter fun v => v != t := by
        simp [without, hq, hne]
      rw [release_cons hq']
      rfl

theorem without_leave (h : t ∉ (s.leave u).granted) :
    (s.without t).leave u = (s.leave u).without t := by
  cases hg : s.isGranted u with
  | true =>
      rw [leave_of_granted hg] at h ⊢
      have hg' : (s.without t).isGranted u = true := hg
      rw [leave_of_granted hg', ← without_release h]
      rfl
  | false =>
      have hg' : (s.without t).isGranted u = false := hg
      rw [leave_of_queued hg, leave_of_queued hg']
      simp [without, List.erase_filter]

/-- The queue without a ticket, once that ticket has left. -/
theorem without_leave_self (h : s.isGranted t = false) : (s.leave t).without t = s.without t := by
  rw [leave_of_queued h]
  have hq : t ∉ s.queue.filter fun u => u != t := by simp
  simp [without, ← List.erase_filter, List.erase_of_not_mem hq]

theorem without_eq_self (h : t ∉ s.queue) : s.without t = s := by
  have hq : s.queue.filter (fun u => u != t) = s.queue :=
    List.filter_eq_self.2 fun u hu => bne_iff_ne.2 fun heq => h (heq ▸ hu)
  simp [without, hq]

end Slots

theorem PerClass.map_set {α β : Type} (f : α → β) (p : PerClass α) (c : ResourceClass) (a : α) :
    (p.set c a).map f = (p.map f).set c (f a) := by
  cases c <;> rfl

theorem PerClass.set_get_self {α : Type} (p : PerClass α) (c : ResourceClass) :
    p.set c (p.get c) = p := by
  cases c <;> rfl

namespace Gate

variable {g : Gate} {t : Nat}

/-- The gate without a ticket that queues. -/
def without (g : Gate) (t : Nat) : Gate := g.map (·.without t)

@[simp] theorem get_without (g : Gate) (t : Nat) (c : ResourceClass) :
    (g.without t).get c = (g.get c).without t := PerClass.get_map ..

@[simp] theorem without_set (g : Gate) (t : Nat) (c : ResourceClass) (s : Slots) :
    without (g.set c s) t = (g.without t).set c (s.without t) := PerClass.map_set ..

@[simp] theorem limit_without (g : Gate) (t : Nat) (c : ResourceClass) :
    (g.without t).limit c = g.limit c := by
  simp [limit, Slots.without]

theorem passAtOnce?_without (g : Gate) (t : Nat) (c : ResourceClass) :
    (g.without t).passAtOnce? c = (g.passAtOnce? c).map fun r => (r.1, r.2.without t) := by
  unfold passAtOnce?
  rw [limit_without]
  split
  · rfl
  · simp [Slots.without_take?, Function.comp_def, without_set]

/-- What became of a waiting attempt does not depend on others that queue. -/
theorem check_without (g : Gate) (t : Nat) (w : Waiting) (now : Nat) :
    ((g.without t).check w now).1 = (g.check w now).1 := by
  simp only [check, get_without, Slots.isGranted_without]
  split
  · rfl
  · split <;> rfl

end Gate

namespace Crowd

/-- The crowd without the attempt that waits under a ticket. -/
def without (q : Crowd) (t : Nat) : Crowd :=
  { q with gate := q.gate.without t, waiting := q.waiting.filter fun w => w.ticket != t }

end Crowd

namespace Vigil

variable {v : Vigil} {x : Doing} {t u : Nat} {w : Waiting}

/-- A vigil without the attempt that waits under a ticket, and without a note on it. -/
def without (v : Vigil) (t : Nat) : Vigil where
  crowd := v.crowd.without t
  now := v.now
  diary := v.diary.filter fun n => n.ticket != some t

/-- What concerns nobody but the attempt with a ticket. -/
def Doing.isAbout (t : Nat) : Doing → Bool
  | .resume u | .abandon u => u == t
  | _ => false

theorem crowdAfter_of_nobody (h : v.waiter? t = none) :
    v.crowdAfter (.resume t) = v.crowd ∧ v.crowdAfter (.abandon t) = v.crowd := by
  simp [crowdAfter, event?, place_of_nobody h]

theorem waiter?_without (h : u ≠ t) : (v.without t).waiter? u = v.waiter? u := by
  show (v.crowd.waiting.filter _).find? _ = _
  rw [List.find?_filter]
  unfold waiter?
  congr 1
  funext w
  by_cases hw : w.ticket = u <;> simp [hw, h]

theorem ticketed_without (T : v.crowd.Ticketed) (t : Nat) : (v.without t).crowd.Ticketed where
  before := fun w hw => T.before w (List.mem_filter.1 hw).1
  distinct := T.distinct.sublist (List.filter_sublist.map _)

theorem enter_without (ht : t < v.crowd.nextTicket) (c : ResourceClass)
    (timeout : Option Duration) : (v.without t).crowdAfter (.enter c timeout) =
      (v.crowdAfter (.enter c timeout)).without t := by
  have hpass := v.crowd.gate.passAtOnce?_without t c
  cases hp : v.crowd.gate.passAtOnce? c with
  | some r =>
      rw [hp] at hpass
      simp [crowdAfter, event?, Crowd.step, Gate.enter, without, Crowd.without, hp, hpass]
  | none =>
      rw [hp] at hpass
      simp [crowdAfter, event?, Crowd.step, Gate.enter, without, Crowd.without, hp, hpass,
        Slots.without_enqueue (Nat.ne_of_gt ht), nanos, Nat.ne_of_gt ht]

theorem tryEnter_without (v : Vigil) (t : Nat) (c : ResourceClass) :
    (v.without t).crowdAfter (.tryEnter c) = (v.crowdAfter (.tryEnter c)).without t := by
  have hpass := v.crowd.gate.passAtOnce?_without t c
  cases hp : v.crowd.gate.passAtOnce? c with
  | some r =>
      rw [hp] at hpass
      simp [crowdAfter, event?, Crowd.step, without, Crowd.without, hp, hpass]
  | none =>
      rw [hp] at hpass
      simp [crowdAfter, event?, Crowd.step, without, Crowd.without, hp, hpass]

theorem resume_without (T : v.crowd.Ticketed) (hne : u ≠ t)
    (hg : ∀ c, t ∉ ((v.crowdAfter (.resume u)).gate.get c).granted) :
    (v.without t).crowdAfter (.resume u) = (v.crowdAfter (.resume u)).without t := by
  have T' := ticketed_without T t
  have hwaiter := waiter?_without (v := v) hne
  cases hw : v.waiter? u with
  | none =>
      rw [(crowdAfter_of_nobody hw).1, (crowdAfter_of_nobody (hwaiter.trans hw)).1]
      rfl
  | some w =>
      rw [hw] at hwaiter
      have hsame : ((v.without t).crowd.gate.get w.resource).isGranted u =
          (v.crowd.gate.get w.resource).isGranted u := by
        simp [without, Crowd.without]
      cases hgranted : (v.crowd.gate.get w.resource).isGranted u with
      | true =>
          rw [crowdAfter_resume_granted T hw hgranted,
            crowdAfter_resume_granted T' hwaiter (hsame.trans hgranted)]
          simp [without, Crowd.without, Slots.without_redeem, List.filter_filter, Bool.and_comm]
      | false =>
          cases hd : w.deadline.any fun d => d ≤ v.nanos with
          | true =>
              have hl := hg w.resource
              rw [crowdAfter_resume_due T hw hgranted hd] at hl ⊢
              rw [crowdAfter_resume_due T' hwaiter (hsame.trans hgranted) hd]
              have hleave := Slots.without_leave (t := t) (u := u) (by simpa using hl)
              simp [without, Crowd.without, hleave, List.filter_filter, Bool.and_comm]
          | false =>
              rw [crowdAfter_resume_pending hw hgranted hd,
                crowdAfter_resume_pending hwaiter (hsame.trans hgranted) hd]
              rfl

theorem abandon_without (T : v.crowd.Ticketed) (hne : u ≠ t)
    (hg : ∀ c, t ∉ ((v.crowdAfter (.abandon u)).gate.get c).granted) :
    (v.without t).crowdAfter (.abandon u) = (v.crowdAfter (.abandon u)).without t := by
  have T' := ticketed_without T t
  have hwaiter := waiter?_without (v := v) hne
  cases hw : v.waiter? u with
  | none =>
      rw [(crowdAfter_of_nobody hw).2, (crowdAfter_of_nobody (hwaiter.trans hw)).2]
      rfl
  | some w =>
      rw [hw] at hwaiter
      have hl := hg w.resource
      rw [crowdAfter_abandon T hw] at hl ⊢
      rw [crowdAfter_abandon T' hwaiter]
      have hleave := Slots.without_leave (t := t) (u := u) (by simpa using hl)
      simp [without, Crowd.without, hleave, List.filter_filter, Bool.and_comm]

theorem release_without {i : Nat}
    (hg : ∀ c, t ∉ ((v.crowdAfter (.release i)).gate.get c).granted) :
    (v.without t).crowdAfter (.release i) = (v.crowdAfter (.release i)).without t := by
  cases hi : v.crowd.held[i]? with
  | none => simp [crowdAfter, event?, Crowd.step, without, Crowd.without, hi]
  | some p =>
      have hl := hg p.resource
      cases hp : p.gated with
      | true =>
          have hrelease := Slots.without_release (t := t)
            (by simpa [crowdAfter, event?, Crowd.step, hi, Gate.release, hp] using hl)
          simp [crowdAfter, event?, Crowd.step, without, Crowd.without, hi, Gate.release, hp,
            hrelease]
      | false =>
          simp [crowdAfter, event?, Crowd.step, without, Crowd.without, hi, Gate.release, hp]

/-- Nobody else does anything else where an attempt is not there. -/
theorem crowdAfter_without (T : v.crowd.Ticketed) (hx : x.isAbout t = false)
    (ht : t < v.crowd.nextTicket)
    (hg : ∀ c, t ∉ ((v.crowdAfter x).gate.get c).granted) :
    (v.without t).crowdAfter x = (v.crowdAfter x).without t := by
  cases x with
  | enter c timeout => exact enter_without ht c timeout
  | tryEnter c => exact v.tryEnter_without t c
  | resume u => exact resume_without T (by simpa [Doing.isAbout] using hx) hg
  | abandon u => exact abandon_without T (by simpa [Doing.isAbout] using hx) hg
  | release i => exact release_without hg
  | elapse ms => rfl

/-- Nobody else is told anything else where an attempt is not there. -/
theorem told_without (hx : x.isAbout t = false) : (v.without t).told x = v.told x := by
  cases x with
  | enter c timeout | tryEnter c =>
      have hpass := v.crowd.gate.passAtOnce?_without t c
      cases hp : v.crowd.gate.passAtOnce? c with
      | some r =>
          rw [hp] at hpass
          simp [told, Gate.enter, without, Crowd.without, hp, hpass]
      | none =>
          rw [hp] at hpass
          simp [told, Gate.enter, without, Crowd.without, hp, hpass]
  | resume u =>
      have hne : u ≠ t := by simpa [Doing.isAbout] using hx
      simp only [told, waiter?_without hne]
      congr 1
      funext w
      have hcheck : ((v.without t).crowd.gate.check w (v.without t).nanos).1 =
          (v.crowd.gate.check w v.nanos).1 := Gate.check_without ..
      rw [hcheck]
      rfl
  | abandon u =>
      have hne : u ≠ t := by simpa [Doing.isAbout] using hx
      simp only [told, waiter?_without hne]
      rfl
  | release i | elapse ms => rfl

/-- What somebody else is told is not about the attempt with a ticket. -/
theorem ticket_of_told {n : GateNote} (h : v.told x = some n) (hx : x.isAbout t = false)
    (ht : t < v.crowd.nextTicket) : n.ticket ≠ some t := by
  cases x with
  | enter c timeout =>
      have hn : n.ticket = some v.crowd.nextTicket := by
        simp only [told, Gate.enter] at h
        cases hp : v.crowd.gate.passAtOnce? c <;> simp [hp] at h <;> rw [← h]
      rw [hn]
      exact fun heq => Nat.lt_irrefl _ (Option.some.inj heq ▸ ht)
  | tryEnter c =>
      simp only [told] at h
      cases hp : v.crowd.gate.passAtOnce? c <;> simp [hp] at h <;> simp [← h]
  | resume u =>
      obtain ⟨w, _, hn⟩ := Option.bind_eq_some_iff.1 h
      obtain ⟨r, _, rfl⟩ := Option.map_eq_some_iff.1 hn
      simpa [Doing.isAbout] using hx
  | abandon u =>
      obtain ⟨w, _, rfl⟩ := Option.map_eq_some_iff.1 h
      simpa [Doing.isAbout] using hx
  | release i | elapse ms => cases h

theorem granted_without (q : Crowd) (t : Nat) (c : ResourceClass) :
    ((q.without t).gate.get c).granted = (q.gate.get c).granted := by
  simp [Crowd.without, Slots.without]

theorem handings_without (v : Vigil) (q : Crowd) (t : Nat) :
    (v.without t).handings (q.without t).gate = v.handings q.gate := by
  simp only [handings, Slots.newlyGranted, granted_without]
  simp [without, Crowd.without]

/-- A ticket that is granted no slot is on no note on a slot handed over. -/
theorem ticket_of_handings {q : Crowd} {n : GateNote} (h : n ∈ v.handings q.gate)
    (hg : ∀ c, t ∉ (q.gate.get c).granted) : n.ticket ≠ some t := by
  obtain ⟨c, _, hn⟩ := List.mem_flatMap.1 h
  obtain ⟨u, hu, rfl⟩ := List.mem_map.1 hn
  rintro heq
  cases heq
  exact hg c (List.mem_filter.1 hu).1

/-- Where an attempt is granted no slot, everything that others do comes to the same without it. -/
theorem step_without (T : v.crowd.Ticketed) (hx : x.isAbout t = false)
    (ht : t < v.crowd.nextTicket) (hg : ∀ c, t ∉ ((v.step x).crowd.gate.get c).granted) :
    (v.without t).step x = (v.step x).without t := by
  have hcrowd := crowdAfter_without T hx ht hg
  have htold : (v.told x).toList.filter (fun n => n.ticket != some t) = (v.told x).toList :=
    List.filter_eq_self.2 fun n hn =>
      bne_iff_ne.2 (ticket_of_told (Option.mem_toList.1 hn) hx ht)
  have hhandings : (v.handings (v.crowdAfter x).gate).filter (fun n => n.ticket != some t) =
      v.handings (v.crowdAfter x).gate :=
    List.filter_eq_self.2 fun n hn => bne_iff_ne.2 (ticket_of_handings hn hg)
  have hnow : (v.without t).nowAfter x = v.nowAfter x := by cases x <;> rfl
  have hdiary : (v.step x).diary.filter (fun n => n.ticket != some t) =
      (v.without t).diary ++ (v.told x).toList ++ v.handings (v.crowdAfter x).gate := by
    show (v.diary ++ _ ++ _).filter _ = _
    rw [List.filter_append, List.filter_append, htold, hhandings]
    rfl
  show Vigil.mk _ _ _ = Vigil.mk _ _ _
  rw [hdiary, hcrowd, hnow, told_without hx, handings_without]
  rfl

theorem ticket_of_about {n : GateNote} (h : v.told x = some n) (hx : x.isAbout t = true) :
    n.ticket = some t := by
  cases x with
  | resume u =>
      obtain ⟨w, _, hn⟩ := Option.bind_eq_some_iff.1 h
      obtain ⟨r, _, rfl⟩ := Option.map_eq_some_iff.1 hn
      exact congrArg some (beq_iff_eq.1 hx)
  | abandon u =>
      obtain ⟨w, _, rfl⟩ := Option.map_eq_some_iff.1 h
      exact congrArg some (beq_iff_eq.1 hx)
  | enter | tryEnter | release | elapse => cases hx

/-- The crowd without an attempt that was granted no slot, whatever that attempt does. -/
theorem crowdAfter_about (T : v.crowd.Ticketed) (hx : x.isAbout t = true)
    (hg : ∀ c, (v.crowd.gate.get c).isGranted t = false) :
    (v.crowdAfter x).without t = v.crowd.without t := by
  have hleave : ∀ c, Gate.without (v.crowd.gate.set c ((v.crowd.gate.get c).leave t)) t =
      v.crowd.gate.without t := by
    intro c
    rw [Gate.without_set, Slots.without_leave_self (hg c), ← Gate.get_without,
      PerClass.set_get_self]
  cases x with
  | resume u =>
      obtain rfl := beq_iff_eq.1 hx
      cases hw : v.waiter? u with
      | none => rw [(crowdAfter_of_nobody hw).1]
      | some w =>
          cases hd : w.deadline.any fun d => d ≤ v.nanos with
          | true =>
              rw [crowdAfter_resume_due T hw (hg _) hd]
              simp [Crowd.without, hleave]
          | false => rw [crowdAfter_resume_pending hw (hg _) hd]
  | abandon u =>
      obtain rfl := beq_iff_eq.1 hx
      cases hw : v.waiter? u with
      | none => rw [(crowdAfter_of_nobody hw).2]
      | some w =>
          rw [crowdAfter_abandon T hw]
          simp [Crowd.without, hleave]
  | enter | tryEnter | release | elapse => cases hx

/-- A slot is handed over for every ticket that is granted one. -/
theorem handings_eq_nil {g : Gate} (h : ∀ c, (g.get c).granted = (v.crowd.gate.get c).granted) :
    v.handings g = [] := by
  refine List.flatMap_eq_nil_iff.2 fun c _ => ?_
  rw [Slots.newlyGranted_of_subset (h c ▸ List.Subset.refl _), List.map_nil]

/-- Whatever becomes of an attempt that is granted no slot, others are where they are without it. -/
theorem step_about (T : v.crowd.Ticketed) (hx : x.isAbout t = true)
    (hg : ∀ c, t ∉ (v.crowd.gate.get c).granted) : (v.step x).without t = v.without t := by
  have hcrowd : (v.crowdAfter x).without t = v.crowd.without t :=
    crowdAfter_about T hx fun c => by simpa [Slots.isGranted] using hg c
  have hgranted : ∀ c, ((v.crowdAfter x).gate.get c).granted = (v.crowd.gate.get c).granted := by
    intro c
    rw [← granted_without (v.crowdAfter x) t c, hcrowd, granted_without]
  have htold : (v.told x).toList.filter (fun n => n.ticket != some t) = [] := by
    refine List.filter_eq_nil_iff.2 fun n hn hne => bne_iff_ne.1 hne ?_
    exact ticket_of_about (Option.mem_toList.1 hn) hx
  have hnow : v.nowAfter x = v.now := by cases x <;> first | rfl | cases hx
  have hdiary : (v.step x).diary.filter (fun n => n.ticket != some t) = (v.without t).diary := by
    show (v.diary ++ _ ++ _).filter _ = _
    rw [handings_eq_nil hgranted, List.append_nil, List.filter_append, htold, List.append_nil]
    rfl
  show Vigil.mk ((v.crowdAfter x).without t) (v.nowAfter x) _ = _
  rw [hdiary, hcrowd, hnow]
  rfl

/-! ## Runs -/

/-- An attempt was handed a slot. -/
def Handed (v : Vigil) (t : Nat) : Prop := ∃ c m, ⟨c, some t, m, .handed⟩ ∈ v.diary

theorem diary_subset_after (v : Vigil) (xs : List Doing) : v.diary ⊆ (v.after xs).diary := by
  induction xs generalizing v with
  | nil => exact List.Subset.refl _
  | cons x xs ih =>
      refine List.Subset.trans ?_ (ih (v.step x))
      exact fun n hn => List.mem_append_left _ (List.mem_append_left _ hn)

/-- Who is granted a slot is on a note. -/
theorem handed_of_granted {c : ResourceClass} (hold : t ∉ (v.crowd.gate.get c).granted)
    (hnew : t ∈ ((v.step x).crowd.gate.get c).granted) : (v.step x).Handed t := by
  refine ⟨c, v.now, List.mem_append_right _ (List.mem_flatMap.2 ⟨c, c.mem_all, ?_⟩)⟩
  refine List.mem_map.2 ⟨t, List.mem_filter.2 ⟨hnew, ?_⟩, rfl⟩
  simpa [Slots.isGranted] using hold

theorem allows_without (h : v.Allows x) : (v.without t).Allows x := by
  cases x with
  | elapse ms =>
      intro w hw
      have hw := h w (List.mem_filter.1 hw).1
      simpa [without, Crowd.without] using hw
  | enter | tryEnter | resume | abandon | release => trivial

/-- An attempt that is handed no slot is not noticed.  Without it all others come to the same, and
time may pass as it did. -/
theorem after_without {config : GateConfig} {xs : List Doing} (hs : v.Sound config)
    (ht : t < v.crowd.nextTicket) (hg : ∀ c, t ∉ (v.crowd.gate.get c).granted)
    (h : ¬ (v.after xs).Handed t) (hxs : v.Runs xs) :
    (v.without t).after (xs.filter fun x => !x.isAbout t) = (v.after xs).without t ∧
      (v.without t).Runs (xs.filter fun x => !x.isAbout t) := by
  induction xs generalizing v with
  | nil => exact ⟨rfl, trivial⟩
  | cons x xs ih =>
      obtain ⟨hallows, hxs⟩ := hxs
      have hg' : ∀ c, t ∉ ((v.step x).crowd.gate.get c).granted := by
        intro c hnew
        obtain ⟨d, m, hn⟩ := handed_of_granted (hg c) hnew
        exact h ⟨d, m, diary_subset_after _ xs hn⟩
      have ht' : t < (v.step x).crowd.nextTicket := Nat.lt_of_lt_of_le ht (v.nextTicket_le_step x)
      obtain ⟨hafter, hruns⟩ := ih (hs.step x) ht' hg' h hxs
      cases hx : x.isAbout t with
      | true =>
          rw [step_about hs.ticketed hx hg] at hafter hruns
          rw [List.filter_cons_of_neg (by simp [hx])]
          exact ⟨hafter, hruns⟩
      | false =>
          rw [← step_without hs.ticketed hx ht hg'] at hafter hruns
          rw [List.filter_cons_of_pos (by simp [hx])]
          exact ⟨hafter, allows_without hallows, hruns⟩

end Vigil

end Backlog
