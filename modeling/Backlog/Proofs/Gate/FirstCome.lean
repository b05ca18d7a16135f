import Backlog.Proofs.Gate.Unnoticed
/-!
# First come, first served

What a bounded class owes to those who come, at every moment of every run in virtual time
(`Vigil.ServesInTurn`).  Slots are handed over in the order in which the waits began.  Who does not
wait, or has just come, gets a slot exactly when one is free and nobody waits for it.  Who waits
takes the slot that it was handed by the time it is resumed at its deadline, or is told at that very
moment that its class is busy; who waits for ever is never told so.  Who ends without a slot has
left the queue and nothing more.

Deadlines are met at whole milliseconds: a time limit of whole milliseconds takes as many, any other
is rounded up.

## Main results

* `Vigil.first_come_first_served` — for every configuration, bounded class and run.
-/

namespace Backlog

open Simulation (World)

/-- Two gates with the same slots in every class are one. -/
theorem PerClass.ext_get {α : Type} {p q : PerClass α} (h : ∀ c, p.get c = q.get c) : p = q :=
  PerClass.ext (h .ocr) (h .bulkExport) (h .emailDownload)

theorem PerClass.set_set {α : Type} (p : PerClass α) (c : ResourceClass) (a b : α) :
    (p.set c a).set c b = p.set c b := by
  cases c <;> rfl

namespace Desk

variable {c : ResourceClass} {k : Desk} {t begun : Nat} {timeout : Duration}

/-- An attempt has one end. -/
theorem Over.eq_of_end (h : k.Over) {n n' : GateNote} (hn : n ∈ k.notes) (hn' : n' ∈ k.notes)
    (he : n.fact.isEnd = true) (he' : n'.fact.isEnd = true) (ht : n.ticket = some t)
    (ht' : n'.ticket = some t) : n = n' :=
  eq_of_nodup_filterMap (b := t) h.once hn hn' (by simp [he, ht]) (by simp [he', ht'])

/-- Who has been answered does not wait. -/
theorem Over.not_waits (h : k.Over) {n : GateNote} (hn : n ∈ k.notes) (he : n.fact.isEnd = true)
    (ht : n.ticket = some t) : .begun c t begun timeout ∉ k.waiting := by
  intro here
  have hended : t ∈ k.ended := List.mem_filterMap.2 ⟨n, hn, by simp [he, ht]⟩
  exact h.gone t hended _ here rfl

/-- Who waited and was let through was handed a slot, by its deadline. -/
theorem Orderly.passed (h : k.Orderly c) {m : Nat} {p : Permit}
    (hwaits : ⟨c, some t, begun, .waits timeout⟩ ∈ k.notes)
    (hanswer : ⟨c, some t, m, .answered (.ok p)⟩ ∈ k.notes) :
    p = ⟨c, true⟩ ∧ t ∈ k.handed ∧
      (timeout.isZero = false → m ≤ begun + World.tick timeout.nanos) := by
  cases h.fates t begun timeout hwaits with
  | waits here => exact absurd here (h.finished.not_waits hanswer rfl rfl)
  | passed answer handed inTime =>
      cases h.finished.eq_of_end answer hanswer rfl rfl rfl rfl
      exact ⟨rfl, handed, inTime⟩
  | busy answer _ _ => cases h.finished.eq_of_end answer hanswer rfl rfl rfl rfl
  | abandoned gone => cases h.finished.eq_of_end gone hanswer rfl rfl rfl rfl

/-- Who waited and was told that the class is busy was handed no slot until its deadline. -/
theorem Orderly.busy (h : k.Orderly c) {m : Nat} {e : TaskError}
    (hwaits : ⟨c, some t, begun, .waits timeout⟩ ∈ k.notes)
    (hanswer : ⟨c, some t, m, .answered (.error e)⟩ ∈ k.notes) :
    e = .resourceBusy c ∧ t ∉ k.handed ∧ timeout.isZero = false ∧
      m = begun + World.tick timeout.nanos := by
  cases h.fates t begun timeout hwaits with
  | waits here => exact absurd here (h.finished.not_waits hanswer rfl rfl)
  | passed answer _ _ => cases h.finished.eq_of_end answer hanswer rfl rfl rfl rfl
  | busy answer unhanded limited =>
      cases h.finished.eq_of_end answer hanswer rfl rfl rfl rfl
      exact ⟨rfl, unhanded, limited, rfl⟩
  | abandoned gone => cases h.finished.eq_of_end gone hanswer rfl rfl rfl rfl

/-- Who had to wait waits still, or has ended. -/
theorem Orderly.waits_or_ended (h : k.Orderly c)
    (hwaits : ⟨c, some t, begun, .waits timeout⟩ ∈ k.notes) :
    .begun c t begun timeout ∈ k.waiting ∨ t ∈ k.ended := by
  cases h.fates t begun timeout hwaits with
  | waits here => exact Or.inl here
  | passed answer _ _ | busy answer _ _ | abandoned answer =>
      exact Or.inr (List.mem_filterMap.2 ⟨_, answer, rfl⟩)

/-- A waiting attempt has been granted a slot when it is on a note on one, and not before. -/
theorem Orderly.isGranted_iff (h : k.Orderly c) (tidy : k.Tidy) {w : Waiting} (hw : w ∈ k.waiting) :
    k.slots.isGranted w.ticket = true ↔ w.ticket ∈ k.handed := by
  constructor
  · intro hg
    exact h.line.granted _ (Slots.mem_of_isGranted hg)
  · intro hhanded
    by_contra hg
    exact h.line.not_handed (tidy.queued hw (Bool.eq_false_iff.2 hg)) hhanded

end Desk

namespace Vigil

variable {config : GateConfig} {v : Vigil} {c : ResourceClass} {t : Nat} {w : Waiting}

/-- A slot of a class is free, and nobody waits for one. -/
structure Open (v : Vigil) (c : ResourceClass) : Prop where
  free : ∃ n, v.crowd.gate.available? c = some n ∧ 0 < n
  nobody : ∀ w ∈ (v.desk c).waiting, w.ticket ∈ (v.desk c).handed

/-- How a bounded class serves those who come, at one moment of a run. -/
structure ServesInTurn (config : GateConfig) (c : ResourceClass) (v : Vigil) : Prop where
  /-- Slots are handed to waiting attempts in the order in which they began, and who queues for one
  comes after all who were handed one. -/
  inOrder : ((v.desk c).handed ++ (v.desk c).slots.queue).Sublist (v.desk c).begun
  /-- No attempt begins to wait twice. -/
  distinct : (v.desk c).begun.Nodup
  /-- An attempt that does not wait gets a slot exactly when one is free and nobody waits. -/
  tries : (v.Open c → v.told (.tryEnter c) = some ⟨c, none, v.now, .answered (.ok ⟨c, true⟩)⟩) ∧
    (¬ v.Open c → v.told (.tryEnter c) =
      some ⟨c, none, v.now, .answered (.error (.resourceBusy c))⟩)
  /-- So does one that may wait; otherwise it waits, for its own time or that of its class. -/
  enters : ∀ timeout,
    (v.Open c → v.told (.enter c timeout) =
      some ⟨c, some v.crowd.nextTicket, v.now, .answered (.ok ⟨c, true⟩)⟩) ∧
    (¬ v.Open c → v.told (.enter c timeout) = some ⟨c, some v.crowd.nextTicket, v.now,
      .waits (timeout.getD (config.get c).normalized.acquireTimeout)⟩)
  /-- Who had to wait waits still, or has ended. -/
  stays : ∀ t begun timeout, ⟨c, some t, begun, .waits timeout⟩ ∈ (v.desk c).notes →
    .begun c t begun timeout ∈ (v.desk c).waiting ∨ t ∈ (v.desk c).ended
  /-- Nobody ends twice. -/
  once : (v.desk c).ended.Nodup
  /-- Nobody who has a deadline waits beyond it. -/
  timely : ∀ t begun timeout, .begun c t begun timeout ∈ (v.desk c).waiting →
    timeout.isZero = false → v.now ≤ begun + World.tick timeout.nanos
  /-- Who is resumed takes the slot it was handed, or is told at its deadline, and not before it,
  that the class is busy. -/
  resumed : ∀ t begun timeout, .begun c t begun timeout ∈ (v.desk c).waiting →
    v.told (.resume t) =
      if t ∈ (v.desk c).handed then some ⟨c, some t, v.now, .answered (.ok ⟨c, true⟩)⟩
      else if timeout.isZero = false ∧ v.now = begun + World.tick timeout.nanos then
        some ⟨c, some t, v.now, .answered (.error (.resourceBusy c))⟩
      else none
  /-- Who waited and got a slot was handed it, and took it by the deadline. -/
  passed : ∀ t begun timeout m p, ⟨c, some t, begun, .waits timeout⟩ ∈ (v.desk c).notes →
    ⟨c, some t, m, .answered (.ok p)⟩ ∈ (v.desk c).notes →
    p = ⟨c, true⟩ ∧ t ∈ (v.desk c).handed ∧
      (timeout.isZero = false → m ≤ begun + World.tick timeout.nanos)
  /-- Who waited and got none was handed none, had a deadline, and was told so at that moment. -/
  busy : ∀ t begun timeout m e, ⟨c, some t, begun, .waits timeout⟩ ∈ (v.desk c).notes →
    ⟨c, some t, m, .answered (.error e)⟩ ∈ (v.desk c).notes →
    e = .resourceBusy c ∧ t ∉ (v.desk c).handed ∧ timeout.isZero = false ∧
      m = begun + World.tick timeout.nanos
  /-- Who ends without having been handed a slot has left the queue, and nothing else has
  changed. -/
  leaves : ∀ t x, x.isAbout t = true → ¬ v.Handed t → (v.step x).waiter? t = none →
    (v.step x).crowd = v.crowd.without t
  /-- Who is abandoned after it was handed a slot might as well have taken the slot and given it
  back at once. -/
  givesBack : ∀ w ∈ (v.desk c).waiting, w.ticket ∈ (v.desk c).handed →
    (v.step (.abandon w.ticket)).crowd =
      ((v.step (.resume w.ticket)).step (.release 0)).crowd
  /-- As long as an attempt is handed no slot, and for ever if it never is, all others are told the
  same, and come to the same, as if it were not there. -/
  unnoticed : ∀ t ys, t < v.crowd.nextTicket → v.Runs ys → ¬ (v.after ys).Handed t →
    (v.without t).Runs (ys.filter fun x => !x.isAbout t) ∧
      (v.without t).after (ys.filter fun x => !x.isAbout t) = (v.after ys).without t

section Service

variable (hs : v.Sound config) (ho : (v.desk c).Orderly c) (hc : 0 < (config.get c).capacity)

include hs

/-- Who waits under a ticket is found under it. -/
theorem waiter?_of_mem (hw : w ∈ v.crowd.waiting) : v.waiter? w.ticket = some w :=
  (find?_key_iff hs.ticketed.distinct).2 ⟨hw, rfl⟩

include ho hc

/-- Where a slot is free, nobody queues. -/
theorem open_iff : v.Open c ↔ 0 < (v.crowd.gate.get c).free := by
  have havailable : v.crowd.gate.available? c = some (v.crowd.gate.get c).free :=
    if_neg (Bool.eq_false_iff.1 (hs.balanced.bounded hc))
  constructor
  · rintro ⟨⟨n, hn, hpos⟩, _⟩
    rw [havailable] at hn
    exact Option.some.inj hn ▸ hpos
  · intro hfree
    refine ⟨⟨_, havailable, hfree⟩, fun w hw => ?_⟩
    rw [← ho.isGranted_iff (hs.tidy c) hw]
    by_contra hg
    have hqueued := (hs.tidy c).queued hw (Bool.eq_false_iff.2 hg)
    have hnobody : (v.desk c).slots.queue = [] := (hs.balanced c).prompt hfree
    rw [hnobody] at hqueued
    cases hqueued

/-- What an attempt finds at a bounded class. -/
theorem passAtOnce?_of_open :
    (v.Open c → ∃ g, v.crowd.gate.passAtOnce? c = some (⟨c, true⟩, g)) ∧
      (¬ v.Open c → v.crowd.gate.passAtOnce? c = none) := by
  rw [open_iff hs ho hc]
  rcases Crowd.passAtOnce?_cases v.crowd.gate c with ⟨hl, _⟩ | ⟨_, ⟨s, hs', hp⟩ | ⟨hs', hp⟩⟩
  · rw [hs.balanced.bounded hc] at hl
    cases hl
  · exact ⟨fun _ => ⟨_, hp⟩, fun hfull => absurd (Slots.take?_eq_some hs').1 hfull⟩
  · exact ⟨fun hfree => absurd (Slots.take?_eq_none hs') (Nat.ne_of_gt hfree), fun _ => hp⟩

theorem told_tryEnter :
    (v.Open c → v.told (.tryEnter c) = some ⟨c, none, v.now, .answered (.ok ⟨c, true⟩)⟩) ∧
      (¬ v.Open c → v.told (.tryEnter c) =
        some ⟨c, none, v.now, .answered (.error (.resourceBusy c))⟩) := by
  obtain ⟨hopen, hfull⟩ := passAtOnce?_of_open hs ho hc
  constructor
  · intro h
    obtain ⟨g, hp⟩ := hopen h
    simp [told, hp]
  · intro h
    simp [told, hfull h, ResourceClass.busy]

theorem told_enter (timeout : Option Duration) :
    (v.Open c → v.told (.enter c timeout) =
      some ⟨c, some v.crowd.nextTicket, v.now, .answered (.ok ⟨c, true⟩)⟩) ∧
    (¬ v.Open c → v.told (.enter c timeout) = some ⟨c, some v.crowd.nextTicket, v.now,
      .waits (timeout.getD (config.get c).normalized.acquireTimeout)⟩) := by
  obtain ⟨hopen, hfull⟩ := passAtOnce?_of_open hs ho hc
  constructor
  · intro h
    obtain ⟨g, hp⟩ := hopen h
    simp [told, Gate.enter, hp]
  · intro h
    have hlimit : v.crowd.gate.limit c = (config.get c).normalized := (hs.balanced c).sameLimit
    simp [told, Gate.enter, hfull h, hlimit]

omit hc

/-- What a waiting attempt is told when it is resumed. -/
theorem told_resume {begun : Nat} {timeout : Duration}
    (here : .begun c t begun timeout ∈ (v.desk c).waiting) :
    v.told (.resume t) =
      if t ∈ (v.desk c).handed then some ⟨c, some t, v.now, .answered (.ok ⟨c, true⟩)⟩
      else if timeout.isZero = false ∧ v.now = begun + World.tick timeout.nanos then
        some ⟨c, some t, v.now, .answered (.error (.resourceBusy c))⟩
      else none := by
  have hw : v.waiter? t = some (.begun c t begun timeout) :=
    waiter?_of_mem hs (mem_desk_iff.1 here).1
  have hgranted : (v.crowd.gate.get c).isGranted t = true ↔ t ∈ (v.desk c).handed :=
    ho.isGranted_iff (hs.tidy c) here
  have hdue : ((Waiting.begun c t begun timeout).deadline.any fun d => d ≤ v.nanos) = true ↔
      timeout.isZero = false ∧ v.now = begun + World.tick timeout.nanos :=
    (Waiting.due_iff _ _).trans (ho.timely.due_iff here)
  by_cases hhanded : t ∈ (v.desk c).handed
  · have hg := hgranted.2 hhanded
    rw [if_pos hhanded]
    simp [told, hw, Gate.check, hg, Waiting.answer?]
  · have hg : (v.crowd.gate.get c).isGranted t = false :=
      Bool.eq_false_iff.2 fun hg => hhanded (hgranted.1 hg)
    rw [if_neg hhanded]
    by_cases hd : timeout.isZero = false ∧ v.now = begun + World.tick timeout.nanos
    · rw [if_pos hd]
      simp [told, hw, Gate.check, hg, hdue.2 hd, Waiting.answer?, ResourceClass.busy]
    · rw [if_neg hd]
      have hpending := Bool.eq_false_iff.2 fun h => hd (hdue.1 h)
      simp [told, hw, Gate.check, hg, hpending, Waiting.answer?]

/-- Who is abandoned with a slot gives it back, like who takes it and gives it back. -/
theorem crowd_abandon_granted (hw : w ∈ (v.desk c).waiting)
    (hhanded : w.ticket ∈ (v.desk c).handed) :
    (v.step (.abandon w.ticket)).crowd =
      ((v.step (.resume w.ticket)).step (.release 0)).crowd := by
  obtain ⟨hwaits, rfl⟩ := mem_desk_iff.1 hw
  have hfound := waiter?_of_mem hs hwaits
  have hg : (v.crowd.gate.get w.resource).isGranted w.ticket = true :=
    (ho.isGranted_iff (hs.tidy w.resource) hw).2 hhanded
  show v.crowdAfter _ = (v.step (.resume w.ticket)).crowd.step (.release 0)
  rw [crowdAfter_abandon hs.ticketed hfound, Slots.leave_of_granted hg]
  show _ = (v.crowdAfter (.resume w.ticket)).step (.release 0)
  rw [crowdAfter_resume_granted hs.ticketed hfound hg]
  simp [Crowd.step, Gate.release, PerClass.set_set]

end Service

/-! ## Who has left -/

/-- Who does not wait is in no queue. -/
theorem crowd_without_eq_self (hs : v.Sound config) (h : v.waiter? t = none) :
    v.crowd.without t = v.crowd := by
  have hnobody : ∀ w ∈ v.crowd.waiting, w.ticket ≠ t := by simpa [waiter?] using h
  have hgate : v.crowd.gate.without t = v.crowd.gate := by
    refine PerClass.ext_get fun c => ?_
    rw [Gate.get_without]
    refine Slots.without_eq_self fun hq => ?_
    obtain ⟨w, hw, ht⟩ := (hs.tidy c).waits hq
    exact hnobody w (mem_desk_iff.1 hw).1 ht
  have hwaiting : v.crowd.waiting.filter (fun w => w.ticket != t) = v.crowd.waiting :=
    List.filter_eq_self.2 fun w hw => bne_iff_ne.2 (hnobody w hw)
  rw [Crowd.without, hgate, hwaiting]

/-- Who ends and was granted no slot has left the queue, and nothing else has changed. -/
theorem crowd_of_end {x : Doing} (hs : v.Sound config) (hx : x.isAbout t = true)
    (hg : ∀ c, t ∉ (v.crowd.gate.get c).granted) (hgone : (v.step x).waiter? t = none) :
    (v.step x).crowd = v.crowd.without t := by
  rw [← crowd_without_eq_self (hs.step x) hgone]
  exact crowdAfter_about hs.ticketed hx fun c => by simpa [Slots.isGranted] using hg c

/-- Who is granted a slot was handed one. -/
def Noted (v : Vigil) : Prop := ∀ c, ∀ t ∈ (v.crowd.gate.get c).granted, v.Handed t

theorem noted_of_runs (h : v.Noted) (xs : List Doing) : (v.after xs).Noted := by
  induction xs generalizing v with
  | nil => exact h
  | cons x xs ih =>
      refine ih fun c t ht => ?_
      by_cases hold : t ∈ (v.crowd.gate.get c).granted
      · obtain ⟨d, m, hn⟩ := h c t hold
        exact ⟨d, m, diary_subset_after v [x] hn⟩
      · exact handed_of_granted hold ht

theorem first_come_first_served {c : ResourceClass} (hc : 0 < (config.get c).capacity)
    {xs : List Doing} (hxs : (opened config).Runs xs) :
    ((opened config).after xs).ServesInTurn config c := by
  have hs : ((opened config).after xs).Sound config := (Sound.opened config).after xs
  have ho := orderly_after config hc hxs
  have hn : ((opened config).after xs).Noted :=
    noted_of_runs (by simp [Noted, opened, Crowd.opened, Gate.ofConfig, Slots.ofLimit]) xs
  generalize (opened config).after xs = v at hs ho hn
  constructor
  case inOrder => exact ho.line.order
  case distinct => exact ho.line.distinct
  case tries => exact told_tryEnter hs ho hc
  case enters => exact told_enter hs ho hc
  case stays => exact fun t begun timeout h => ho.waits_or_ended h
  case once => exact ho.finished.once
  case timely => exact fun t begun timeout here => ho.timely.le here
  case resumed => exact fun t begun timeout here => told_resume hs ho here
  case passed => exact fun t begun timeout m p => ho.passed
  case busy => exact fun t begun timeout m e => ho.busy
  case leaves =>
    exact fun t x hx hunhanded => crowd_of_end hs hx fun c ht => hunhanded (hn c t ht)
  case givesBack => exact fun w => crowd_abandon_granted hs ho
  case unnoticed =>
    intro t ys ht hys hunhanded
    have hg : ∀ c, t ∉ (v.crowd.gate.get c).granted := by
      intro c hgranted
      obtain ⟨d, m, hnote⟩ := hn c t hgranted
      exact hunhanded ⟨d, m, diary_subset_after v ys hnote⟩
    exact (after_without hs ht hg hunhanded hys).symm

/-- Three attempts wait for one slot.  The second in the queue is the first to come to its deadline,
and the slot is given back at the very deadline of the first. -/
def rush : List Doing :=
  [.enter .bulkExport none, .enter .bulkExport (some (.ofMillis 5)),
    .enter .bulkExport (some (.ofMillis 3)), .enter .bulkExport none, .elapse 3, .resume 2,
    .elapse 2, .release 0, .resume 1, .release 0, .abandon 3]

theorem first_come_first_served_in_a_rush :
    (opened GateConfig.default).Runs rush ∧
      ((opened GateConfig.default).after rush).ServesInTurn GateConfig.default .bulkExport ∧
      (((opened GateConfig.default).after rush).desk .bulkExport).handed = [1, 3] ∧
      ((opened GateConfig.default).after (rush.take 5)).told (.resume 2) =
        some ⟨.bulkExport, some 2, 3, .answered (.error (.resourceBusy .bulkExport))⟩ ∧
      ((opened GateConfig.default).after (rush.take 8)).told (.resume 1) =
        some ⟨.bulkExport, some 1, 5, .answered (.ok ⟨.bulkExport, true⟩)⟩ :=
  ⟨by decide, first_come_first_served (by decide) (by decide), by decide, rfl, rfl⟩

end Vigil

end Backlog
