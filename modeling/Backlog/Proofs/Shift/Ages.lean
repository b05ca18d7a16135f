import Backlog.Proofs.Shift.Basic
/-!
# How old a task in processing can be

In virtual time the wall clock moves with the time of the loops, and time passes only when what is
to be done at an instant is done.  For the sweep loop that means that time stops at each of its
ticks until the sweep is made, so it sweeps at every multiple of the interval and at no other time.

A sweep fails what was claimed longer ago than the limit, and nothing else that was claimed.  It
goes by the stamp of a task, but the stamp of a task in processing is the time of its claim.  So
right after a sweep nothing in processing is older than the limit, and until the next one it ages
by less than the interval.

The invariant puts a time in front of the loop, the `horizon`: it is the tick that is waited for,
and from the moment at which a sweep is made it is the tick after.  No claim of a task in
processing is further behind the horizon than the limit and the interval together.  A sweep moves
the horizon by an interval, and it has failed what would be left too far behind; a claim made now
is one interval behind at most.

That no sweep is due or under way is what the end of an instant is to the loop, and it comes: from
wherever the loop is, the beats of one instant bring it there (`Ticking.quiets`).

## Main results

* `Ticking.moment` — the invariant, through what happens in the workshop.
* `Ticking.step` — the invariant, through everything that can happen in virtual time.
* `Ticking.quiets` — what is to be done at an instant can be done.
* `processing_age` — how old a task in processing is, and how old one is that a sweep has failed.
-/

namespace Backlog

variable {H : Type}

/-- A moment of the loop is to the workshop the arrival of an attempt, or nothing. -/
theorem Watch.shop_of_loop {y : Moment H} (hy : ∀ x, y ≠ .shop x) (ours : Nat → Bool)
    (w : Watch H) : (w.step ours y).shop = w.shop ∨
      (w.step ours y).shop = w.shop.step (.arrive (.attempt w.registry)) := by
  cases y with
  | shop x => exact absurd rfl (hy x)
  | stop => exact Or.inl rfl
  | begin =>
      simp only [step]
      split
      · split
        · exact Or.inl rfl
        · exact Or.inr rfl
      · exact Or.inl rfl
  | conclude | rise =>
      simp only [step]
      split <;> exact Or.inl rfl
  | lieDown now | wake =>
      simp only [step]
      split
      · split <;> exact Or.inl rfl
      · exact Or.inl rfl
  | halt =>
      simp only [step]
      split
      · split <;> exact Or.inl rfl
      · split <;> exact Or.inl rfl
      · exact Or.inl rfl

namespace Shift

variable {ours : Nat → Bool} {begun : Instant} {s s' : Shift H}

/-! ## Virtual time -/

/-- Whether the sweep loop lets so much of virtual time pass: it rests, and its next tick does not
come before. -/
def rests (s : Shift H) (nanos : Nat) : Bool :=
  match s.sweeper with
  | .waiting due => !s.awake && decide (s.now + nanos ≤ due)
  | .sweeping _ _ => false
  | .stopped => true

/-- Whether a beat is one of virtual time: the clock is the time since the beginning, no call of the
store fails, and time passes only while the sweep loop rests. -/
def IsTimely (begun : Instant) (s : Shift H) : Beat H → Prop
  | .moment (.shop x) => x.IsTimely begun s.now
  | .look _ reading => reading.IsAt begun s.now
  | .pass nanos => s.rests nanos = true
  | _ => True

instance (begun : Instant) (s : Shift H) (b : Beat H) : Decidable (s.IsTimely begun b) :=
  match b with
  | .moment (.shop x) => inferInstanceAs (Decidable (x.IsTimely begun s.now))
  | .moment .stop | .moment .begin | .moment .conclude | .moment (.lieDown _) | .moment .rise
  | .moment .wake | .moment .halt | .conclude | .join => isTrue trivial
  | .look _ reading => inferInstanceAs (Decidable (reading.IsAt begun s.now))
  | .pass nanos => inferInstanceAs (Decidable (s.rests nanos = true))

/-- A run in virtual time. -/
def Timely (ours : Nat → Bool) (begun : Instant) : Shift H → List (Beat H) → Prop
  | _, [] => True
  | s, b :: bs => s.IsTimely begun b ∧ Timely ours begun (s.step ours b) bs

instance decidableTimely (ours : Nat → Bool) (begun : Instant) :
    (s : Shift H) → (bs : List (Beat H)) → Decidable (Timely ours begun s bs)
  | _, [] => isTrue trivial
  | s, b :: bs =>
    have := decidableTimely ours begun (s.step ours b) bs
    inferInstanceAs (Decidable (s.IsTimely begun b ∧ _))

/-- Whether no sweep of the loop is due or under way. -/
def isQuiet (s : Shift H) : Bool :=
  match s.sweeper with
  | .waiting due => decide (s.now < due)
  | _ => false

/-- The tick before which the loop does not sweep again. -/
def horizon (s : Shift H) : Nat :=
  match s.sweeper with
  | .waiting next | .sweeping (.done _) next => next
  | .sweeping (.write _) next => next - s.config.sweepInterval.nanos
  | .stopped => 0

/-- The sweep at a place is done, or it is the one that the loop is about to make. -/
def IsSwept (s : Shift H) (place : Nat) : Prop :=
  (∃ r, s.watch.shop.parties[place]? = some (.sweep (.done r))) ∨
    (place = s.sweepPlace ∧ ∃ cutoff next, s.sweeper = .sweeping (.write cutoff) next)

/-- What holds of a shift in virtual time. -/
structure Ticking (begun : Instant) (s : Shift H) : Prop where
  kept : Kept s
  endings : s.watch.shop.Endings
  online : s.watch.shop.memory.online = true
  logged : s.diary.map Prod.snd = s.watch.shop.history
  /-- The loop waits for a multiple of the interval. -/
  waiting : ∀ due, s.sweeper = .waiting due →
    s.now ≤ due ∧ s.config.sweepInterval.nanos ∣ due
  /-- It sweeps an interval before it is due again, with the limit off the clock. -/
  sweeping : ∀ x next, s.sweeper = .sweeping x next →
    next = s.now + s.config.sweepInterval.nanos ∧ s.config.sweepInterval.nanos ∣ next ∧
      ∀ cutoff, x = .write cutoff →
      ∃ reading : Instant, reading.IsAt begun s.now ∧
        cutoff = reading.minus s.config.processingLimit
  swept : ∀ due start place, .swept due start place ∈ s.picks →
    start = due ∧ s.config.sweepInterval.nanos ∣ due ∧ s.IsSwept place
  /-- The stamp of a task in processing is the time of its claim. -/
  stamped : ∀ id u c d, s.watch.shop.memory.find? id = some u → u.status = .processing →
    (c, d) ∈ s.diary → d.isClaimOf id = true → u.updatedAt.IsAt begun c
  young : ∀ id u c d, s.watch.shop.memory.find? id = some u → u.status = .processing →
    (c, d) ∈ s.diary → d.isClaimOf id = true →
      s.horizon ≤ c + s.config.processingLimit.nanos + s.config.sweepInterval.nanos
  soon : s.horizon ≤ s.now + s.config.sweepInterval.nanos
  /-- What a sweep of the loop has failed was claimed longer ago than the limit. -/
  overdue : ∀ a e id, (a, e) ∈ s.diary → e.ends id = true →
    (∃ due start, .swept due start e.party ∈ s.picks) →
      ∀ c d, (c, d) ∈ s.diary → d.isClaimOf id = true → c + s.config.processingLimit.nanos < a

/-! ## What happens in the workshop -/

/-- A moment of virtual time is something that happens in the workshop at a time. -/
theorem clocked_moment {y : Moment H} (h : s.IsTimely begun (.moment y))
    (hon : s.watch.shop.memory.online = true) :
    Workshop.Clocked begun s.now s.watch.shop (s.watch.step ours y).shop := by
  by_cases hy : ∃ x, y = .shop x
  · obtain ⟨x, rfl⟩ := hy
    exact Workshop.clocked_of_happening h hon
  · have hloop : ∀ x, y ≠ .shop x := fun x hx => hy ⟨x, hx⟩
    rcases Watch.shop_of_loop hloop ours s.watch with hsame | harrives
    · rw [hsame]
      exact Workshop.clocked_of_same .idle rfl rfl fun _ _ hi => hi
    · rw [harrives]
      exact Workshop.clocked_of_happening (x := .arrive _) trivial hon

/-- The diary after a moment. -/
theorem mem_diary_moment {y : Moment H} {c : Nat} {d : Deed H} :
    (c, d) ∈ (s.moment ours y).diary ↔
      (c = s.now ∧ d ∈ s.watch.shop.recent (s.watch.step ours y).shop) ∨ (c, d) ∈ s.diary := by
  simp only [moment, List.mem_append, List.mem_map, Prod.mk.injEq]
  constructor
  · rintro (⟨e, he, rfl, rfl⟩ | hold)
    · exact Or.inl ⟨rfl, he⟩
    · exact Or.inr hold
  · rintro (⟨rfl, hd⟩ | hold)
    · exact Or.inl ⟨d, hd, rfl, rfl⟩
    · exact Or.inr hold

theorem Ticking.mem_history (h : Ticking begun s) {c : Nat} {d : Deed H}
    (hd : (c, d) ∈ s.diary) : d ∈ s.watch.shop.history := by
  rw [← h.logged]
  exact List.mem_map_of_mem hd

/-- The sweep loop after a moment: as it was, or its sweep is made. -/
theorem Kept.sweeper_moment (ours : Nat → Bool) (h : Kept s) (y : Moment H) :
    (s.moment ours y).sweeper = s.sweeper ∨
      ∃ cutoff next r, s.sweeper = .sweeping (.write cutoff) next ∧
        (s.moment ours y).sweeper = .sweeping (.done r) next ∧
        s.watch.shop.parties[s.sweepPlace]? = some (.sweep (.write cutoff)) ∧
        (s.watch.step ours y).shop.parties[s.sweepPlace]? = some (.sweep (.done r)) := by
  show s.sweeper.attend _ = s.sweeper ∨ _
  cases hp : s.sweeper with
  | stopped | waiting _ =>
      refine Or.inl ?_
      unfold Sweeper.attend
      split <;> rfl
  | sweeping x next =>
      have hstood := h.sweeping x next hp
      obtain ⟨x', hx', rfl | ⟨cutoff, r, rfl, rfl⟩⟩ := (s.watch.shop_step ours y).sweeps hstood
      · rw [hx']
        exact Or.inl rfl
      · refine Or.inr ⟨cutoff, next, r, rfl, ?_, hstood, hx'⟩
        show s.sweeper.attend _ = _
        rw [hp, hx']
        rfl

/-- A task in processing after a moment, with its claim in the diary: both were there before, or the
claim was made now. -/
theorem Ticking.claim_cases (h : Ticking begun s) {y : Moment H}
    (hc : Workshop.Clocked begun s.now s.watch.shop (s.watch.step ours y).shop) {id : TaskId}
    {u : Task} (hu : (s.watch.step ours y).shop.memory.find? id = some u)
    (hprocessing : u.status = .processing) {c : Nat} {d : Deed H}
    (hd : (c, d) ∈ (s.moment ours y).diary) (hclaim : d.isClaimOf id = true) :
    (s.watch.shop.memory.find? id = some u ∧ (c, d) ∈ s.diary) ∨
      (c = s.now ∧ u.updatedAt.IsAt begun s.now) := by
  rcases mem_diary_moment.1 hd with ⟨rfl, hnew⟩ | hold
  · obtain ⟨_, v, hv, hstamp⟩ := hc.claimed hnew hclaim
    rw [hu] at hv
    cases hv
    exact Or.inr ⟨rfl, hstamp⟩
  · refine Or.inl ⟨?_, hold⟩
    exact hc.step.still_claimed h.kept.manned.sound hu hprocessing (h.mem_history hold) hclaim

/-- A task in processing is stale to the sweep that the loop is about to make exactly if its claim
is older than the limit. -/
theorem Ticking.stale_iff (h : Ticking begun s) {cutoff : Instant} {next : Nat}
    (hp : s.sweeper = .sweeping (.write cutoff) next) {id : TaskId} {u : Task}
    (hu : s.watch.shop.memory.find? id = some u) (hprocessing : u.status = .processing) {c : Nat}
    {d : Deed H} (hd : (c, d) ∈ s.diary) (hclaim : d.isClaimOf id = true) :
    Memory.isStale cutoff u = true ↔ c + s.config.processingLimit.nanos < s.now := by
  obtain ⟨_, _, hcutoff⟩ := h.sweeping _ next hp
  obtain ⟨reading, hreading, rfl⟩ := hcutoff cutoff rfl
  have hstamp := h.stamped id u c d hu hprocessing hd hclaim
  rw [Memory.isStale, hprocessing, beq_self_eq_true, Bool.true_and,
    Instant.before_minus_iff hstamp.1 hreading.1, hstamp.2, hreading.2]
  omega

/-- The horizon after a moment: as it was, or the sweep is made and the next one is an interval
ahead. -/
theorem Ticking.horizon_moment (ours : Nat → Bool) (h : Ticking begun s) (y : Moment H) :
    (s.moment ours y).horizon = s.horizon ∨
      ∃ cutoff next r, s.sweeper = .sweeping (.write cutoff) next ∧
        s.watch.shop.parties[s.sweepPlace]? = some (.sweep (.write cutoff)) ∧
        (s.watch.step ours y).shop.parties[s.sweepPlace]? = some (.sweep (.done r)) ∧
        (s.moment ours y).horizon = s.now + s.config.sweepInterval.nanos := by
  rcases h.kept.sweeper_moment ours y with
    hsame | ⟨cutoff, next, r, hbefore, hafter, hstood, hstands⟩
  · refine Or.inl ?_
    unfold horizon
    rw [hsame]
    rfl
  · refine Or.inr ⟨cutoff, next, r, hbefore, hstood, hstands, ?_⟩
    unfold horizon
    rw [hafter]
    exact (h.sweeping _ next hbefore).1

/-- The claims in processing are not further behind the horizon, after a moment. -/
theorem Ticking.young_moment (h : Ticking begun s) {y : Moment H}
    (hc : Workshop.Clocked begun s.now s.watch.shop (s.watch.step ours y).shop) {id : TaskId}
    {u : Task} (hu : (s.watch.step ours y).shop.memory.find? id = some u)
    (hprocessing : u.status = .processing) {c : Nat} {d : Deed H}
    (hd : (c, d) ∈ (s.moment ours y).diary) (hclaim : d.isClaimOf id = true) :
    (s.moment ours y).horizon ≤
      c + s.config.processingLimit.nanos + s.config.sweepInterval.nanos := by
  have hclaims := h.claim_cases hc hu hprocessing hd hclaim
  rcases h.horizon_moment ours y with hsame | ⟨cutoff, next, r, hbefore, hstood, hstands, hahead⟩
  · rw [hsame]
    rcases hclaims with ⟨hold, hdiary⟩ | ⟨rfl, _⟩
    · exact h.young id u c d hold hprocessing hdiary hclaim
    · have hsoon := h.soon
      omega
  · rw [hahead]
    rcases hclaims with ⟨hold, hdiary⟩ | ⟨rfl, _⟩
    · -- the sweep has just left it in processing
      have hfresh := hc.swept h.online hstood hstands hu hprocessing
      have hnotold : ¬ c + s.config.processingLimit.nanos < s.now := by
        rw [← h.stale_iff hbefore hold hprocessing hdiary hclaim, hfresh]
        exact Bool.false_ne_true
      omega
    · omega

/-- What the sweeps of the loop have failed, after a moment. -/
theorem Ticking.overdue_moment (h : Ticking begun s) {y : Moment H}
    (hc : Workshop.Clocked begun s.now s.watch.shop (s.watch.step ours y).shop) {a c : Nat}
    {e d : Deed H} {id : TaskId} (he : (a, e) ∈ (s.moment ours y).diary)
    (hends : e.ends id = true) (hours : ∃ due start, .swept due start e.party ∈ s.picks)
    (hd : (c, d) ∈ (s.moment ours y).diary) (hclaim : d.isClaimOf id = true) :
    c + s.config.processingLimit.nanos < a := by
  rcases mem_diary_moment.1 he with ⟨rfl, hnew⟩ | hold
  · obtain ⟨p, hp, hstale⟩ := hc.ended hnew hends
    obtain ⟨due, start, hpick⟩ := hours
    obtain ⟨_, _, ⟨r, hr⟩ | ⟨hplace, cutoff, next, hsweeper⟩⟩ := h.swept due start _ hpick
    · -- a sweep that is done does nothing more
      rw [hp] at hr
      obtain ⟨_, _, hwrite, _⟩ := hstale _ (Option.some.inj hr)
      cases hwrite
    · have hstood := h.kept.sweeping _ next hsweeper
      rw [← hplace, hp] at hstood
      obtain ⟨_, t, hwrite, ht, htstale⟩ := hstale _ (Option.some.inj hstood)
      cases hwrite
      have hprocessing := Memory.status_of_isStale htstale
      rcases mem_diary_moment.1 hd with ⟨_, hdnew⟩ | hdold
      · obtain ⟨⟨t', ht', hqueued⟩, _⟩ := hc.claimed hdnew hclaim
        rw [ht] at ht'
        cases ht'
        rw [hprocessing] at hqueued
        cases hqueued
      · exact (h.stale_iff hsweeper ht hprocessing hdold hclaim).1 htstale
  · rcases mem_diary_moment.1 hd with ⟨_, hdnew⟩ | hdold
    · -- a task that has ended is not claimed
      obtain ⟨⟨t, ht, hqueued⟩, _⟩ := hc.claimed hdnew hclaim
      obtain ⟨v, hv, hterminal⟩ := h.endings.ended id e (h.mem_history hold) hends
      rw [ht] at hv
      cases hv
      rw [hqueued] at hterminal
      cases hterminal
    · exact h.overdue a e id hold hends hours c d hdold hclaim

/-- The invariant, through what happens in the workshop. -/
theorem Ticking.moment (h : Ticking begun s) {y : Moment H} (hy : s.IsTimely begun (.moment y)) :
    Ticking begun (s.moment ours y) := by
  have hc : Workshop.Clocked begun s.now s.watch.shop (s.watch.step ours y).shop :=
    clocked_moment hy h.online
  have hsweeper := h.kept.sweeper_moment ours y
  refine ⟨h.kept.moment y, h.endings.step hc.step, ?_, ?_, ?_, ?_, ?_, ?_, ?_, ?_, ?_⟩
  · exact hc.online.trans h.online
  · show ((s.watch.shop.recent _).map (fun d => (s.now, d)) ++ s.diary).map Prod.snd = _
    rw [List.map_append, h.logged, List.map_map]
    exact (congrArg (· ++ _) (List.map_id _)).trans hc.step.history_eq.symm
  · intro due hdue
    exact h.waiting due (Sweeper.attend_eq_waiting hdue)
  · intro x next hx
    rcases hsweeper with hsame | ⟨cutoff, next', r, hbefore, hafter, _, _⟩
    · exact h.sweeping x next (hsame ▸ hx)
    · rw [hafter] at hx
      cases hx
      obtain ⟨hnext, hdvd, _⟩ := h.sweeping _ next hbefore
      exact ⟨hnext, hdvd, fun _ hwrite => by cases hwrite⟩
  · intro due start place hpick
    obtain ⟨hstart, hdvd, hswept⟩ := h.swept due start place hpick
    refine ⟨hstart, hdvd, ?_⟩
    rcases hswept with ⟨r, hr⟩ | ⟨rfl, cutoff, next, hsweeping⟩
    · obtain ⟨x', hx', rfl | ⟨_, _, hwrite, _⟩⟩ := hc.step.sweeps hr
      · exact Or.inl ⟨r, hx'⟩
      · cases hwrite
    · rcases hsweeper with hsame | ⟨_, _, r, _, _, _, hdone⟩
      · exact Or.inr ⟨rfl, cutoff, next, hsame.trans hsweeping⟩
      · exact Or.inl ⟨r, hdone⟩
  · intro id u c d hu hprocessing hd hclaim
    rcases h.claim_cases hc hu hprocessing hd hclaim with ⟨hold, hdiary⟩ | ⟨rfl, hstamp⟩
    · exact h.stamped id u c d hold hprocessing hdiary hclaim
    · exact hstamp
  · intro id u c d hu hprocessing hd hclaim
    exact h.young_moment hc hu hprocessing hd hclaim
  · rcases h.horizon_moment ours y with hsame | ⟨_, _, _, _, _, _, hahead⟩
    · rw [hsame]
      exact h.soon
    · exact Nat.le_of_eq hahead
  · intro a e id he hends hours c d hd hclaim
    exact h.overdue_moment hc he hends hours hd hclaim

/-! ## What the loop does -/

/-- As long as the loop is not about to make a sweep, all its sweeps are done. -/
theorem Ticking.swept_done (h : Ticking begun s)
    (hidle : ∀ cutoff next, s.sweeper ≠ .sweeping (.write cutoff) next) {due start place : Nat}
    (hpick : .swept due start place ∈ s.picks) :
    start = due ∧ s.config.sweepInterval.nanos ∣ due ∧
      ∃ r, s.watch.shop.parties[place]? = some (.sweep (.done r)) := by
  obtain ⟨hstart, hdvd, hdone | ⟨_, cutoff, next, hsweeping⟩⟩ := h.swept due start place hpick
  · exact ⟨hstart, hdvd, hdone⟩
  · exact absurd hsweeping (hidle cutoff next)

/-- The invariant, through what the sweep loop does and what time does: the workshop stays as it is,
and the horizon comes no nearer to the claims. -/
theorem Ticking.loop (h : Ticking begun s) (hkept : Kept s') (hconfig : s'.config = s.config)
    (hshop : s'.watch.shop = s.watch.shop) (hdiary : s'.diary = s.diary)
    (hwaiting : ∀ due, s'.sweeper = .waiting due →
      s'.now ≤ due ∧ s.config.sweepInterval.nanos ∣ due)
    (hsweeping : ∀ x next, s'.sweeper = .sweeping x next →
      next = s'.now + s.config.sweepInterval.nanos ∧ s.config.sweepInterval.nanos ∣ next ∧
        ∀ cutoff, x = .write cutoff →
          ∃ reading : Instant, reading.IsAt begun s'.now ∧
            cutoff = reading.minus s.config.processingLimit)
    (hswept : ∀ due start place, .swept due start place ∈ s'.picks →
      start = due ∧ s.config.sweepInterval.nanos ∣ due ∧ s'.IsSwept place)
    (hpicks : ∀ due start place, .swept due start place ∈ s'.picks →
      .swept due start place ∈ s.picks ∨ ∀ d ∈ s.watch.shop.history, d.party ≠ place)
    (hhorizon : s'.horizon ≤ s.horizon)
    (hsoon : s'.horizon ≤ s'.now + s.config.sweepInterval.nanos) :
    Ticking begun s' := by
  refine ⟨hkept, hshop ▸ h.endings, hshop ▸ h.online, ?_, hconfig ▸ hwaiting, hconfig ▸ hsweeping,
    hconfig ▸ hswept, ?_, ?_, hconfig ▸ hsoon, ?_⟩
  · rw [hdiary, hshop]
    exact h.logged
  · rw [hdiary, hshop]
    exact h.stamped
  · rw [hdiary, hshop, hconfig]
    intro id u c d hu hprocessing hd hclaim
    exact hhorizon.trans (h.young id u c d hu hprocessing hd hclaim)
  · rw [hdiary, hconfig]
    rintro a e id he hends ⟨due, start, hpick⟩ c d hd hclaim
    rcases hpicks due start _ hpick with hold | hnobody
    · exact h.overdue a e id he hends ⟨due, start, hold⟩ c d hd hclaim
    · exact absurd rfl (hnobody e (h.mem_history he))

/-- The loop begins the sweep for which it waited. -/
theorem Ticking.sweeps (h : Ticking begun s) {due : Nat} {tick : Bool} {reading : Instant}
    (hwaits : s.sweeper = .waiting due) (hcomes : due ≤ s.now)
    (htaken : tick = true ∨ s.watch.stopping = false) (hreading : reading.IsAt begun s.now) :
    Ticking begun
      { s.moment ours (.shop (.arrive (.sweep reading s.config.processingLimit))) with
        sweeper := Sweeper.begin s.config reading due s.now
        sweepPlace := s.watch.shop.parties.length
        picks := .swept due s.now s.watch.shop.parties.length :: s.picks } := by
  have hgoes : Goes ours s (.look tick reading) _ := .sweeps hwaits hcomes htaken
  have hm : Ticking begun
      (s.moment ours (.shop (.arrive (.sweep reading s.config.processingLimit)))) :=
    h.moment trivial
  have hwaits' : (s.moment ours
      (.shop (.arrive (.sweep reading s.config.processingLimit)))).sweeper = .waiting due := by
    rcases h.kept.sweeper_moment ours _ with hsame | ⟨_, _, _, hsweeping, _⟩
    · exact hsame.trans hwaits
    · rw [hwaits] at hsweeping
      cases hsweeping
  obtain ⟨hnotlate, hdvd⟩ := h.waiting due hwaits
  have hnow : s.now = due := Nat.le_antisymm hnotlate hcomes
  have hhorizon : (s.moment ours
      (.shop (.arrive (.sweep reading s.config.processingLimit)))).horizon = due := by
    unfold horizon
    rw [hwaits']
  have hnext : Sweeper.nextDue s.config.sweepInterval.nanos due s.now =
      s.now + s.config.sweepInterval.nanos := by
    unfold Sweeper.nextDue
    rw [if_pos (hnow ▸ Nat.le_add_right _ _), hnow]
  have hbegun : Sweeper.nextDue s.config.sweepInterval.nanos due s.now -
      s.config.sweepInterval.nanos = s.now := by
    rw [hnext, Nat.add_sub_cancel]
  refine hm.loop (h.kept.step hgoes) rfl rfl rfl ?_ ?_ ?_ ?_
    (Nat.le_of_eq (hbegun.trans (hnow.trans hhorizon.symm)))
    ((Nat.le_of_eq hbegun).trans (Nat.le_add_right _ _))
  · intro _ hx
    cases hx
  · intro _ _ hx
    cases hx
    refine ⟨hnext, ?_, ?_⟩
    · rw [hnext, hnow]
      exact Nat.dvd_add hdvd (Nat.dvd_refl _)
    · rintro _ hwrite
      cases hwrite
      exact ⟨reading, hreading, rfl⟩
  · intro due' start place hpick
    rcases List.mem_cons.1 hpick with hnew | hold
    · cases hnew
      exact ⟨hnow, hdvd, Or.inr ⟨rfl, _, _, rfl⟩⟩
    · obtain ⟨hstart, hdvd', hdone⟩ :=
        hm.swept_done (fun _ _ hx => by cases hwaits'.symm.trans hx) hold
      exact ⟨hstart, hdvd', Or.inl hdone⟩
  · intro due' start place hpick
    rcases List.mem_cons.1 hpick with hnew | hold
    · cases hnew
      exact Or.inr fun d hd =>
        Nat.ne_of_lt (h.kept.manned.sound.orderly.parties d hd)
    · exact Or.inl hold

/-- The invariant, through everything that can happen in virtual time. -/
theorem Ticking.step {b : Beat H} (hg : Goes ours s b s') (hb : s.IsTimely begun b)
    (h : Ticking begun s) : Ticking begun s' := by
  have hkept : Kept s' := h.kept.step hg
  cases hg with
  | moment y => exact h.moment hb
  | sweeps waits comes taken => exact h.sweeps waits comes taken hb
  | @ends due tick reading waits told =>
      refine h.loop hkept rfl rfl rfl ?_ ?_ ?_ ?_ (Nat.zero_le _) (Nat.zero_le _)
      · intro _ hx
        cases hx
      · intro _ _ hx
        cases hx
      · intro due' start place hpick
        have hold := List.mem_of_ne_of_mem (by intro heq; cases heq) hpick
        obtain ⟨hstart, hdvd, hdone⟩ :=
          h.swept_done (fun _ _ hx => by cases waits.symm.trans hx) hold
        exact ⟨hstart, hdvd, Or.inl hdone⟩
      · intro due' start place hpick
        exact Or.inl (List.mem_of_ne_of_mem (by intro heq; cases heq) hpick)
  | rests waits early untold =>
      exact h.loop hkept rfl rfl rfl h.waiting h.sweeping h.swept (fun _ _ _ hpick => Or.inl hpick)
        (Nat.le_refl _) h.soon
  | @concludes r next swept =>
      obtain ⟨hnext, hdvd, _⟩ := h.sweeping _ next swept
      have hhorizon : s.horizon = next := by
        unfold horizon
        rw [swept]
      refine h.loop hkept rfl rfl rfl ?_ ?_ ?_ (fun _ _ _ hpick => Or.inl hpick)
        (Nat.le_of_eq hhorizon.symm) (Nat.le_of_eq hnext)
      · intro due hx
        cases hx
        exact ⟨hnext ▸ Nat.le_add_right _ _, hdvd⟩
      · intro _ _ hx
        cases hx
      · intro due start place hpick
        obtain ⟨hstart, hdvd', hdone⟩ :=
          h.swept_done (fun _ _ hx => by cases swept.symm.trans hx) hpick
        exact ⟨hstart, hdvd', Or.inl hdone⟩
  | passes nanos =>
      refine h.loop hkept rfl rfl rfl ?_ ?_ h.swept (fun _ _ _ hpick => Or.inl hpick)
        (Nat.le_refl _) ?_
      · intro due hdue
        have hwaits : s.sweeper = .waiting due := hdue
        simp only [IsTimely, rests, hwaits, Bool.and_eq_true, decide_eq_true_eq] at hb
        exact ⟨hb.2, (h.waiting due hwaits).2⟩
      · intro x next hx
        have hsweeps : s.sweeper = .sweeping x next := hx
        simp only [IsTimely, rests, hsweeps, Bool.false_eq_true] at hb
      · have hsoon := h.soon
        show s.horizon ≤ s.now + nanos + s.config.sweepInterval.nanos
        omega
  | returns told worker sweeper =>
      exact h.loop hkept rfl rfl rfl h.waiting h.sweeping h.swept (fun _ _ _ hpick => Or.inl hpick)
        (Nat.le_refl _) h.soon
  | same => exact h

/-! ## What is to be done at an instant can be done -/

/-- A sweep loop in time that takes the result of its sweep has no other due. -/
theorem Ticking.quiet_of_done (ours : Nat → Bool) (h : Ticking begun s) {r : Except StoreError Nat}
    {next : Nat} (hp : s.sweeper = .sweeping (.done r) next) :
    (s.step ours .conclude).isQuiet = true := by
  have hwaits : (s.step ours .conclude).sweeper = .waiting next := by
    simp only [Shift.step, hp]
    cases r <;> rfl
  have hnow : (s.step ours .conclude).now = s.now := by
    simp only [Shift.step, hp]
  have hinterval : Sweeper.tolerance < s.config.sweepInterval.nanos := h.kept.interval
  unfold isQuiet
  rw [hwaits, hnow, (h.sweeping _ next hp).1]
  exact decide_eq_true (Nat.lt_add_of_pos_right (Nat.zero_lt_of_lt hinterval))

/-- A sweep that the loop is about to make can be made at this instant. -/
theorem Ticking.quiets_of_write (ours : Nat → Bool) (h : Ticking begun s) {cutoff : Instant}
    {next : Nat} (hp : s.sweeper = .sweeping (.write cutoff) next) {reading : Instant}
    (hreading : reading.IsAt begun s.now) :
    ∃ bs, Timely ours begun s bs ∧ (s.after ours bs).now = s.now ∧
      (s.after ours bs).isQuiet = true := by
  obtain ⟨r, hmade⟩ := h.kept.sweep_made ours hp reading ⟨0, by decide⟩
  have hturn : s.IsTimely begun
      (.moment (.shop (.turn s.sweepPlace reading ⟨0, by decide⟩ none))) := ⟨hreading, rfl⟩
  refine ⟨[.moment (.shop (.turn s.sweepPlace reading ⟨0, by decide⟩ none)), .conclude],
    ⟨hturn, trivial, trivial⟩, ?_, ?_⟩
  · show (Shift.step ours (s.moment ours _) .conclude).now = s.now
    simp only [Shift.step, hmade]
    rfl
  · exact (h.moment hturn).quiet_of_done ours hmade

/-- As long as the loop has not ended, an instant at which the clock can be read can be brought to
where no sweep is due or under way. -/
theorem Ticking.quiets (ours : Nat → Bool) (h : Ticking begun s)
    (hruns : s.sweeper.isStopped = false) {reading : Instant}
    (hreading : reading.IsAt begun s.now) :
    ∃ bs, Timely ours begun s bs ∧ (s.after ours bs).now = s.now ∧
      (s.after ours bs).isQuiet = true := by
  cases hp : s.sweeper with
  | stopped =>
      rw [hp] at hruns
      cases hruns
  | sweeping x next =>
      cases x with
      | write cutoff => exact h.quiets_of_write ours hp hreading
      | done r =>
          refine ⟨[.conclude], ⟨trivial, trivial⟩, ?_, h.quiet_of_done ours hp⟩
          show (s.step ours .conclude).now = s.now
          simp only [Shift.step, hp]
  | waiting due =>
      by_cases hearly : s.now < due
      · refine ⟨[], trivial, rfl, ?_⟩
        show s.isQuiet = true
        rw [isQuiet, hp]
        exact decide_eq_true hearly
      · have hbegins : ∃ cutoff next, (s.step ours (.look true reading)).sweeper =
            .sweeping (.write cutoff) next ∧ (s.step ours (.look true reading)).now = s.now := by
          simp only [Shift.step, hp, Nat.le_of_not_lt hearly, true_or, and_self, if_true]
          exact ⟨_, _, rfl, rfl⟩
        obtain ⟨cutoff, next, hwrite, hnow⟩ := hbegins
        have hstep : Ticking begun (s.step ours (.look true reading)) :=
          h.step (s.goes_step ours _) hreading
        obtain ⟨bs, hrun, hsame, hquiet⟩ := hstep.quiets_of_write ours hwrite (hnow ▸ hreading)
        exact ⟨.look true reading :: bs, ⟨hreading, hrun⟩, hsame.trans hnow, hquiet⟩

/-! ## How old a task is -/

/-- The settings of a shift stay. -/
theorem config_step (ours : Nat → Bool) (s : Shift H) (b : Beat H) :
    (s.step ours b).config = s.config := by
  have hgoes := s.goes_step ours b
  generalize s.step ours b = s' at hgoes
  cases hgoes <;> rfl

/-- The invariant at the spawn of an engine. -/
theorem ticking_start (config : EngineConfig) (registry : Registry H) (es : List StoreEvent)
    (hon : (Memory.empty.after es).online = true) :
    Ticking begun (start config registry (Memory.empty.after es)) where
  kept := kept_start config registry es
  endings := Workshop.endings_opened _
  online := hon
  logged := rfl
  waiting := by
    intro due hdue
    cases hdue
    refine ⟨Nat.zero_le _, ?_⟩
    rw [Nat.zero_add]
    exact Nat.dvd_refl _
  sweeping := by intro x due hx; cases hx
  swept := by intro due start place hpick; cases hpick
  stamped := by intro id u c d _ _ hd; cases hd
  young := by intro id u c d _ _ hd; cases hd
  soon := Nat.le_refl _
  overdue := by intro a e id he; cases he

/-- The invariant on every run in virtual time. -/
theorem Ticking.after (h : Ticking begun s) {bs : List (Beat H)} (hrun : Timely ours begun s bs) :
    Ticking begun (s.after ours bs) := by
  induction bs generalizing s with
  | nil => exact h
  | cons b bs ih => exact ih (h.step (s.goes_step ours b) hrun.1) hrun.2

/-- What is true of the age of the tasks in processing, for a limit and an interval. -/
structure Aged (limit interval : Nat) (s : Shift H) : Prop where
  /-- Every sweep is made when it is due, at a multiple of the interval. -/
  punctual : ∀ due start place, .swept due start place ∈ s.picks → start = due ∧ interval ∣ due
  /-- When no sweep is due or under way, a claimed task that is still in processing was claimed less
  than the limit and the interval ago. -/
  young : s.isQuiet = true → ∀ id u c d, s.watch.shop.memory.find? id = some u →
    u.status = .processing → (c, d) ∈ s.diary → d.isClaimOf id = true → s.now < c + limit + interval
  /-- A claimed task that a sweep of the loop has failed had been claimed longer ago than the
  limit. -/
  overdue : ∀ a e id, (a, e) ∈ s.diary → e.ends id = true →
    (∃ due start, .swept due start e.party ∈ s.picks) →
      ∀ c d, (c, d) ∈ s.diary → d.isClaimOf id = true → c + limit < a
  /-- The diary tells everything that was done. -/
  logged : s.diary.map Prod.snd = s.watch.shop.history

theorem Ticking.aged (h : Ticking begun s) :
    Aged s.config.processingLimit.nanos s.config.sweepInterval.nanos s where
  punctual := by
    intro due start place hpick
    obtain ⟨hstart, hdvd, _⟩ := h.swept due start place hpick
    exact ⟨hstart, hdvd⟩
  young := by
    intro hquiet id u c d hu hprocessing hd hclaim
    have hyoung := h.young id u c d hu hprocessing hd hclaim
    unfold isQuiet at hquiet
    unfold horizon at hyoung
    split at hquiet
    · next due hwaits =>
        simp only [hwaits, decide_eq_true_eq] at hquiet hyoung
        omega
    · cases hquiet
  overdue := h.overdue
  logged := h.logged

/-- **How old a task in processing can be.**  On every run of a spawned engine in virtual time, from
a store with any history of its own. -/
theorem processing_age (config : EngineConfig) (registry : Registry H) (ours : Nat → Bool)
    (es : List StoreEvent) (begun : Instant) (bs : List (Beat H))
    (hon : (Memory.empty.after es).online = true)
    (hrun : Timely ours begun (start config registry (Memory.empty.after es)) bs) :
    Aged config.normalized.processingLimit.nanos config.normalized.sweepInterval.nanos
      ((start config registry (Memory.empty.after es)).after ours bs) := by
  have hconfig : ((start config registry (Memory.empty.after es)).after ours bs).config =
      config.normalized :=
    keeps_of_step (fun s b h => (config_step ours s b).trans h) rfl bs
  rw [← hconfig]
  exact ((ticking_start config registry es hon).after hrun).aged

open Workshop (idOf invoiceForm invoiceRegistry threeTurns)

/-- A quarter of a minute between sweeps, and half a minute for a task. -/
def briskConfig : EngineConfig :=
  { EngineConfig.default with
    sweepInterval := .ofSeconds 15
    processingLimit := .ofSeconds 30 }

/-- A task is claimed at the spawn, and its handler goes on and on. -/
def longHandler : List (Beat Unit) :=
  [.moment (.shop (.arrive (.submit invoiceForm)))] ++
    (threeTurns 0 (idOf 1)).map (fun x => .moment (.shop x)) ++ [.moment .begin] ++
    (threeTurns 1 (idOf 0)).map (fun x => .moment (.shop x)) ++ [.look true .epoch]

/-- A quarter of a minute passes, and the loop sweeps; the sweep has this place. -/
def nextSweep (place : Nat) (reading : Instant) : List (Beat Unit) :=
  [.pass 15000000000, .look true reading, .moment (.shop (.turn place reading (idOf 0) none)),
    .conclude, .look true reading]

/-- The second sweep meets the task when it is exactly as old as the limit. -/
def twoSweeps : List (Beat Unit) :=
  longHandler ++
    (nextSweep 2
      { Instant.epoch with second := 15, second_ge := by decide, second_le := by decide }) ++
    (nextSweep 3
      { Instant.epoch with second := 30, second_ge := by decide, second_le := by decide })

def threeSweeps : List (Beat Unit) :=
  twoSweeps ++
    (nextSweep 4
      { Instant.epoch with second := 45, second_ge := by decide, second_le := by decide })

/-- The second sweep leaves the task, and the third one fails it. -/
theorem processing_age_of_threeSweeps :
    let s := start briskConfig invoiceRegistry (Memory.empty.after [])
    Timely (fun _ => true) .epoch s threeSweeps ∧
      Aged 30000000000 15000000000 (s.after (fun _ => true) threeSweeps) ∧
      (s.after (fun _ => true) twoSweeps).isQuiet = true ∧
      ((s.after (fun _ => true) twoSweeps).watch.shop.memory.find? (idOf 1)).map Task.status =
        some .processing ∧
      ((s.after (fun _ => true) threeSweeps).watch.shop.memory.find? (idOf 1)).map Task.status =
        some .failed := by
  have hrun : Timely (fun _ => true) .epoch
      (start briskConfig invoiceRegistry (Memory.empty.after [])) threeSweeps := by
    decide +kernel
  exact ⟨hrun, processing_age briskConfig invoiceRegistry _ [] .epoch _ rfl hrun,
    by decide +kernel, by decide +kernel, by decide +kernel⟩

end Shift

end Backlog
