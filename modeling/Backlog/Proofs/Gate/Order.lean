import Backlog.Proofs.Gate.Vigil
/-!
# The line in front of the slots

Those who wait for a class stand in line.  Whoever begins to wait joins at the end, a slot goes to
the head, and who leaves the line leaves the others in their order.  So whatever a turn of the desk
does, what it hands over and what is left of the line is part of the line before, in the same order
(`Slots.Serves`, `Desk.Line`), and over a run the notes on slots handed over, with the line that is
left behind them, are part of the notes on waits that began (`Desk.InLine`).

An attempt that had to wait comes to one of four things (`Desk.Fate`): it waits still, it was handed
a slot and took it, it was told at its deadline that the class is busy, or it was abandoned.  What
it comes to depends on three facts that every turn keeps.  A ticket is in the queue or was granted a
slot, and the notes tell which; an attempt ends once, and one that has ended does not wait
(`Desk.Over`); nobody waits beyond the tick of its deadline (`Desk.Timely`), so that who is told
that its deadline has come is told so exactly then.

## Main results

* `Desk.Turn.line`, `Desk.Turn.ends`, `Desk.Turn.fate` — what a turn does to the line, to those
  who end, and to what becomes of a wait.
* `Vigil.orderly_after` — a bounded class is in order after every run in virtual time.
-/

namespace Backlog

open Simulation (World)

namespace Slots

variable {s s' : Slots} {t : Nat}

/-- Between two states of the slots only the head of the queue is granted a slot, and the others
stay in their order. -/
def Serves (s s' : Slots) : Prop := (s.newlyGranted s' ++ s'.queue).Sublist s.queue

/-- Who is granted no more than before is not granted newly. -/
theorem newlyGranted_of_subset (h : s'.granted ⊆ s.granted) : s.newlyGranted s' = [] := by
  refine List.filter_eq_nil_iff.2 fun t ht hn => ?_
  simp [isGranted, h ht] at hn

theorem serves_of_subset (hg : s'.granted ⊆ s.granted) (hq : s'.queue.Sublist s.queue) :
    s.Serves s' := by
  rw [Serves, newlyGranted_of_subset hg]
  exact hq

theorem serves_take (h : s.take? = some s') : s.Serves s' := by
  obtain ⟨_, rfl⟩ := take?_eq_some h
  exact serves_of_subset (List.Subset.refl _) (.refl _)

theorem serves_redeem (s : Slots) (t : Nat) : s.Serves (s.redeem t) :=
  serves_of_subset List.erase_subset (.refl _)

/-- A slot given back is handed to the head of the queue, also where a ticket has just been
taken from those that were granted one. -/
theorem serves_release (hg : s'.granted ⊆ s.granted) (hq : s'.queue = s.queue) :
    s.Serves s'.release := by
  cases hs : s.queue with
  | nil =>
      rw [release_nil (hq.trans hs)]
      exact serves_of_subset hg (hq ▸ .refl _)
  | cons t ts =>
      have hnone : s'.granted.filter (fun u => !s.isGranted u) = [] := newlyGranted_of_subset hg
      rw [release_cons (hq.trans hs), Serves, newlyGranted, hs, List.filter_append, hnone,
        List.nil_append]
      exact (List.filter_sublist (l := [t])).append_right ts

theorem serves_leave (s : Slots) (t : Nat) : s.Serves (s.leave t) := by
  cases hg : s.isGranted t with
  | true =>
      rw [leave_of_granted hg]
      exact serves_release (s := s) List.erase_subset rfl
  | false =>
      rw [leave_of_queued hg]
      exact serves_of_subset (List.Subset.refl _) List.erase_sublist

/-- Who leaves the queue hands no slot on. -/
theorem newlyGranted_leave (hg : s.isGranted t = false) : s.newlyGranted (s.leave t) = [] := by
  rw [leave_of_queued hg]
  exact newlyGranted_of_subset (List.Subset.refl _)

end Slots

namespace Desk

variable {c : ResourceClass} {k k' : Desk} {s : Slots} {f : GateFact → Bool} {n : GateNote}

/-- The tickets on the notes of one turn. -/
theorem ticketsOn_write (k : Desk) (c : ResourceClass) (s : Slots) (told : List GateNote)
    (f : GateFact → Bool) : (k.write c s told).ticketsOn f = k.ticketsOn f ++
      told.filterMap (fun n => if f n.fact then n.ticket else none) ++
        if f .handed then k.slots.newlyGranted s else [] := by
  have hhanded : (k.handings c s).filterMap (fun n => if f n.fact then n.ticket else none) =
      if f .handed then k.slots.newlyGranted s else [] := by
    cases hf : f .handed <;> simp [handings, List.filterMap_map, hf]
  simp [ticketsOn, write, hhanded]

/-- The slots handed over on a turn on which nothing else about them is told. -/
theorem handed_write {told : List GateNote} (htold : ∀ n ∈ told, n.fact.isHanding = false) :
    (k.write c s told).handed = k.handed ++ k.slots.newlyGranted s := by
  have hnone : told.filterMap (fun n => if n.fact.isHanding then n.ticket else none) = [] :=
    List.filterMap_eq_nil_iff.2 fun n hn => by simp [htold n hn]
  show (k.write c s told).ticketsOn _ = _
  rw [ticketsOn_write, hnone, List.append_nil]
  rfl

/-- What a turn does to the line in front of the slots: who joins it, and who is handed a slot. -/
structure Line (k k' : Desk) (joined new : List Nat) : Prop where
  begun : k'.begun = k.begun ++ joined
  handed : k'.handed = k.handed ++ new
  served : (new ++ k'.slots.queue).Sublist (k.slots.queue ++ joined)
  granted : ∀ t ∈ k'.slots.granted, t ∈ k.slots.granted ∨ t ∈ new
  later : k.nextTicket ≤ k'.nextTicket
  fresh : joined = [] ∨ joined = [k.nextTicket] ∧ k.nextTicket < k'.nextTicket

theorem granted_or_new (k : Desk) (s : Slots) :
    ∀ t ∈ s.granted, t ∈ k.slots.granted ∨ t ∈ k.slots.newlyGranted s := by
  intro t ht
  by_cases hg : t ∈ k.slots.granted
  · exact Or.inl hg
  · exact Or.inr (List.mem_filter.2 ⟨ht, by simpa [Slots.isGranted] using hg⟩)

/-- Nobody joins the line where slots change hands and nobody is told to wait. -/
theorem line_of_serves {told : List GateNote} {ws : List Waiting} {next : Nat}
    (hs : k.slots.Serves s) (htold : ∀ n ∈ told, n.fact.isWait = false ∧ n.fact.isHanding = false)
    (later : k.nextTicket ≤ next) :
    Line k { k.write c s told with waiting := ws, nextTicket := next } [] (k.slots.newlyGranted s)
    where
  begun := by
    have hnone : told.filterMap (fun n => if n.fact.isWait then n.ticket else none) = [] :=
      List.filterMap_eq_nil_iff.2 fun n hn => by simp [htold n hn]
    show (k.write c s told).ticketsOn _ = _
    rw [ticketsOn_write, hnone, List.append_nil]
    rfl
  handed := handed_write fun n hn => (htold n hn).2
  served := by
    rw [List.append_nil]
    exact hs
  granted := k.granted_or_new s
  later := later
  fresh := Or.inl rfl

/-- What is told when an attempt ends neither begins a wait nor hands a slot over. -/
theorem told_end {ticket : Option Nat} {m : Nat} {fact : GateFact} (h : fact.isEnd = true) :
    ∀ n ∈ [(⟨c, ticket, m, fact⟩ : GateNote)],
      n.fact.isWait = false ∧ n.fact.isHanding = false := by
  intro n hn
  obtain rfl := List.mem_singleton.1 hn
  cases fact with
  | waits _ | handed => cases h
  | answered _ | abandoned => exact ⟨rfl, rfl⟩

theorem Turn.line (h : Turn c k k') : ∃ joined new, Line k k' joined new := by
  have hsame : k.slots.Serves k.slots := Slots.serves_of_subset (List.Subset.refl _) (.refl _)
  have hstill : ∀ {next : Nat}, k.nextTicket ≤ next →
      Line k { k with nextTicket := next } [] (k.slots.newlyGranted k.slots) := by
    intro next later
    have hline : Line k { k.write c k.slots [] with waiting := k.waiting, nextTicket := next } []
        (k.slots.newlyGranted k.slots) := line_of_serves hsame (by simp) later
    rwa [write_nil] at hline
  cases h with
  | aside later => exact ⟨_, _, hstill later⟩
  | elapse asleep =>
      obtain ⟨hb, hh, hs, hg, hl, hf⟩ := hstill (Nat.le_refl _)
      exact ⟨_, _, hb, hh, hs, hg, hl, hf⟩
  | take free =>
      exact ⟨_, _, line_of_serves (Slots.serves_take free) (told_end rfl) (Nat.le_refl _)⟩
  | refuse full => exact ⟨_, _, line_of_serves hsame (told_end rfl) (Nat.le_refl _)⟩
  | pass free =>
      exact ⟨_, _, line_of_serves (Slots.serves_take free) (told_end rfl) (Nat.le_succ _)⟩
  | @join timeout full =>
      have hnone : k.slots.newlyGranted (k.slots.enqueue k.nextTicket) = [] :=
        Slots.newlyGranted_of_subset (List.Subset.refl _)
      refine ⟨[k.nextTicket], [], ?_, ?_, ?_, ?_, Nat.le_succ _, Or.inr ⟨rfl, Nat.lt_succ_self _⟩⟩
      · show (k.write c _ _).ticketsOn _ = _
        rw [ticketsOn_write]
        exact List.append_nil _
      · show (k.write c _ _).ticketsOn _ = _
        rw [ticketsOn_write, hnone]
        exact List.append_nil _
      · exact .refl _
      · exact fun t ht => Or.inl ht
  | resume waits granted =>
      exact ⟨_, _, line_of_serves (Slots.serves_redeem _ _) (told_end rfl) (Nat.le_refl _)⟩
  | fail waits queued due =>
      exact ⟨_, _, line_of_serves (Slots.serves_leave _ _) (told_end rfl) (Nat.le_refl _)⟩
  | abandon waits =>
      exact ⟨_, _, line_of_serves (Slots.serves_leave _ _) (told_end rfl) (Nat.le_refl _)⟩
  | release =>
      exact ⟨_, _, line_of_serves (Slots.serves_release (List.Subset.refl _) rfl) (by simp)
        (Nat.le_refl _)⟩

/-- Slots are handed over in the order in which the waits began, and who still queues comes after
all who were handed one. -/
structure InLine (k : Desk) : Prop where
  order : (k.handed ++ k.slots.queue).Sublist k.begun
  distinct : k.begun.Nodup
  early : ∀ t ∈ k.begun, t < k.nextTicket
  granted : ∀ t ∈ k.slots.granted, t ∈ k.handed

/-- Who queues has not been handed a slot. -/
theorem InLine.not_handed {t : Nat} (h : k.InLine) (ht : t ∈ k.slots.queue) : t ∉ k.handed := by
  intro hhanded
  exact (List.nodup_append.1 (h.distinct.sublist h.order)).2.2 t hhanded t ht rfl

theorem InLine.turn (h : k.InLine) (ht : Turn c k k') : k'.InLine := by
  obtain ⟨joined, new, l⟩ := ht.line
  have hjoined : ∀ t ∈ joined, t = k.nextTicket ∧ k.nextTicket < k'.nextTicket := by
    rcases l.fresh with rfl | ⟨rfl, hlt⟩
    · simp
    · intro t ht
      exact ⟨List.mem_singleton.1 ht, hlt⟩
  have hnodup : joined.Nodup := by
    rcases l.fresh with rfl | ⟨rfl, _⟩ <;> simp
  constructor
  case order =>
    have hserved : (k.handed ++ (new ++ k'.slots.queue)).Sublist
        (k.handed ++ (k.slots.queue ++ joined)) := l.served.append_left _
    have hbegun : (k.handed ++ k.slots.queue ++ joined).Sublist (k.begun ++ joined) :=
      h.order.append_right _
    rw [List.append_assoc] at hbegun
    rw [l.handed, l.begun, List.append_assoc]
    exact hserved.trans hbegun
  case distinct =>
    rw [l.begun]
    refine List.nodup_append.2 ⟨h.distinct, hnodup, ?_⟩
    intro a ha b hb hab
    have hlt := h.early a ha
    have hb := (hjoined b hb).1
    omega
  case early =>
    intro t ht
    rw [l.begun] at ht
    rcases List.mem_append.1 ht with ht | ht
    · exact Nat.lt_of_lt_of_le (h.early t ht) l.later
    · obtain ⟨rfl, hlt⟩ := hjoined t ht
      exact hlt
  case granted =>
    intro t ht
    rw [l.handed]
    rcases l.granted t ht with ht | ht
    · exact List.mem_append_left _ (h.granted t ht)
    · exact List.mem_append_right _ ht

/-! ## Those who wait, and those who have ended -/

/-- The slots know those who wait by their tickets, which are all different. -/
structure Tidy (k : Desk) : Prop where
  tickets : (k.slots.queue ++ k.slots.granted).Perm (k.waiting.map Waiting.ticket)
  before : ∀ w ∈ k.waiting, w.ticket < k.nextTicket
  distinct : (k.waiting.map Waiting.ticket).Nodup

/-- Who waits and was not granted a slot queues for one. -/
theorem Tidy.queued (h : k.Tidy) {w : Waiting} (hw : w ∈ k.waiting)
    (hg : k.slots.isGranted w.ticket = false) : w.ticket ∈ k.slots.queue := by
  have hmem := h.tickets.mem_iff.2 (List.mem_map_of_mem hw)
  rcases List.mem_append.1 hmem with hq | hgranted
  · exact hq
  · simp [Slots.isGranted, hgranted] at hg

/-- Who queues waits. -/
theorem Tidy.waits (h : k.Tidy) {t : Nat} (ht : t ∈ k.slots.queue) :
    ∃ w ∈ k.waiting, w.ticket = t :=
  List.mem_map.1 (h.tickets.mem_iff.1 (List.mem_append_left _ ht))

theorem Tidy.eq_of_ticket (h : k.Tidy) {u w : Waiting} (hu : u ∈ k.waiting) (hw : w ∈ k.waiting)
    (heq : u.ticket = w.ticket) : u = w :=
  List.inj_on_of_nodup_map h.distinct hu hw heq

/-- What a turn does to those who wait and those who have ended. -/
inductive Ends (k k' : Desk) : Prop where
  /-- Nobody ends, and who waits newly has a new ticket. -/
  | nobody (ended : k'.ended = k.ended)
      (waiting : ∀ w ∈ k'.waiting, w ∈ k.waiting ∨ k.nextTicket ≤ w.ticket)
  /-- An attempt is answered when it begins. -/
  | atOnce (ended : k'.ended = k.ended ++ [k.nextTicket]) (later : k.nextTicket < k'.nextTicket)
      (waiting : k'.waiting = k.waiting)
  /-- An attempt that waited ends. -/
  | waiter {w : Waiting} (waits : w ∈ k.waiting) (ended : k'.ended = k.ended ++ [w.ticket])
      (waiting : k'.waiting = k.waiting.filter fun u => u.ticket != w.ticket)

theorem ended_write (k : Desk) (c : ResourceClass) (s : Slots) (told : List GateNote) :
    (k.write c s told).ended = k.ended ++
      told.filterMap fun n => if n.fact.isEnd then n.ticket else none := by
  show (k.write c s told).ticketsOn _ = _
  rw [ticketsOn_write]
  exact List.append_nil _

theorem Turn.ends (h : Turn c k k') : Ends k k' := by
  cases h with
  | aside later => exact .nobody rfl fun w hw => Or.inl hw
  | elapse asleep => exact .nobody rfl fun w hw => Or.inl hw
  | take free =>
      exact .nobody ((k.ended_write ..).trans (List.append_nil _)) fun w hw => Or.inl hw
  | refuse full =>
      exact .nobody ((k.ended_write ..).trans (List.append_nil _)) fun w hw => Or.inl hw
  | pass free => exact .atOnce (k.ended_write ..) (Nat.lt_succ_self _) rfl
  | join full =>
      refine .nobody ((k.ended_write ..).trans (List.append_nil _)) fun w hw => ?_
      rcases List.mem_cons.1 hw with rfl | hw
      · exact Or.inr (Nat.le_refl _)
      · exact Or.inl hw
  | resume waits granted => exact .waiter waits (k.ended_write ..) rfl
  | fail waits queued due => exact .waiter waits (k.ended_write ..) rfl
  | abandon waits => exact .waiter waits (k.ended_write ..) rfl
  | release => exact .nobody ((k.ended_write ..).trans (List.append_nil _)) fun w hw => Or.inl hw

/-- Attempts end once, and who has ended does not wait. -/
structure Over (k : Desk) : Prop where
  once : k.ended.Nodup
  early : ∀ t ∈ k.ended, t < k.nextTicket
  gone : ∀ t ∈ k.ended, ∀ w ∈ k.waiting, w.ticket ≠ t

/-- One more attempt has ended. -/
theorem Over.add {t : Nat} (h : k.Over) (ended : k'.ended = k.ended ++ [t]) (hnew : t ∉ k.ended)
    (hlt : t < k'.nextTicket) (later : k.nextTicket ≤ k'.nextTicket)
    (waiting : ∀ w ∈ k'.waiting, w ∈ k.waiting ∧ w.ticket ≠ t) : k'.Over := by
  have hcases : ∀ u ∈ k'.ended, u ∈ k.ended ∨ u = t := by
    intro u hu
    rw [ended] at hu
    simpa using hu
  constructor
  case once =>
    rw [ended]
    exact List.nodup_append.2 ⟨h.once, List.nodup_singleton t, by
      rintro u hu v hv rfl
      exact hnew (List.mem_singleton.1 hv ▸ hu)⟩
  case early =>
    intro u hu
    rcases hcases u hu with hu | rfl
    · exact Nat.lt_of_lt_of_le (h.early u hu) later
    · exact hlt
  case gone =>
    intro u hu w hw
    rcases hcases u hu with hu | rfl
    · exact h.gone u hu w (waiting w hw).1
    · exact (waiting w hw).2

theorem Over.turn (h : k.Over) (tidy : k.Tidy) (ht : Turn c k k') : k'.Over := by
  obtain ⟨_, _, l⟩ := ht.line
  cases ht.ends with
  | nobody ended waiting =>
      constructor
      · rw [ended]
        exact h.once
      · rw [ended]
        exact fun t ht => Nat.lt_of_lt_of_le (h.early t ht) l.later
      · rw [ended]
        intro t ht w hw
        rcases waiting w hw with hw | hw
        · exact h.gone t ht w hw
        · exact Nat.ne_of_gt (Nat.lt_of_lt_of_le (h.early t ht) hw)
  | atOnce ended later waiting =>
      refine h.add ended (fun hmem => ?_) later l.later fun w hw => ?_
      · exact Nat.lt_irrefl _ (h.early _ hmem)
      · rw [waiting] at hw
        exact ⟨hw, Nat.ne_of_lt (tidy.before w hw)⟩
  | @waiter w waits ended waiting =>
      refine h.add ended (fun hmem => h.gone _ hmem w waits rfl) ?_ l.later fun u hu => ?_
      · exact Nat.lt_of_lt_of_le (tidy.before w waits) l.later
      · rw [waiting] at hu
        simpa using hu

/-! ## Deadlines -/

/-- A deadline so many nanoseconds after a whole millisecond. -/
theorem tick_add (s n : Nat) : World.tick (s * 1000000 + n) = s + World.tick n := by
  unfold World.tick
  omega

/-- A deadline has come when the clock shows its tick, and not before. -/
theorem tick_le_iff {d now : Nat} : World.tick d ≤ now ↔ d ≤ now * 1000000 := by
  unfold World.tick
  omega

/-- Nobody waits beyond the tick of its deadline. -/
def Timely (k : Desk) : Prop := ∀ w ∈ k.waiting, ∀ d ∈ w.deadline, k.now ≤ World.tick d

theorem Timely.turn (h : k.Timely) (ht : Turn c k k') : k'.Timely := by
  cases ht with
  | aside | take | refuse | pass | release => exact h
  | elapse asleep => exact fun w hw => (asleep w hw).2
  | @join timeout full =>
      intro w hw d hd
      rcases List.mem_cons.1 hw with rfl | hw
      · have hdeadline : d = k.now * 1000000 + timeout.nanos := by
          simp only [Waiting.begun] at hd
          split at hd
          · cases hd
          · cases hd
            rfl
        rw [hdeadline, tick_add]
        exact Nat.le_add_right _ _
      · exact h w hw d hd
  | resume | fail | abandon => exact fun w hw => h w (List.mem_filter.1 hw).1

/-! ## What becomes of a wait -/

/-- What became of an attempt that began to wait at a moment, for so long. -/
inductive Fate (c : ResourceClass) (k : Desk) (t begun : Nat) (timeout : Duration) : Prop where
  /-- It waits. -/
  | waits (here : .begun c t begun timeout ∈ k.waiting)
  /-- It was handed a slot, and has taken it no later than at its deadline. -/
  | passed {m : Nat} (answer : ⟨c, some t, m, .answered (.ok ⟨c, true⟩)⟩ ∈ k.notes)
      (handed : t ∈ k.handed)
      (inTime : timeout.isZero = false → m ≤ begun + World.tick timeout.nanos)
  /-- It was handed no slot, and was told so at its deadline. -/
  | busy (answer : ⟨c, some t, begun + World.tick timeout.nanos, .answered (.error c.busy)⟩ ∈
      k.notes) (unhanded : t ∉ k.handed) (limited : timeout.isZero = false)
  /-- It was abandoned. -/
  | abandoned {m : Nat} (gone : ⟨c, some t, m, .abandoned⟩ ∈ k.notes)

section Fates

variable {t begun : Nat} {timeout : Duration}

/-- The deadline of an attempt that does not wait for ever. -/
theorem mem_deadline_begun {d : Nat} : d ∈ (Waiting.begun c t begun timeout).deadline ↔
    timeout.isZero = false ∧ d = begun * 1000000 + timeout.nanos := by
  cases hz : timeout.isZero <;> simp [Waiting.begun, hz, eq_comm]

/-- Who waits and does not wait for ever is not beyond its deadline. -/
theorem Timely.le (h : k.Timely) (here : .begun c t begun timeout ∈ k.waiting)
    (limited : timeout.isZero = false) : k.now ≤ begun + World.tick timeout.nanos := by
  rw [← tick_add]
  exact h _ here _ (mem_deadline_begun.2 ⟨limited, rfl⟩)

/-- An attempt that waits has come to its deadline when the clock shows its tick. -/
theorem Timely.due_iff (h : k.Timely) (here : .begun c t begun timeout ∈ k.waiting) :
    (∃ d ∈ (Waiting.begun c t begun timeout).deadline, d ≤ k.now * 1000000) ↔
      timeout.isZero = false ∧ k.now = begun + World.tick timeout.nanos := by
  constructor
  · rintro ⟨d, hd, hle⟩
    obtain ⟨limited, rfl⟩ := mem_deadline_begun.1 hd
    have hge := tick_le_iff.2 hle
    rw [tick_add] at hge
    exact ⟨limited, Nat.le_antisymm (h.le here limited) hge⟩
  · rintro ⟨limited, hnow⟩
    refine ⟨_, mem_deadline_begun.2 ⟨limited, rfl⟩, tick_le_iff.1 ?_⟩
    rw [tick_add]
    exact Nat.le_of_eq hnow.symm

theorem mem_notes_write {told : List GateNote} (hn : n ∈ told) :
    n ∈ (k.write c s told).notes :=
  List.mem_append_left _ (List.mem_append_right _ hn)

theorem notes_subset_write {told : List GateNote} : k.notes ⊆ (k.write c s told).notes :=
  fun _ hn => List.mem_append_left _ (List.mem_append_left _ hn)

/-- Notes are only added. -/
theorem Turn.notes_subset (h : Turn c k k') : k.notes ⊆ k'.notes := by
  cases h with
  | aside | elapse => exact List.Subset.refl _
  | take | refuse | pass | join | resume | fail | abandon | release => exact notes_subset_write

theorem Turn.handed_subset (h : Turn c k k') : k.handed ⊆ k'.handed := by
  obtain ⟨_, _, l⟩ := h.line
  rw [l.handed]
  exact List.subset_append_left _ _

/-- Whoever has ended is handed no slot any more. -/
theorem Turn.not_handed (h : Turn c k k') (tidy : k.Tidy) (finished : k.Over) (ht : t ∈ k.ended)
    (hn : t ∉ k.handed) : t ∉ k'.handed := by
  obtain ⟨joined, new, l⟩ := h.line
  rw [l.handed]
  intro hmem
  rcases List.mem_append.1 hmem with hmem | hmem
  · exact hn hmem
  · rcases List.mem_append.1 (l.served.subset (List.mem_append_left _ hmem)) with hq | hjoined
    · obtain ⟨w, hw, rfl⟩ := tidy.waits hq
      exact finished.gone _ ht w hw rfl
    · rcases l.fresh with rfl | ⟨rfl, _⟩
      · cases hjoined
      · rw [List.mem_singleton.1 hjoined] at ht
        exact Nat.lt_irrefl _ (finished.early _ ht)

/-- What a turn makes of an attempt that waits. -/
theorem Turn.fate_of_waits (h : Turn c k k') (tidy : k.Tidy) (line : k.InLine)
    (timely : k.Timely) (here : .begun c t begun timeout ∈ k.waiting) :
    Fate c k' t begun timeout := by
  have hstays : ∀ u : Waiting, u.ticket ≠ t →
      .begun c t begun timeout ∈ k.waiting.filter fun w => w.ticket != u.ticket := by
    intro u hu
    exact List.mem_filter.2 ⟨here, bne_iff_ne.2 (Ne.symm hu)⟩
  have hkeeps := h.handed_subset
  cases h with
  | aside | elapse | take | refuse | pass | release => exact .waits here
  | join => exact .waits (List.mem_cons_of_mem _ here)
  | @resume w waits granted =>
      by_cases hw : w.ticket = t
      · subst hw
        have hhanded := line.granted _ (Slots.mem_of_isGranted granted)
        exact .passed (mem_notes_write (List.mem_singleton_self _)) (hkeeps hhanded)
          (timely.le here)
      · exact .waits (hstays w hw)
  | @fail w waits queued due =>
      by_cases hw : w.ticket = t
      · obtain rfl := tidy.eq_of_ticket waits here hw
        obtain ⟨limited, hnow⟩ := (timely.due_iff here).1 due
        refine .busy ?_ ?_ limited
        · rw [← hnow]
          exact mem_notes_write (List.mem_singleton_self _)
        · have hnew : k.slots.newlyGranted (k.slots.leave t) = [] :=
            Slots.newlyGranted_leave queued
          show t ∉ (k.write c (k.slots.leave t) _).handed
          rw [handed_write fun n hn => (told_end rfl n hn).2, hnew, List.append_nil]
          exact line.not_handed (tidy.queued waits queued)
      · exact .waits (hstays w hw)
  | @abandon w waits =>
      by_cases hw : w.ticket = t
      · subst hw
        exact .abandoned (mem_notes_write (List.mem_singleton_self _))
      · exact .waits (hstays w hw)

theorem Turn.fate (h : Turn c k k') (tidy : k.Tidy) (line : k.InLine) (finished : k.Over)
    (timely : k.Timely) (f : Fate c k t begun timeout) : Fate c k' t begun timeout := by
  cases f with
  | waits here => exact h.fate_of_waits tidy line timely here
  | passed answer handed inTime =>
      exact .passed (h.notes_subset answer) (h.handed_subset handed) inTime
  | busy answer unhanded limited =>
      have hended : t ∈ k.ended := List.mem_filterMap.2 ⟨_, answer, rfl⟩
      exact .busy (h.notes_subset answer) (h.not_handed tidy finished hended unhanded) limited
  | abandoned gone => exact .abandoned (h.notes_subset gone)

/-- A note on a wait is not one on a slot handed over. -/
theorem waits_of_mem_write {told : List GateNote}
    (h : ⟨c, some t, begun, .waits timeout⟩ ∈ (k.write c s told).notes) :
    ⟨c, some t, begun, .waits timeout⟩ ∈ k.notes ∨ ⟨c, some t, begun, .waits timeout⟩ ∈ told := by
  rcases List.mem_append.1 h with h | h
  · exact List.mem_append.1 h
  · obtain ⟨_, _, heq⟩ := List.mem_map.1 h
    cases heq

/-- A note on a wait is old, or the attempt has just begun to wait. -/
theorem Turn.waits_note (h : Turn c k k')
    (hn : ⟨c, some t, begun, .waits timeout⟩ ∈ k'.notes) :
    ⟨c, some t, begun, .waits timeout⟩ ∈ k.notes ∨ .begun c t begun timeout ∈ k'.waiting := by
  cases h with
  | aside | elapse => exact Or.inl hn
  | take | refuse | pass | resume | fail | abandon =>
      rcases waits_of_mem_write hn with hn | hn
      · exact Or.inl hn
      · cases (told_end rfl _ hn).1
  | release => exact Or.inl ((waits_of_mem_write hn).resolve_right List.not_mem_nil)
  | join full =>
      rcases waits_of_mem_write hn with hn | hn
      · exact Or.inl hn
      · cases List.mem_singleton.1 hn
        exact Or.inr (List.mem_cons_self ..)

end Fates

/-- Everything is in order at the desk of a class. -/
structure Orderly (c : ResourceClass) (k : Desk) : Prop where
  line : k.InLine
  finished : k.Over
  timely : k.Timely
  fates : ∀ t begun timeout, ⟨c, some t, begun, .waits timeout⟩ ∈ k.notes →
    Fate c k t begun timeout

theorem Orderly.turn (h : k.Orderly c) (tidy : k.Tidy) (ht : Turn c k k') : k'.Orderly c where
  line := h.line.turn ht
  finished := h.finished.turn tidy ht
  timely := h.timely.turn ht
  fates := by
    intro t begun timeout hn
    rcases ht.waits_note hn with hn | hnew
    · exact ht.fate tidy h.line h.finished h.timely (h.fates _ _ _ hn)
    · exact .waits hnew

/-- Nobody has come yet. -/
theorem Orderly.start (hn : k.notes = []) (hw : k.waiting = []) (hq : k.slots.queue = [])
    (hg : k.slots.granted = []) : k.Orderly c where
  line := by constructor <;> simp [begun, handed, ticketsOn, hn, hq, hg]
  finished := by constructor <;> simp [ended, ticketsOn, hn]
  timely := by simp [Timely, hw]
  fates := by simp [hn]

end Desk

namespace Vigil

variable {config : GateConfig} {v : Vigil} {c : ResourceClass} {xs : List Doing}

theorem Sound.tidy (h : v.Sound config) (c : ResourceClass) : (v.desk c).Tidy where
  tickets := (h.balanced c).tickets
  before := fun w hw => h.ticketed.before w (List.mem_filter.1 hw).1
  distinct := h.ticketed.distinct.sublist (List.filter_sublist.map _)

/-- Every run keeps the order of a bounded class. -/
theorem orderly_of_runs (hs : v.Sound config) (hc : 0 < (config.get c).capacity)
    (h : (v.desk c).Orderly c) (hxs : v.Runs xs) : ((v.after xs).desk c).Orderly c := by
  induction xs generalizing v with
  | nil => exact h
  | cons x xs ih =>
      obtain ⟨hx, hxs⟩ := hxs
      have hturn := turn_of_doing hs.ticketed hs.balanced hc hx
      exact ih (hs.step x) (h.turn (hs.tidy c) hturn) hxs

theorem Sound.after (h : v.Sound config) (xs : List Doing) : (v.after xs).Sound config := by
  induction xs generalizing v with
  | nil => exact h
  | cons x xs ih => exact ih (h.step x)

/-- A bounded class is in order after every run in virtual time. -/
theorem orderly_after (config : GateConfig) (hc : 0 < (config.get c).capacity)
    (hxs : (opened config).Runs xs) : (((opened config).after xs).desk c).Orderly c := by
  refine orderly_of_runs (Sound.opened config) hc (Desk.Orderly.start rfl rfl ?_ ?_) hxs
  · simp [desk, opened, Crowd.opened, Gate.ofConfig, Slots.ofLimit]
  · simp [desk, opened, Crowd.opened, Gate.ofConfig, Slots.ofLimit]

end Vigil

end Backlog
