import Backlog.Proofs.Service.Dealings
import Backlog.Proofs.Task.Check
/-!
# How the service deals with any store

Whatever a store says, the service keeps to a few rules.  A submission inserts once at most, right
after a search that found nothing; it gives the wake signal exactly when it answers with a queued
task; and the task of its answer is either the one it has just inserted or what its last search
found.  A request that is refused has given no signal and has changed nothing, if calls that fail or
count nothing change nothing.  And a request with a blank in a required place never gets as far as
the store.

The rules of a submission follow from what lies behind each of its points, `Submit.Record`: there
are few ways to a point, and each act on the way is known with what the store said to it.  That a
refused request changed nothing is said of all requests at once.  It does not need the ways, only
that no reply which changes something leads to a point from which a request can still be refused
(`Party.idle_of_asks`).

## Main results

* `IdleWhileOpen.deals` — a request that has not succeeded has made no call that changes anything.
* `Submit.Record.deals` — what lies behind the points of a submission.
* `service_conduct` — the rules, for all requests and all stores.
-/

namespace Backlog

open Text (trim)

variable {H S : Type}

/-! ## Requests -/

/-- Whether a required text of a request is blank. -/
def Arrival.isBlank : Arrival H → Bool
  | submit form => (trim form.kind).isEmpty || (trim form.owner).isEmpty ||
      (trim form.creator).isEmpty || (trim form.target).isEmpty
  | cancel idText owner | lookup owner idText => (trim idText).isEmpty || (trim owner).isEmpty
  | listing owner _ _ => (trim owner).isEmpty
  | attempt _ | sweep _ _ => false

/-- Whether something that arrives is a request to the service. -/
def Arrival.isRequest : Arrival H → Bool
  | submit _ | cancel _ _ | lookup _ _ | listing _ _ _ => true
  | attempt _ | sweep _ _ => false

namespace Party

/-- Whether a party is a request to the service. -/
def isRequest : Party H → Bool
  | submit _ | cancel _ | lookup _ | listing _ => true
  | attempt _ _ | sweep _ => false

/-- Whether a request was answered with an error. -/
def isRefused : Party H → Bool
  | submit (.done (.error _)) | cancel (.done (.error _)) | lookup (.done (.error _))
  | listing (.done (.error _)) => true
  | _ => false

/-- Whether a party is a request that can still be refused, or was. -/
def isOpen : Party H → Bool
  | submit (.signal _) | submit (.done (.ok _)) | cancel (.done (.ok _)) | lookup (.done (.ok _))
  | listing (.done (.ok _)) => false
  | submit _ | cancel _ | lookup _ | listing _ => true
  | attempt _ _ | sweep _ => false

theorem isOpen_of_isRefused {p : Party H} (h : p.isRefused = true) : p.isOpen = true := by
  unfold isRefused at h
  split at h <;> first | rfl | cases h

/-- A refused request does nothing more. -/
theorem rests_of_isRefused {p : Party H} (h : p.isRefused = true) (now : Instant)
    (fresh : TaskId) : p.move now fresh = .rest := by
  unfold isRefused at h
  split at h <;> first | rfl | cases h

end Party

/-- A submission with a blank in a required place does not pass the check. -/
theorem Submission.check_of_blank {form : SubmissionForm}
    (h : (Arrival.submit form : Arrival H).isBlank = true) :
    ∃ e, Submission.check form = .error e := by
  simp only [Arrival.isBlank, Bool.or_eq_true, String.isEmpty_iff, Text.trim_eq_empty_iff] at h
  have hblank : ¬ form.SaysAll := by
    rintro hfull
    obtain ⟨hkind, howner, hcreator, htarget⟩ := SubmissionForm.saysAll_iff.1 hfull
    exact h.elim (fun h => h.elim (fun h => h.elim hkind howner) hcreator) htarget
  obtain ⟨_, p, _, _, _, _, hcheck⟩ := check_of_not_saysAll hblank
  exact ⟨_, hcheck⟩

/-- A request with a blank in a required place is refused at once. -/
theorem Arrival.isRefused_of_isBlank {a : Arrival H} (h : a.isBlank = true) :
    a.party.isRefused = true := by
  cases a with
  | attempt _ | sweep _ _ => cases h
  | submit form =>
      obtain ⟨e, he⟩ := Submission.check_of_blank h
      simp only [party, Submit.start, he]
      rfl
  | cancel idText owner =>
      rw [isBlank] at h
      simp only [party, Cancel.start, h, if_true]
      rfl
  | lookup owner idText =>
      rw [isBlank, Bool.or_eq_true] at h
      simp only [party, Lookup.start]
      split
      · rfl
      · next howner =>
          rw [TaskId.readTrimmed?_of_blank (h.resolve_right howner)]
          rfl
  | listing owner status limit =>
      rw [isBlank] at h
      simp only [party, Listing.start, h, if_true]
      rfl

/-! ## What a refused request has done -/

/-- A reply that leads to a request that can still be refused has changed nothing. -/
theorem Party.idle_of_asks {met : Encounter S} {p : Party H} {c : StoreCall}
    {next : c.Reply → Party H} (asks : p.Asks met.now met.fresh c next)
    (h : (next (met.replies c)).isOpen = true) :
    p.isOpen = true ∧ ((Act.call met c).isLookup = true ∨ (Act.call met c).isVain = true) := by
  cases asks with
  | poll | claim | recheck | complete | sweep => cases h
  | search | searchAgain | cancelRead | lookup | listing => exact ⟨rfl, Or.inl rfl⟩
  | @insert s t =>
      refine ⟨rfl, Or.inr ?_⟩
      simp only [Act.isVain]
      cases hr : met.replies (.insert t) with
      | error e => rfl
      | ok _ =>
          rw [hr] at h
          cases h
  | @cancelWrite id owner =>
      refine ⟨rfl, Or.inr ?_⟩
      simp only [Act.isVain]
      cases hr : met.replies (.updateIf id (Cancel.guard owner) Update.cancel) with
      | error e => rfl
      | ok rows =>
          rw [hr] at h
          simp only [Cancel.written] at h
          split at h
          · cases h
          · next hrows => exact beq_iff_eq.2 (Nat.eq_zero_of_not_pos hrows)

namespace Dealing

variable {d d' : Dealing H S}

/-- A request that has not succeeded has given no signal and made no call that changes anything. -/
def IdleWhileOpen (d : Dealing H S) : Prop :=
  d.party.isOpen = true →
    ∀ act ∈ d.acts, act.isSignal = false ∧ (act.isLookup = true ∨ act.isVain = true)

theorem IdleWhileOpen.deals (hs : Deals d d') (h : d.IdleWhileOpen) : d'.IdleWhileOpen := by
  cases hs with
  | rest => exact h
  | signal _ =>
      intro hopen
      cases hopen
  | call met asks =>
      intro hopen act hact
      obtain ⟨hbefore, hidle⟩ := Party.idle_of_asks asks hopen
      rcases List.mem_cons.1 hact with rfl | hold
      · exact ⟨rfl, hidle⟩
      · exact h hbefore act hold

/-- A request that was refused has left the store alone, if calls that fail or count nothing do. -/
theorem keeps_of_isRefused (h : d.IdleWhileOpen) (hrefused : d.party.isRefused = true) :
    .signal ∉ d.acts ∧ ((∀ act ∈ d.acts, act.isVain = true → act.Keeps) →
      ∀ act ∈ d.acts, act.isLookup = true ∨ act.Keeps) := by
  have hidle := h (Party.isOpen_of_isRefused hrefused)
  refine ⟨?_, ?_⟩
  · intro hsignal
    cases (hidle _ hsignal).1
  · intro hvain act hact
    exact (hidle act hact).2.imp_right (hvain act hact)

/-- A refused request meets nobody. -/
theorem deal_of_isRefused (h : d.party.isRefused = true) (mets : List (Encounter S)) :
    d.deal mets = d := by
  induction mets with
  | nil => rfl
  | cons met mets ih =>
      have hrests : d.meet met = d := by
        rw [meet, Party.rests_of_isRefused h]
      show (d.meet met).deal mets = d
      rw [hrests, ih]

end Dealing

/-! ## What a submission has done -/

/-- What lies behind a point of a submission, the last act first. -/
inductive Submit.Record (form : SubmissionForm) : Submit → List (Act S) → Prop where
  | rejected {e : TaskError} (check : Submission.check form = .error e) :
      Record form (.done (.error e)) []
  | search {s : Submission} (check : Submission.check form = .ok s) : Record form (.search s) []
  | insert {s : Submission} {first : Encounter S} (check : Submission.check form = .ok s)
      (missing : first.replies (.findActive s.key) = .ok none) :
      Record form (.insert s (s.task first.fresh first.now)) [.call first (.findActive s.key)]
  | searchAgain {s : Submission} {t : Task} {reason : String} {met : Encounter S}
      {acts : List (Act S)} (before : Record form (.insert s t) acts)
      (refused : met.replies (.insert t) = .error (.conflict reason)) :
      Record form (.searchAgain s) (.call met (.insert t) :: acts)
  | inserted {s : Submission} {t : Task} {met : Encounter S} {acts : List (Act S)}
      (before : Record form (.insert s t) acts) (taken : met.replies (.insert t) = .ok ()) :
      Record form (.signal t) (.call met (.insert t) :: acts)
  | found {p : Submit} {s : Submission} {t : Task} {met : Encounter S} {acts : List (Act S)}
      (before : Record form p acts) (searching : p = .search s ∨ p = .searchAgain s)
      (answer : met.replies (.findActive s.key) = .ok (some t)) (queued : t.status = .queued) :
      Record form (.signal t) (.call met (.findActive s.key) :: acts)
  | foundRunning {p : Submit} {s : Submission} {t : Task} {met : Encounter S}
      {acts : List (Act S)} (before : Record form p acts)
      (searching : p = .search s ∨ p = .searchAgain s)
      (answer : met.replies (.findActive s.key) = .ok (some t)) (running : t.status ≠ .queued) :
      Record form (.done (.ok t)) (.call met (.findActive s.key) :: acts)
  | announced {t : Task} {acts : List (Act S)} (before : Record form (.signal t) acts) :
      Record form (.done (.ok t)) (.signal :: acts)
  | searchFailed {p : Submit} {s : Submission} {e : TaskError} {met : Encounter S}
      {acts : List (Act S)} (before : Record form p acts)
      (searching : p = .search s ∨ p = .searchAgain s) :
      Record form (.done (.error e)) (.call met (.findActive s.key) :: acts)
  | insertFailed {s : Submission} {t : Task} {e : TaskError} {met : Encounter S}
      {acts : List (Act S)} (before : Record form (.insert s t) acts) :
      Record form (.done (.error e)) (.call met (.insert t) :: acts)

namespace Submit.Record

variable {form : SubmissionForm} {p : Submit} {acts : List (Act S)}

theorem start (form : SubmissionForm) : Record form (Submit.start form) ([] : List (Act S)) := by
  unfold Submit.start
  cases hc : Submission.check form with
  | error e => exact .rejected hc
  | ok s => exact .search hc

/-- A search that finds a task answers with it. -/
theorem answerWith {s : Submission} {t : Task} {met : Encounter S} (h : Record form p acts)
    (searching : p = .search s ∨ p = .searchAgain s)
    (answer : met.replies (.findActive s.key) = .ok (some t)) :
    Record form (Submit.answerWith t) (.call met (.findActive s.key) :: acts) := by
  unfold Submit.answerWith
  split
  · next hq => exact .found h searching answer hq
  · next hq => exact .foundRunning h searching answer hq

/-- What lies behind the points of a submission, through every encounter. -/
theorem deals {d d' : Dealing H S} (hs : d.Deals d') (hp : d.party = .submit p)
    (h : Record form p d.acts) : ∃ q, d'.party = .submit q ∧ Record form q d'.acts := by
  cases hs with
  | rest => exact ⟨p, hp, h⟩
  | signal stood =>
      rw [hp] at stood
      cases stood
      exact ⟨_, rfl, .announced h⟩
  | @call c next met asks =>
      rw [hp] at asks
      cases asks with
      | @search s =>
          refine ⟨_, rfl, ?_⟩
          rcases hr : met.replies (.findActive s.key) with e | _ | t
          · exact .searchFailed h (Or.inl rfl)
          · generalize d.acts = acts at h
            cases h with
            | search check => exact .insert check hr
          · exact h.answerWith (Or.inl rfl) hr
      | @insert s t =>
          refine ⟨_, rfl, ?_⟩
          rcases hr : met.replies (.insert t) with (_ | _ | _) | _
          · exact .insertFailed h
          · exact .searchAgain h hr
          · exact .insertFailed h
          · exact .inserted h hr
      | @searchAgain s =>
          refine ⟨_, rfl, ?_⟩
          rcases hr : met.replies (.findActive s.key) with e | _ | t
          · exact .searchFailed h (Or.inr rfl)
          · exact .searchFailed h (Or.inr rfl)
          · exact h.answerWith (Or.inr rfl) hr

/-- How many inserts a submission may still make. -/
def insertsLeft : Submit → Nat
  | .search _ | .insert _ _ => 1
  | _ => 0

/-- A submission inserts once at most. -/
theorem countP_insert (h : Record form p acts) :
    acts.countP Act.isInsert + insertsLeft p ≤ 1 := by
  induction h with
  | rejected | search | insert => simp [Act.isInsert, insertsLeft]
  | searchAgain _ _ ih | inserted _ _ ih | insertFailed _ ih =>
      simp only [List.countP_cons, Act.isInsert, insertsLeft, if_true] at ih ⊢
      omega
  | announced _ ih | found _ _ _ _ ih | foundRunning _ _ _ _ ih | searchFailed _ _ ih =>
      simp only [List.countP_cons, Act.isInsert, insertsLeft, Bool.false_eq_true, if_false] at ih ⊢
      omega

/-- How many signals a submission has given. -/
def signalsGiven : Submit → Nat
  | .done (.ok t) => if t.status = .queued then 1 else 0
  | _ => 0

/-- A submission gives its signal when it answers with a queued task, and at no other time. -/
theorem countP_signal (h : Record form p acts) :
    acts.countP Act.isSignal = signalsGiven p ∧ ∀ t, p = .signal t → t.status = .queued := by
  induction h with
  | rejected | search | insert =>
      exact ⟨rfl, fun t heq => by cases heq⟩
  | searchAgain _ _ ih | insertFailed _ ih =>
      exact ⟨ih.1, fun t heq => by cases heq⟩
  | searchFailed _ searching ih =>
      refine ⟨ih.1.trans ?_, fun t heq => by cases heq⟩
      rcases searching with rfl | rfl <;> rfl
  | inserted before _ ih =>
      refine ⟨ih.1, ?_⟩
      rintro t ⟨⟩
      cases before with
      | insert => rfl
  | found _ searching _ queued ih =>
      refine ⟨ih.1.trans ?_, fun t heq => by cases heq; exact queued⟩
      rcases searching with rfl | rfl <;> rfl
  | foundRunning _ searching _ running ih =>
      refine ⟨ih.1.trans ?_, fun t heq => by cases heq⟩
      rw [signalsGiven, if_neg running]
      rcases searching with rfl | rfl <;> rfl
  | announced _ ih =>
      refine ⟨?_, fun t heq => by cases heq⟩
      rw [List.countP_cons, ih.1, signalsGiven, if_pos (ih.2 _ rfl)]
      rfl

theorem signalsGiven_le (p : Submit) : signalsGiven p ≤ 1 := by
  unfold signalsGiven
  split
  · split <;> decide
  · decide

theorem signalsGiven_pos_iff {p : Submit} :
    0 < signalsGiven p ↔ ∃ t, p = .done (.ok t) ∧ t.status = .queued := by
  unfold signalsGiven
  split
  · next t =>
      by_cases hq : t.status = .queued
      · rw [if_pos hq]
        exact ⟨fun _ => ⟨t, rfl, hq⟩, fun _ => Nat.one_pos⟩
      · rw [if_neg hq]
        refine ⟨fun h => absurd h (Nat.lt_irrefl 0), ?_⟩
        rintro ⟨u, heq, hu⟩
        cases heq
        exact absurd hu hq
  · next hnot =>
      refine ⟨fun h => absurd h (Nat.lt_irrefl 0), ?_⟩
      rintro ⟨t, rfl, _⟩
      exact absurd rfl (hnot t)

/-- Right before its insert a submission has searched and found nothing. -/
theorem searched (h : Record form p acts) {met : Encounter S} {t : Task} {before : List (Act S)}
    (hsuffix : .call met (.insert t) :: before <:+ acts) :
    ∃ first, before = [.call first (.findActive t.key)] ∧
      first.replies (.findActive t.key) = .ok none := by
  have hnew : ∀ {form s t} {acts : List (Act S)}, Record form (.insert s t) acts →
      ∃ first : Encounter S, acts = [.call first (.findActive t.key)] ∧
        first.replies (.findActive t.key) = .ok none := by
    intro form s t acts hrecord
    cases hrecord with
    | insert check missing => exact ⟨_, rfl, missing⟩
  induction h with
  | rejected | search => cases List.eq_nil_of_suffix_nil hsuffix
  | insert check missing =>
      rcases List.suffix_cons_iff.1 hsuffix with heq | hold
      · cases heq
      · cases List.eq_nil_of_suffix_nil hold
  | searchAgain hbefore _ ih | inserted hbefore _ ih | insertFailed hbefore ih =>
      rcases List.suffix_cons_iff.1 hsuffix with heq | hold
      · cases heq
        exact hnew hbefore
      · exact ih hold
  | announced _ ih | found _ _ _ _ ih | foundRunning _ _ _ _ ih | searchFailed _ _ ih =>
      rcases List.suffix_cons_iff.1 hsuffix with heq | hold
      · cases heq
      · exact ih hold

end Submit.Record

/-- The task is one the submission made when its search found nothing, and has just inserted. -/
def InsertedJust (form : SubmissionForm) (t : Task) (acts : List (Act S)) : Prop :=
  ∃ s first second, Submission.check form = .ok s ∧ t = s.task first.fresh first.now ∧
    second.replies (.insert t) = .ok () ∧
    acts = [.call second (.insert t), .call first (.findActive s.key)]

/-- The task is what the last search found. -/
def FoundLast (t : Task) (acts : List (Act S)) : Prop :=
  ∃ met k, acts.find? Act.isSearch = some (.call met (.findActive k)) ∧
    met.replies (.findActive k) = .ok (some t)

namespace Submit.Record

variable {form : SubmissionForm} {p : Submit} {acts : List (Act S)}

/-- Where the task of a signal is from. -/
theorem source_of_signal {t : Task} (h : Record form (.signal t) acts) :
    InsertedJust form t acts ∨ FoundLast t acts := by
  cases h with
  | inserted before taken =>
      cases before with
      | insert check missing => exact Or.inl ⟨_, _, _, check, rfl, taken, rfl⟩
  | found before searching answer queued => exact Or.inr ⟨_, _, rfl, answer⟩

/-- Where the task of an answer is from. -/
theorem source_of_answer {t : Task} (h : Record form (.done (.ok t)) acts) :
    (∃ before, acts = .signal :: before ∧ InsertedJust form t before) ∨ FoundLast t acts := by
  cases h with
  | foundRunning before searching answer running => exact Or.inr ⟨_, _, rfl, answer⟩
  | announced before =>
      rcases before.source_of_signal with hinserted | ⟨met, k, hfind, hanswer⟩
      · exact Or.inl ⟨_, rfl, hinserted⟩
      · exact Or.inr ⟨met, k, hfind, hanswer⟩

end Submit.Record

/-! ## The rules -/

/-- What a submission has done, and its answer. -/
structure SubmitConduct (form : SubmissionForm) (d : Dealing H S) : Prop where
  insertsOnce : d.acts.countP Act.isInsert ≤ 1
  /-- Right before the insert comes a search that found nothing. -/
  searchesFirst : ∀ met t before, .call met (.insert t) :: before <:+ d.acts →
    ∃ first, before = [.call first (.findActive t.key)] ∧
      first.replies (.findActive t.key) = .ok none
  signalsOnce : d.acts.countP Act.isSignal ≤ 1
  signals : .signal ∈ d.acts ↔ ∃ t, d.party = .submit (.done (.ok t)) ∧ t.status = .queued
  /-- The task of the answer was just inserted, or found by the last search. -/
  source : ∀ t, d.party = .submit (.done (.ok t)) →
    (∃ before, d.acts = .signal :: before ∧ InsertedJust form t before) ∨ FoundLast t d.acts

/-- What lies behind the points of a submission comes to its conduct. -/
theorem Submit.Record.conduct {form : SubmissionForm} {p : Submit} {d : Dealing H S}
    (hp : d.party = .submit p) (h : Record form p d.acts) : SubmitConduct form d := by
  obtain ⟨hsignals, _⟩ := h.countP_signal
  refine ⟨?_, fun _ _ _ hsuffix => h.searched hsuffix, ?_, ?_, ?_⟩
  · have hcount := h.countP_insert
    omega
  · rw [hsignals]
    exact signalsGiven_le p
  · have hmem : .signal ∈ d.acts ↔ 0 < d.acts.countP Act.isSignal := by
      rw [List.countP_pos_iff]
      refine ⟨fun hsignal => ⟨_, hsignal, rfl⟩, ?_⟩
      rintro ⟨act, hact, hsignal⟩
      cases act with
      | signal => exact hact
      | call met c => cases hsignal
    rw [hmem, hsignals, signalsGiven_pos_iff, hp]
    simp only [Party.submit.injEq]
  · intro t ht
    rw [hp] at ht
    cases ht
    exact h.source_of_answer

/-- The rules by which the service deals with a store: something arrived, and met these
encounters. -/
structure Conduct (a : Arrival H) (mets : List (Encounter S)) : Prop where
  submits : ∀ form, a = .submit form → SubmitConduct form (a.dealing mets)
  /-- A refused request has given no signal and left the store alone, if calls that fail or count
  nothing do. -/
  refused : (a.dealing mets).party.isRefused = true →
    .signal ∉ (a.dealing mets).acts ∧
    ((∀ act ∈ (a.dealing mets).acts, act.isVain = true → act.Keeps) →
      ∀ act ∈ (a.dealing mets).acts, act.isLookup = true ∨ act.Keeps)
  /-- A blank in a required place is refused before any call. -/
  blank : a.isBlank = true → (a.dealing mets).party.isRefused = true ∧ (a.dealing mets).acts = []
  /-- A request is answered after four encounters. -/
  ends : a.isRequest = true → 4 ≤ mets.length → (a.dealing mets).party.isAnswered = true

/-- A submission that meets encounters has its ways behind it. -/
theorem record_deal (form : SubmissionForm) (mets : List (Encounter S)) :
    ∃ p, ((Arrival.submit form : Arrival H).dealing mets).party = .submit p ∧
      Submit.Record form p ((Arrival.submit form : Arrival H).dealing mets).acts :=
  Dealing.keeps_of_deals
    (P := fun d => ∃ p, d.party = .submit p ∧ Submit.Record form p d.acts)
    (fun _ _ hs ⟨_, hp, h⟩ => h.deals hs hp) ⟨_, rfl, .start form⟩ mets

/-- A request stays a request. -/
theorem Dealing.isRequest_deal {d : Dealing H S} (h : d.party.isRequest = true)
    (mets : List (Encounter S)) : (d.deal mets).party.isRequest = true := by
  refine keeps_of_deals (P := fun d => d.party.isRequest = true) ?_ h mets
  intro d d' hs h
  cases hs with
  | rest => exact h
  | signal _ => rfl
  | call met asks =>
      generalize d.party = p at asks h
      cases asks with
      | poll | claim | recheck | complete | sweep => cases h
      | _ => rfl

/-- A request that has no turn left was answered. -/
theorem Party.isAnswered_of_movesLeft {p : Party H} (h : p.isRequest = true)
    (hzero : p.movesLeft = 0) : p.isAnswered = true := by
  cases p with
  | attempt _ _ | sweep _ => cases h
  | submit s => cases s <;> first | rfl | cases hzero
  | cancel c => cases c <;> first | rfl | cases hzero
  | lookup l => cases l <;> first | rfl | cases hzero
  | listing l => cases l <;> first | rfl | cases hzero

/-- **Dealings of the service.**  Every request keeps to the rules, whatever the store says, however
its calls fail and whatever becomes of it between them. -/
theorem service_conduct (a : Arrival H) (mets : List (Encounter S)) : Conduct a mets := by
  refine ⟨?_, ?_, ?_, ?_⟩
  · rintro form rfl
    obtain ⟨p, hp, hrecord⟩ := record_deal (H := H) form mets
    exact hrecord.conduct hp
  · intro hrefused
    have hidle : (a.dealing mets).IdleWhileOpen :=
      Dealing.keeps_of_deals (fun _ _ hs h => h.deals hs) (fun _ _ hact => by cases hact) mets
    exact Dealing.keeps_of_isRefused hidle hrefused
  · intro hblank
    have hrefused := Arrival.isRefused_of_isBlank hblank
    rw [Arrival.dealing, Dealing.deal_of_isRefused hrefused]
    exact ⟨hrefused, rfl⟩
  · intro hrequest hlength
    have hle : (a.dealing mets).party.movesLeft ≤ a.party.movesLeft - mets.length :=
      Dealing.movesLeft_deal mets ⟨a.party, []⟩
    have hstart := a.party.movesLeft_le
    refine Party.isAnswered_of_movesLeft ?_ (by omega)
    refine Dealing.isRequest_deal ?_ mets
    cases a <;> first | rfl | cases hrequest

/-- A store that refuses every insert, though its searches find nothing. -/
def stubborn : Encounter Unit where
  now := .epoch
  fresh := Workshop.idOf 1
  before := ()
  replies
    | .insert _ => .error (.conflict "in flight")
    | c => .ok c.nothing
  after := ()

/-- A submission at such a store. -/
def refusedDealing : Dealing Unit Unit :=
  (Arrival.submit Workshop.invoiceForm).dealing (List.replicate 4 stubborn)

/-- It is refused after a search, an insert and another search. -/
example : refusedDealing.party.isRefused = true ∧
    refusedDealing.acts.map (fun act => (act.isSearch, act.isVain)) =
      [(true, false), (false, true), (true, false)] := by
  decide +kernel

end Backlog
