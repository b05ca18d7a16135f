import Backlog.Proofs.Text.Trim
import Backlog.Task.Submission
/-!
# Checking a submission

Checking looks at the required texts of a form in a fixed order and refuses it for the first that is
blank throughout.  A form without one is brought to a submission (`SubmissionForm.normal`): every
text is trimmed, the kind is the one its name denotes, and a fingerprint is kept only if something
is left of it.  Whatever is known of a checked submission follows from these two facts
(`check_eq_ok_iff`), without going through the check again.

## Main results

* `check_eq` — what checking a form comes to.
* `check_eq_ok_iff` — which forms are accepted, and as what.
* `fingerprint?_eq_some_iff`, `fingerprint?_eq_iff` — what is left of a fingerprint, and of two.
-/

namespace Backlog

open Text

/-! ## Forms -/

namespace SubmissionForm

/-- The required texts in the order in which they are checked, each under the name of its field. -/
def required (f : SubmissionForm) : List (String × String) :=
  [("type", f.kind), ("owner_id", f.owner), ("created_by", f.creator), ("target_id", f.target)]

/-- Every required text says something. -/
def SaysAll (f : SubmissionForm) : Prop := ∀ p ∈ f.required, ∃ c ∈ p.2.toList, isBlank c = false

/-- The submission that a form is brought to. -/
def normal (f : SubmissionForm) : Submission :=
  ⟨TaskKind.ofName (trim f.kind), trim f.owner, trim f.creator, trim f.target,
    Submission.fingerprint? f.fingerprint⟩

variable {f : SubmissionForm}

@[simp] theorem kind_normal : f.normal.kind = TaskKind.ofName (trim f.kind) := by
  simp only [normal]

theorem saysAll_iff : f.SaysAll ↔ ¬ AllBlank f.kind.toList ∧ ¬ AllBlank f.owner.toList ∧
    ¬ AllBlank f.creator.toList ∧ ¬ AllBlank f.target.toList := by
  simp only [SaysAll, required, List.forall_mem_cons, List.not_mem_nil, false_imp_iff, implies_true,
    and_true, not_allBlank_iff]

end SubmissionForm

/-- The kind that a name denotes is denoted by its own name. -/
theorem TaskKind.isNamed_ofName (s : String) : (TaskKind.ofName s).isNamed = true := by
  simp [TaskKind.isNamed]

namespace Submission

variable {f : SubmissionForm} {s : Submission} {a : String} {v w : Option String}

/-! ## Checking -/

/-- A required text that is blank throughout is refused under the name of its field. -/
theorem required_of_blank {field value : String} (h : AllBlank value.toList) :
    required field value = .error (.invalidInput ("missing " ++ field)) := by
  rw [required, trim_eq_empty_iff.2 h]
  rfl

/-- A required text that says something is trimmed. -/
theorem required_of_not_blank {field value : String} (h : ¬ AllBlank value.toList) :
    required field value = .ok (trim value) := by
  have hnonempty : trim value ≠ "" := mt trim_eq_empty_iff.1 h
  rw [required, if_neg (by simpa using hnonempty)]

/-- The first of some texts, each under the name of its field, that is blank throughout. -/
def firstBlank? (ps : List (String × String)) : Option (String × String) :=
  ps.find? fun p => AllBlank p.2.toList

/-- A submission, unless one of some texts is blank throughout: the first such text is refused. -/
def unlessBlank (ps : List (String × String)) (s : Submission) : Except TaskError Submission :=
  match firstBlank? ps with
  | some p => .error (.invalidInput ("missing " ++ p.1))
  | none => .ok s

/-- A required text in front of others is the first to be refused. -/
theorem required_bind {field value : String} {ps : List (String × String)}
    {next : String → Except TaskError Submission} (h : next (trim value) = unlessBlank ps s) :
    required field value >>= next = unlessBlank ((field, value) :: ps) s := by
  by_cases hblank : AllBlank value.toList
  · have hfirst : firstBlank? ((field, value) :: ps) = some (field, value) :=
      List.find?_cons_of_pos (by simpa using hblank)
    rw [required_of_blank hblank, unlessBlank, hfirst]
    rfl
  · have hfirst : firstBlank? ((field, value) :: ps) = firstBlank? ps :=
      List.find?_cons_of_neg (by simpa using hblank)
    rw [required_of_not_blank hblank, unlessBlank, hfirst]
    exact h

/-- Checking refuses a form for its first blank text, and otherwise brings it to its normal form. -/
theorem check_eq (f : SubmissionForm) : check f = unlessBlank f.required f.normal :=
  required_bind (required_bind (required_bind (required_bind rfl)))

theorem firstBlank?_required : firstBlank? f.required = none ↔ f.SaysAll := by
  simp only [firstBlank?, List.find?_eq_none, decide_eq_true_eq, not_allBlank_iff,
    SubmissionForm.SaysAll]

/-- A form is accepted exactly if every required text says something, in its normal form. -/
theorem check_eq_ok_iff : check f = .ok s ↔ f.SaysAll ∧ f.normal = s := by
  rw [check_eq, unlessBlank, ← firstBlank?_required]
  cases firstBlank? f.required <;> simp

/-- A form is refused for a text that is blank, none of those before it being blank. -/
theorem check_of_not_saysAll (h : ¬ f.SaysAll) :
    ∃ before p after, f.required = before ++ p :: after ∧
      (∀ q ∈ before, ∃ c ∈ q.2.toList, isBlank c = false) ∧ AllBlank p.2.toList ∧
      check f = .error (.invalidInput ("missing " ++ p.1)) := by
  have hsome : firstBlank? f.required ≠ none := mt firstBlank?_required.1 h
  obtain ⟨p, hp⟩ := Option.ne_none_iff_exists'.1 hsome
  have hcheck : check f = .error (.invalidInput ("missing " ++ p.1)) := by
    rw [check_eq, unlessBlank, hp]
  obtain ⟨hblank, before, after, hsplit, hbefore⟩ := List.find?_eq_some_iff_append.1 hp
  refine ⟨before, p, after, hsplit, fun q hq => ?_, of_decide_eq_true hblank, hcheck⟩
  exact not_allBlank_iff.1 (by simpa using hbefore q hq)

/-! ## Fingerprints -/

/-- A fingerprint that is left is one that says something, trimmed. -/
theorem fingerprint?_eq_some_iff :
    fingerprint? v = some a ↔ ∃ b, v = some b ∧ ¬ AllBlank b.toList ∧ trim b = a := by
  rw [fingerprint?, Option.filter_eq_some_iff, Option.map_eq_some_iff]
  constructor
  · rintro ⟨⟨b, rfl, rfl⟩, hempty⟩
    refine ⟨b, rfl, ?_, rfl⟩
    rw [← trim_eq_empty_iff]
    simpa using hempty
  · rintro ⟨b, rfl, hblank, rfl⟩
    refine ⟨⟨b, rfl, rfl⟩, ?_⟩
    rw [← trim_eq_empty_iff] at hblank
    simpa using hblank

/-- No fingerprint is left exactly of one that is missing or blank. -/
theorem fingerprint?_eq_none_iff : fingerprint? v = none ↔ ∀ b ∈ v, AllBlank b.toList := by
  simp only [Option.eq_none_iff_forall_ne_some, ne_eq, fingerprint?_eq_some_iff, Option.mem_def]
  constructor
  · intro h b hb
    by_contra hblank
    exact h (trim b) ⟨b, hb, hblank, rfl⟩
  · rintro h a ⟨b, hb, hblank, -⟩
    exact hblank (h b hb)

/-- The same is left of two fingerprints if nothing is left of either, or if they do not differ
after trimming. -/
theorem fingerprint?_eq_iff : fingerprint? v = fingerprint? w ↔
    ((∀ a ∈ v, AllBlank a.toList) ∧ ∀ b ∈ w, AllBlank b.toList) ∨
      ∃ a b, v = some a ∧ w = some b ∧ trim a = trim b := by
  constructor
  · intro h
    cases hw : fingerprint? w with
    | none =>
        rw [hw] at h
        exact .inl ⟨fingerprint?_eq_none_iff.1 h, fingerprint?_eq_none_iff.1 hw⟩
    | some c =>
        rw [hw] at h
        obtain ⟨a, ha, -, hac⟩ := fingerprint?_eq_some_iff.1 h
        obtain ⟨b, hb, -, hbc⟩ := fingerprint?_eq_some_iff.1 hw
        exact .inr ⟨a, b, ha, hb, hac.trans hbc.symm⟩
  · rintro (⟨hv, hw⟩ | ⟨a, b, rfl, rfl, hab⟩)
    · rw [fingerprint?_eq_none_iff.2 hv, fingerprint?_eq_none_iff.2 hw]
    · rw [fingerprint?, fingerprint?, Option.map_some, Option.map_some, hab]

end Submission

end Backlog
