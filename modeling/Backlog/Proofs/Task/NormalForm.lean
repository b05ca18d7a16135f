import Backlog.Proofs.Database.Records
import Backlog.Proofs.Task.Check
/-!
# The normal form of a submission

A checked submission is in a normal form: no text is empty or has a blank at either end, a
fingerprint is there only if it says something, and a kind goes by its name.  The normal form is a
fixed point: written out as a form again it is checked to be itself, and nothing else is ever a
checked submission.

Because a normal form has no custom kind with a built-in name and no empty fingerprint, its key and
the texts of its key say the same.  Two submissions therefore ask for one piece of work exactly if
their texts do not differ after trimming, and the index of the table and the store in memory agree
on it.

## Main results

* `exists_check_iff_isNormal` — the checked submissions are those in normal form.
* `key_eq_iff_asksSame` — when two submissions have one key.
* `hasNormalForm` — all of it for one form.
-/

namespace Backlog

open Text Database

namespace SubmissionForm

/-- A fingerprint is missing or blank. -/
def LacksFingerprint (f : SubmissionForm) : Prop := ∀ a ∈ f.fingerprint, AllBlank a.toList

/-- Two forms ask for one piece of work: their texts do not differ after trimming. -/
structure AsksSame (f g : SubmissionForm) : Prop where
  kind : trim f.kind = trim g.kind
  owner : trim f.owner = trim g.owner
  target : trim f.target = trim g.target
  fingerprint : (f.LacksFingerprint ∧ g.LacksFingerprint) ∨
    ∃ a b, f.fingerprint = some a ∧ g.fingerprint = some b ∧ trim a = trim b

end SubmissionForm

/-- A kind is denoted by its own name unless it is a custom one with a built-in name. -/
theorem TaskKind.isNamed_iff {k : TaskKind} :
    k.isNamed = true ↔ ∀ n, k = .custom n → n ≠ "payment_ocr" ∧ n ≠ "invoice_ocr" := by
  constructor
  · rintro h n rfl
    have hname : TaskKind.ofName n = .custom n := eq_of_beq h
    constructor
    · exact fun hn => TaskKind.ofName_ne_custom (.inl hn) hname
    · exact fun hn => TaskKind.ofName_ne_custom (.inr hn) hname
  · intro h
    cases k with
    | paymentOcr => rfl
    | invoiceOcr => rfl
    | custom n =>
        have hn := h n rfl
        rw [TaskKind.isNamed, TaskKind.name, TaskKind.ofName, if_neg hn.1, if_neg hn.2]
        exact beq_self_eq_true _

namespace Submission

variable {f g : SubmissionForm} {s t : Submission} {a : String}

/-! ## Normal forms -/

/-- A text that says something, with no blank at either end. -/
structure IsTidy (a : String) : Prop where
  nonempty : a ≠ ""
  trimmed : IsTrimmed a.toList

theorem IsTidy.trim_eq (h : IsTidy a) : trim a = a := by
  rw [trim, h.trimmed.trimChars_eq_self, String.ofList_toList]

theorem IsTidy.not_allBlank (h : IsTidy a) : ¬ AllBlank a.toList := by
  rw [← trim_eq_empty_iff, h.trim_eq]
  exact h.nonempty

/-- What trimming leaves of a text that says something is tidy. -/
theorem isTidy_trim (h : ¬ AllBlank a.toList) : IsTidy (trim a) := by
  constructor
  · exact mt trim_eq_empty_iff.1 h
  · rw [toList_trim]
    exact isTrimmed_trimChars a.toList

/-- A submission whose texts are tidy and whose kind goes by its name. -/
structure IsNormal (s : Submission) : Prop where
  kind : IsTidy s.kind.name
  owner : IsTidy s.owner
  creator : IsTidy s.creator
  target : IsTidy s.target
  fingerprint : ∀ a ∈ s.fingerprint, IsTidy a
  /-- The kind is no custom one with a built-in name. -/
  named : ∀ n, s.kind = .custom n → n ≠ "payment_ocr" ∧ n ≠ "invoice_ocr"

/-- The form with the texts of a submission. -/
def form (s : Submission) : SubmissionForm :=
  ⟨s.kind.name, s.owner, s.creator, s.target, s.fingerprint⟩

/-- What a form with something in every required text is brought to is normal. -/
theorem isNormal_normal (h : f.SaysAll) : f.normal.IsNormal := by
  obtain ⟨hkind, howner, hcreator, htarget⟩ := SubmissionForm.saysAll_iff.1 h
  constructor
  · rw [SubmissionForm.kind_normal, TaskKind.name_ofName]
    exact isTidy_trim hkind
  · exact isTidy_trim howner
  · exact isTidy_trim hcreator
  · exact isTidy_trim htarget
  · intro a ha
    obtain ⟨b, -, hblank, rfl⟩ := fingerprint?_eq_some_iff.1 ha
    exact isTidy_trim hblank
  · rw [SubmissionForm.kind_normal]
    exact TaskKind.isNamed_iff.1 (TaskKind.isNamed_ofName (trim f.kind))

/-- A normal submission written out as a form is checked to be itself. -/
theorem IsNormal.check_form (h : s.IsNormal) : check s.form = .ok s := by
  have hfull : s.form.SaysAll := SubmissionForm.saysAll_iff.2
    ⟨h.kind.not_allBlank, h.owner.not_allBlank, h.creator.not_allBlank, h.target.not_allBlank⟩
  have hkind : TaskKind.ofName (trim s.kind.name) = s.kind := by
    rw [h.kind.trim_eq]
    exact eq_of_beq (TaskKind.isNamed_iff.2 h.named)
  have hfingerprint : fingerprint? s.fingerprint = s.fingerprint := by
    cases hs : s.fingerprint with
    | none => rfl
    | some a =>
        have ha := h.fingerprint a hs
        exact fingerprint?_eq_some_iff.2 ⟨a, rfl, ha.not_allBlank, ha.trim_eq⟩
  refine check_eq_ok_iff.2 ⟨hfull, ?_⟩
  rw [SubmissionForm.normal, form]
  simp only [hkind, h.owner.trim_eq, h.creator.trim_eq, h.target.trim_eq, hfingerprint]

theorem isNormal_of_check (h : check f = .ok s) : s.IsNormal := by
  obtain ⟨hfull, rfl⟩ := check_eq_ok_iff.1 h
  exact isNormal_normal hfull

/-- The checked submissions are those in normal form. -/
theorem exists_check_iff_isNormal : (∃ f, check f = .ok s) ↔ s.IsNormal :=
  ⟨fun ⟨_, h⟩ => isNormal_of_check h, fun h => ⟨s.form, h.check_form⟩⟩

/-! ## Keys -/

/-- Two accepted submissions have one key exactly if their forms ask for one piece of work. -/
theorem key_eq_iff_asksSame (hs : check f = .ok s) (ht : check g = .ok t) :
    s.key = t.key ↔ f.AsksSame g := by
  obtain ⟨-, rfl⟩ := check_eq_ok_iff.1 hs
  obtain ⟨-, rfl⟩ := check_eq_ok_iff.1 ht
  have hkind : TaskKind.ofName (trim f.kind) = TaskKind.ofName (trim g.kind) ↔
      trim f.kind = trim g.kind := ⟨TaskKind.ofName_injective, congrArg _⟩
  simp only [key, SubmissionForm.normal, WorkKey.mk.injEq, hkind, fingerprint?_eq_iff]
  exact ⟨fun h => ⟨h.1, h.2.1, h.2.2.1, h.2.2.2⟩,
    fun h => ⟨h.kind, h.owner, h.target, h.fingerprint⟩⟩

/-- The keys of normal submissions are told apart by their texts. -/
theorem IsNormal.texts_key_inj (hs : s.IsNormal) (ht : t.IsNormal) :
    s.key.texts = t.key.texts ↔ s.key = t.key := by
  refine WorkKey.texts_inj (TaskKind.isNamed_iff.2 hs.named) (TaskKind.isNamed_iff.2 ht.named)
    (fun h => ?_) (fun h => ?_)
  · exact (hs.fingerprint "" h).nonempty rfl
  · exact (ht.fingerprint "" h).nonempty rfl

/-- Checking brings a form into one normal form, which fixes its key. -/
structure HasNormalForm (f : SubmissionForm) : Prop where
  /-- A form is accepted exactly if every required text has a character that is not blank. -/
  accepted_iff : (∃ s, check f = .ok s) ↔ f.SaysAll
  /-- A form that is not accepted is refused for its first blank text. -/
  refused : ¬ f.SaysAll → ∃ before p after, f.required = before ++ p :: after ∧
    (∀ q ∈ before, ∃ c ∈ q.2.toList, isBlank c = false) ∧ AllBlank p.2.toList ∧
    check f = .error (.invalidInput ("missing " ++ p.1))
  /-- No text of an accepted submission is empty or has a blank at either end, and its kind is no
  custom one with a built-in name. -/
  normal : ∀ s, check f = .ok s → s.IsNormal
  /-- An accepted submission lacks a fingerprint exactly if it was missing or blank. -/
  fingerprint_none_iff : ∀ s, check f = .ok s → (s.fingerprint = none ↔ f.LacksFingerprint)
  /-- The texts of an accepted submission are checked to be the same submission. -/
  again : ∀ s, check f = .ok s → check s.form = .ok s
  /-- Two accepted submissions have one key exactly if their texts do not differ after trimming. -/
  key_iff : ∀ g s t, check f = .ok s → check g = .ok t → (s.key = t.key ↔ f.AsksSame g)
  /-- Their keys have the same texts exactly if they are the same. -/
  texts_iff : ∀ g s t, check f = .ok s → check g = .ok t →
    (s.key.texts = t.key.texts ↔ s.key = t.key)
  /-- The index over the work in flight holds only one of their tasks exactly if their keys are the
  same. -/
  collides_iff : ∀ g s t, check f = .ok s → check g = .ok t → ∀ id id' now now',
    (Schema.inFlightIndex.collides (Record.ofTask (s.task id now)) (Record.ofTask (t.task id' now'))
      = true ↔ s.key = t.key)

/-- **Every form has one normal form**: what is refused, what is left of the rest, and when two
submissions ask for one piece of work, in memory as in the table. -/
theorem hasNormalForm (f : SubmissionForm) : HasNormalForm f where
  accepted_iff := by simp [check_eq_ok_iff]
  refused := check_of_not_saysAll
  normal _ := isNormal_of_check
  fingerprint_none_iff := by
    intro s hs
    obtain ⟨-, rfl⟩ := check_eq_ok_iff.1 hs
    exact fingerprint?_eq_none_iff
  again _ hs := (isNormal_of_check hs).check_form
  key_iff _ _ _ := key_eq_iff_asksSame
  texts_iff _ _ _ hs ht := (isNormal_of_check hs).texts_key_inj (isNormal_of_check ht)
  collides_iff := by
    intro g s t hs ht id id' now now'
    have htexts := (isNormal_of_check hs).texts_key_inj (isNormal_of_check ht)
    rw [collides_inFlightIndex_iff_texts, key_task, key_task, htexts]
    simp [task, Status.isActive]

/-- Two spellings of one piece of work, the fingerprint blank in one and missing in the other. -/
example : [⟨" invoice_ocr", "u1", "u1", "inv\u00a01\u2003", some "\u3000"⟩,
    ⟨"invoice_ocr\n", "u1", "u2", "inv\u00a01", none⟩].map (fun f => (check f).map key) =
    List.replicate 2 (.ok ⟨.invoiceOcr, "u1", "inv\u00a01", none⟩) := by
  decide +kernel

end Submission

end Backlog
