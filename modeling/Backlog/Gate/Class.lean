/-!
# Resource classes

Expensive operations come in classes, and the number of operations of one class that run at the
same time is capped. `PerClass` is one value for each class.
-/

namespace Backlog

/-- A class of expensive operation. -/
inductive ResourceClass where
  /-- Optical character recognition. -/
  | ocr
  /-- Export of many documents at once. -/
  | bulkExport
  /-- Download of messages and their attachments. -/
  | emailDownload
  deriving DecidableEq, Repr, Inhabited

namespace ResourceClass

/-- Every class. -/
def all : List ResourceClass := [ocr, bulkExport, emailDownload]

/-- The words people read. -/
def label : ResourceClass → String
  | ocr => "ocr"
  | bulkExport => "bulk export"
  | emailDownload => "email download"

/-- The name on the wire. -/
def name : ResourceClass → String
  | ocr => "ocr"
  | bulkExport => "bulk_export"
  | emailDownload => "email_download"

/-- The class with this name on the wire. -/
def ofName? (s : String) : Option ResourceClass := all.find? fun c => c.name == s

@[simp] theorem mem_all (c : ResourceClass) : c ∈ all := by cases c <;> decide

end ResourceClass

/-- One value for each resource class. -/
@[ext] structure PerClass (α : Type) where
  ocr : α
  bulkExport : α
  emailDownload : α
  deriving DecidableEq, Repr

namespace PerClass

variable {α β : Type}

/-- The value of a class. -/
def get (p : PerClass α) : ResourceClass → α
  | .ocr => p.ocr
  | .bulkExport => p.bulkExport
  | .emailDownload => p.emailDownload

/-- The values with that of one class replaced. -/
def set (p : PerClass α) (c : ResourceClass) (a : α) : PerClass α :=
  match c with
  | .ocr => { p with ocr := a }
  | .bulkExport => { p with bulkExport := a }
  | .emailDownload => { p with emailDownload := a }

/-- A function applied to the value of each class. -/
def map (f : α → β) (p : PerClass α) : PerClass β := ⟨f p.ocr, f p.bulkExport, f p.emailDownload⟩

@[simp] theorem get_set_self (p : PerClass α) (c : ResourceClass) (a : α) :
    (p.set c a).get c = a := by cases c <;> rfl

theorem get_set_of_ne (p : PerClass α) {c d : ResourceClass} (h : d ≠ c) (a : α) :
    (p.set c a).get d = p.get d := by
  cases c <;> cases d <;> first | rfl | exact absurd rfl h

@[simp] theorem get_map (f : α → β) (p : PerClass α) (c : ResourceClass) :
    (p.map f).get c = f (p.get c) := by cases c <;> rfl

end PerClass

end Backlog
