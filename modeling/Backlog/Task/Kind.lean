/-!
# Kinds of work

The kind of a task selects the handler that does its work. Two kinds are built in; any other text
names a kind of the embedding application. A kind is made from its name by `TaskKind.ofName`,
which gives a built-in kind for a built-in name. A `custom` kind that carries a built-in name is a
value of the type all the same, and a different one; no name denotes it.

## Main results

* `name_ofName` — a kind made from a name has that name.
* `ofName_name` — a kind is made from its own name unless it is `custom` with a built-in name.
-/

namespace Backlog

/-- What sort of work a task is. -/
inductive TaskKind where
  /-- Recognise a screenshot of a payment. -/
  | paymentOcr
  /-- Recognise an invoice document. -/
  | invoiceOcr
  /-- Any other work the application registers a handler for. -/
  | custom (name : String)
  deriving DecidableEq, Repr, Inhabited

namespace TaskKind

/-- The name of a kind. -/
def name : TaskKind → String
  | paymentOcr => "payment_ocr"
  | invoiceOcr => "invoice_ocr"
  | custom name => name

/-- The kind a name denotes. -/
def ofName (name : String) : TaskKind :=
  if name = "payment_ocr" then paymentOcr
  else if name = "invoice_ocr" then invoiceOcr
  else custom name

/-- The name of the constructor of a kind. -/
def label : TaskKind → String
  | paymentOcr => "PaymentOcr"
  | invoiceOcr => "InvoiceOcr"
  | custom _ => "Custom"

/-- Whether a kind is the one its own name denotes. -/
def isNamed (k : TaskKind) : Bool := ofName k.name == k

@[simp] theorem name_ofName (s : String) : (ofName s).name = s := by
  unfold ofName
  split
  · next h => simp [name, h]
  · split
    · next h => simp [name, h]
    · rfl

theorem ofName_injective {s t : String} (h : ofName s = ofName t) : s = t := by
  rw [← name_ofName s, ← name_ofName t, h]

@[simp] theorem ofName_name_ofName (s : String) : ofName (ofName s).name = ofName s := by
  rw [name_ofName]

/-- A built-in name denotes no custom kind. -/
theorem ofName_ne_custom {s n : String} (h : n = "payment_ocr" ∨ n = "invoice_ocr") :
    ofName s ≠ custom n := by
  unfold ofName
  split
  · simp
  · split
    · simp
    · next h1 h2 => rintro ⟨rfl⟩; exact h.elim h1 h2

end TaskKind

end Backlog
