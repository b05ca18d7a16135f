import Backlog.Engine.Registry
import Backlog.Proofs.Distinct
/-!
# Registrations

A registry is made by registrations, one after the other.  What it answers for a kind is the handler
of the last registration for exactly that kind, and nothing if there is none.  So the registrations
for other kinds could as well not have been made, whatever their names: a custom kind with a
built-in name is another kind.

The answer is put down once as a search of the registrations from the end (`find?_ofList`), and the
rest is read off that search.

## Main results

* `find?_ofList_eq_some_iff`, `find?_ofList_eq_none_iff` — what a registry answers, by its
  registrations.
* `find?_ofList_without` — registrations for other kinds make no difference.
-/

namespace Backlog

variable {H : Type} {k l : TaskKind} {h : H}

/-- Of some registrations, the first of them first, the last one for a kind is of this handler. -/
def IsLastFor (es : List (TaskKind × H)) (k : TaskKind) (h : H) : Prop :=
  ∃ before after, es = before ++ (k, h) :: after ∧ ∀ e ∈ after, e.1 ≠ k

namespace Registry

/-- Registrations take precedence over what was there, the later ones over the earlier ones. -/
theorem find?_foldl_register (es : List (TaskKind × H)) (r : Registry H) (k : TaskKind) :
    (es.foldl (fun r e => r.register e.1 e.2) r).find? k =
      ((es.reverse.find? fun e => e.1 == k).map (·.2)).or (r.find? k) := by
  induction es generalizing r with
  | nil => rfl
  | cons e es ih =>
      rw [List.foldl_cons, ih, List.reverse_cons, List.find?_append, Option.map_or, Option.or_assoc]
      congr 1
      by_cases he : e.1 = k
      · subst he
        simp [find?_register_self]
      · simp [find?_register_of_ne r (Ne.symm he), he]

/-- A registry answers with what a search of its registrations from the end comes to. -/
theorem find?_ofList (es : List (TaskKind × H)) (k : TaskKind) :
    (ofList es).find? k = (es.reverse.find? fun e => e.1 == k).map (·.2) := by
  rw [ofList, find?_foldl_register]
  exact Option.or_none

/-- A registry answers with the handler of the last registration for the kind. -/
theorem find?_ofList_eq_some_iff {es : List (TaskKind × H)} :
    (ofList es).find? k = some h ↔ IsLastFor es k h := by
  rw [find?_ofList]
  exact find?_reverse_key_iff

/-- A registry answers nothing for the kinds that were never registered. -/
theorem find?_ofList_eq_none_iff {es : List (TaskKind × H)} :
    (ofList es).find? k = none ↔ ∀ e ∈ es, e.1 ≠ k := by
  rw [find?_ofList, Option.map_eq_none_iff, List.find?_eq_none]
  simp

/-- A registration for another kind could as well not have been made. -/
theorem find?_ofList_without (before after : List (TaskKind × H)) (hl : l ≠ k) :
    (ofList (before ++ (l, h) :: after)).find? k = (ofList (before ++ after)).find? k := by
  have hother : [(l, h)].find? (fun e => e.1 == k) = none := by simpa using hl
  simp only [find?_ofList, List.reverse_append, List.reverse_cons, List.find?_append, hother,
    Option.or_none]

end Registry

end Backlog
