import Mathlib.Data.List.Nodup
import Mathlib.Data.List.Pairwise
/-!
# Lists with keys

Tasks go by their identifiers, the members of an object by their names, and attempts at the gate by
their tickets.  Where no two members of a list have one key, a key stands for its member: it is
found under its key, it goes with its key, and what it is selected for it alone is selected for.
Registrations and the columns of a row may repeat a key, and of several members with one key the
last one counts.

## Main results

* `find?_key_iff` — what is found under a key is the member with that key.
* `eraseIdx_eq_filter_key` — to leave out a member is to leave out its key.
* `eq_of_nodup_filterMap` — a selection without duplicates selects each value once.
* `find?_reverse_key_iff` — what a search from the end finds under a key.
-/

namespace Backlog

variable {α κ : Type} {key : α → κ} {l : List α} {a : α}

/-- Where no two members have one key, what is found under a key is the member with that key. -/
theorem find?_key_iff [BEq κ] [LawfulBEq κ] (h : (l.map key).Nodup) {k : κ} :
    l.find? (fun b => key b == k) = some a ↔ a ∈ l ∧ key a = k := by
  constructor
  · intro hf
    have hkey := List.find?_some hf
    exact ⟨List.mem_of_find?_eq_some hf, eq_of_beq hkey⟩
  · rintro ⟨ha, rfl⟩
    cases hf : l.find? fun b => key b == key a with
    | none => exact absurd (beq_self_eq_true (key a)) (List.find?_eq_none.1 hf a ha)
    | some b =>
        have hkey := List.find?_some hf
        rw [List.inj_on_of_nodup_map h (List.mem_of_find?_eq_some hf) ha (eq_of_beq hkey)]

/-- Where no two members have one key, who leaves its place takes its key along. -/
theorem eraseIdx_eq_filter_key [BEq κ] [LawfulBEq κ] (h : (l.map key).Nodup) {i : Nat}
    (hi : l[i]? = some a) : l.eraseIdx i = l.filter fun b => key b != key a := by
  induction l generalizing i with
  | nil => cases hi
  | cons b l ih =>
      obtain ⟨hb, hl⟩ := List.nodup_cons.1 h
      cases i with
      | zero =>
          obtain rfl : b = a := by simpa using hi
          have hothers : l.filter (fun b' => key b' != key b) = l := by
            refine List.filter_eq_self.2 fun b' hb' => bne_iff_ne.2 fun heq => hb ?_
            exact heq ▸ List.mem_map_of_mem hb'
          simp [hothers]
      | succ i =>
          have hne : key b ≠ key a := fun heq =>
            hb (heq ▸ List.mem_map_of_mem (List.mem_of_getElem? hi))
          simp [hne, ih hl hi]

/-- Where a selection has no duplicates, two members that are selected for one value are one. -/
theorem eq_of_nodup_filterMap {β : Type} {f : α → Option β} (h : (l.filterMap f).Nodup) {a' : α}
    (ha : a ∈ l) (ha' : a' ∈ l) {b : β} (hb : f a = some b) (hb' : f a' = some b) : a = a' := by
  by_contra hne
  have : Std.Symm fun a a' => ∀ b, f a = some b → ∀ b', f a' = some b' → b ≠ b' :=
    ⟨fun _ _ hr b hb b' hb' => (hr b' hb' b hb).symm⟩
  exact (List.pairwise_filterMap.1 h).forall ha ha' hne b hb b hb' rfl

/-- A search from the end finds what the last member with the key has. -/
theorem find?_reverse_key_iff {β : Type} [BEq κ] [LawfulBEq κ] {es : List (κ × β)} {k : κ} {b : β} :
    (es.reverse.find? fun e => e.1 == k).map Prod.snd = some b ↔
      ∃ before after, es = before ++ (k, b) :: after ∧ ∀ e ∈ after, e.1 ≠ k := by
  rw [Option.map_eq_some_iff]
  constructor
  · rintro ⟨⟨l, c⟩, hfind, rfl⟩
    obtain ⟨hkey, after, before, hsplit, hafter⟩ := List.find?_eq_some_iff_append.1 hfind
    obtain rfl : l = k := eq_of_beq hkey
    refine ⟨before.reverse, after.reverse, ?_, fun e he => ?_⟩
    · rw [← List.reverse_inj, hsplit]
      simp
    · simpa using hafter e (List.mem_reverse.1 he)
  · rintro ⟨before, after, rfl, hafter⟩
    refine ⟨(k, b), List.find?_eq_some_iff_append.2 ⟨beq_self_eq_true k, ?_⟩, rfl⟩
    refine ⟨after.reverse, before.reverse, by simp, fun e he => ?_⟩
    simpa using hafter e (List.mem_reverse.1 he)

end Backlog
