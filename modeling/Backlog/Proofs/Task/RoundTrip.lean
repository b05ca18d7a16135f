import Backlog.Proofs.Distinct
import Backlog.Proofs.Task.Identifier
import Backlog.Proofs.Time.Timestamp
import Backlog.Task.Wire
/-!
# Tasks read back

A task is read back from its JSON form as it was.  The form is an object whose members have
different names, so each field is found under its own name and none is found twice, and every field
is read back from its value.  Three values have no form of their own, and the statement leaves them
out: a custom kind with a built-in name is read as the built-in kind, an instant in a leap second is
in general written as the second after it, and a result that is `null` reads as no result.  Nothing
else is asked of a task: its texts are arbitrary, its result is any other value, and its instants
lie anywhere in the calendar.

## Main results

* `Json.fields?_obj` — the fields of an object with different names are its members, in any order.
* `Task.json_round_trip` — a task is read back from its JSON form.
* `Task.exists_ofJson?_toJson` — what is read back of every task.
-/

namespace Backlog

namespace Json

variable {members : List (String × Json)}

/-- Whether two objects have the same members, in any order. -/
def SameMembers : Json → Json → Prop
  | .obj ms, .obj ns => ms.Perm ns
  | _, _ => False

theorem occurrences_eq_count (name : String) :
    occurrences name members = (members.map (·.1)).count name := by
  rw [occurrences, List.count, List.countP_map]
  rfl

/-- An object with different names is a record of its members, in whatever order they stand. -/
theorem fields?_obj {others : List (String × Json)} {names : List String}
    (hnames : members.map (·.1) = names) (h : names.Nodup) (hp : others.Perm members) :
    (Json.obj others).fields? names = some (members.map fun m => some m.2) := by
  subst hnames
  have hothers : (others.map (·.1)).Nodup := (hp.map _).nodup_iff.2 h
  have honce : ((members.map (·.1)).all fun n => occurrences n others ≤ 1) = true := by
    rw [List.all_eq_true]
    intro n _
    rw [occurrences_eq_count]
    exact decide_eq_true (List.nodup_iff_count_le_one.1 hothers n)
  have hvalue : ∀ m ∈ members, (others.find? fun n => n.1 == m.1).map (·.2) = some m.2 := by
    intro m hm
    rw [(find?_key_iff hothers).2 ⟨hp.mem_iff.2 hm, rfl⟩, Option.map_some]
  rw [fields?, if_pos honce, List.map_map]
  exact congrArg some (List.map_congr_left hvalue)

/-- An optional field is read back when its values are, and none of them is written as `null`. -/
theorem optional?_orNull {α : Type} {write : α → Json} {read : Json → Option α} {a : Option α}
    (hread : ∀ x ∈ a, read (write x) = some x) (hnull : ∀ x ∈ a, write x ≠ .null) :
    optional? read (some (orNull write a)) = some a := by
  cases a with
  | none => rfl
  | some x =>
    have hx := hnull x rfl
    rw [orNull, optional?, orNull?]
    · rw [hread x rfl, Option.map_some]
    · exact hx

/-- What is read back of an optional value: `null` reads as none. -/
def kept : Option Json → Option Json
  | some .null => none
  | v => v

theorem kept_of_ne_null {v : Json} (h : v ≠ .null) : kept (some v) = some v := by
  cases v with
  | null => exact absurd rfl h
  | _ => rfl

theorem optional?_kept (v : Option Json) :
    optional? some (some (orNull (fun v => v) v)) = some (kept v) := by
  cases v with
  | none => rfl
  | some v => cases v <;> rfl

/-- An optional text is read back. -/
theorem optional?_str (s : Option String) : optional? str? (some (orNull .str s)) = some s :=
  optional?_orNull (fun _ _ => rfl) (fun _ _ h => by cases h)

end Json

/-! ## The fields of a task -/

theorem TaskId.ofJson?_toJson (id : TaskId) : ofJson? id.toJson = some id := by
  rw [ofJson?, toJson, Json.str?, Option.bind_some, read?_text]

theorem TaskKind.ofJson?_toJson (name : String) :
    ofJson? (ofName name).toJson = some (ofName name) := by
  rw [ofJson?, toJson, Json.str?, Option.map_some, name_ofName]

theorem Status.ofJson?_toJson (s : Status) : ofJson? s.toJson = some s := by
  rw [ofJson?, toJson, Json.variant?, Option.bind_some, ofName?_eq_some_iff]

theorem Instant.ofJson?_toJson {t : Instant} (h : t.isRegular = true) :
    ofJson? t.toJson = some t := by
  rw [ofJson?, toJson, Json.str?, Option.bind_some, Timestamp.read?_text h]

/-- Of every instant an instant is read back. -/
theorem Instant.exists_ofJson?_toJson (t : Instant) : ∃ i, ofJson? t.toJson = some i := by
  rw [ofJson?, toJson, Json.str?, Option.bind_some]
  exact Timestamp.exists_read?_text t

/-! ## The task -/

namespace Task

/-- A task is read back from its JSON form as it was, also if the members have been reordered. -/
theorem json_round_trip {t : Task} {name : String} (hkind : t.kind = .ofName name)
    (hcreated : t.createdAt.isRegular = true) (hupdated : t.updatedAt.isRegular = true)
    (hresult : t.result ≠ some .null) :
    Task.ofJson? t.toJson = some t ∧ ∀ j, j.SameMembers t.toJson → Task.ofJson? j = some t := by
  have hkindread := TaskKind.ofJson?_toJson name
  rw [← hkind] at hkindread
  have hresultread : Json.optional? some (some (.orNull (fun v => v) t.result)) = some t.result :=
    Json.optional?_orNull (fun _ _ => rfl) (fun v hv hnull => hresult (by rw [hv, hnull]))
  have hread : ∀ j, j.SameMembers t.toJson → Task.ofJson? j = some t := by
    intro j hj
    cases j with
    | obj others =>
      have hfields : (Json.obj others).fields? fieldNames = _ :=
        Json.fields?_obj rfl (by decide) hj
      simp only [List.map_cons, List.map_nil] at hfields
      rw [Task.ofJson?, hfields]
      dsimp only [Json.required?, Json.str?, Option.bind_some, Option.bind_eq_bind]
      simp only [TaskId.ofJson?_toJson, Status.ofJson?_toJson, Instant.ofJson?_toJson hcreated,
        Instant.ofJson?_toJson hupdated, hkindread, hresultread, Json.optional?_str,
        Option.bind_some]
    | _ => exact hj.elim
  exact ⟨hread _ (List.Perm.refl _), hread⟩

/-- Of every task a task is read back: its kind by name, its result unless that is `null`, and its
instants as their timestamps denote them. -/
theorem exists_ofJson?_toJson (t : Task) : ∃ created updated, Task.ofJson? t.toJson =
    some { t with
      kind := .ofName t.kind.name
      result := Json.kept t.result
      createdAt := created
      updatedAt := updated } := by
  obtain ⟨created, hcreated⟩ := Instant.exists_ofJson?_toJson t.createdAt
  obtain ⟨updated, hupdated⟩ := Instant.exists_ofJson?_toJson t.updatedAt
  have hfields : t.toJson.fields? fieldNames = _ :=
    Json.fields?_obj rfl (by decide) (List.Perm.refl _)
  have hkind : TaskKind.ofJson? t.kind.toJson = some (.ofName t.kind.name) := rfl
  simp only [List.map_cons, List.map_nil] at hfields
  refine ⟨created, updated, ?_⟩
  rw [Task.ofJson?, hfields]
  dsimp only [Json.required?, Json.str?, Option.bind_some, Option.bind_eq_bind]
  simp only [TaskId.ofJson?_toJson, Status.ofJson?_toJson, hcreated, hupdated, hkind,
    Json.optional?_kept, Json.optional?_str, Option.bind_some]

/-- A task at the edges of what is kept: nanoseconds, the leap day of the year zero, an empty
fingerprint, and `null` inside its result. -/
def remote : Task where
  id := (TaskId.ofNat? (Nat.pow 2 128 - 1)).getD (.v7 0 0)
  owner := ""
  kind := .ofName "Payment_OCR"
  target := "ünïcödé \"quoted\""
  fingerprint := some ""
  status := .succeeded
  creator := "\n"
  result := some (.obj
    [("amount", .int (-9223372036854775808)), ("note", .null), ("amount", .arr [])])
  error := none
  createdAt := (Instant.ofParts? (-62162035201) 999999999).getD .epoch
  updatedAt := (Instant.ofParts? 253402300799 1000).getD .epoch

/-- A task at the edges is read back. -/
theorem json_round_trip_remote :
    (remote.kind = .ofName "Payment_OCR" ∧ remote.createdAt.isRegular = true ∧
      remote.updatedAt.isRegular = true ∧ remote.result ≠ some .null) ∧
      Task.ofJson? remote.toJson = some remote ∧
      ∀ j, j.SameMembers remote.toJson → Task.ofJson? j = some remote :=
  have hkind : remote.kind = .ofName "Payment_OCR" := rfl
  have hresult : remote.result ≠ some .null := by simp [remote]
  ⟨⟨hkind, by decide, by decide, hresult⟩, json_round_trip hkind (by decide) (by decide) hresult⟩

end Task

end Backlog
