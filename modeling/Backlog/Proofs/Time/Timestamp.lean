import Backlog.Proofs.Text.Decimal
import Backlog.Proofs.Time.Calendar
import Backlog.Proofs.Time.Difference
import Backlog.Time.Timestamp
/-!
# Timestamps read back

Every instant outside leap seconds is read back from its timestamp to the nanosecond, in the whole
calendar.  The reader takes one field after the other from the front, so the statement about each is
for any text behind it, and the only thing asked of that text is that it does not go on with digits.
The date is the one of the day, the fields of the clock are the hours, minutes and seconds of the
rest, and the fraction has the fewest of its digits that lose nothing.

A leap second has no such timestamp unless it is the sixtieth second of a minute: it is written as
the second after, which is another instant.

## Main results

* `year?_yearText`, `field?_padded`, `fraction?_fraction` — each field is read back.
* `assemble?_parts` — the fields of an instant make it up again.
* `read?_text` — a timestamp denotes the instant it was written for.
* `exists_read?_text` — every timestamp denotes an instant.
-/

namespace Backlog.Timestamp

open Text

variable {rest : List Char}

/-! ## Fields -/

/-- Digits at the front are read as far as the limit goes. -/
theorem digits?_append {limit : Nat} {ds : List Char} (hd : ∀ c ∈ ds, isDigit c = true)
    (hne : ds ≠ []) (hlimit : ds.length ≤ limit) (hr : NoDigitAhead rest) :
    digits? limit (ds ++ rest) = some (digitsValue 0 ds, rest) := by
  have htake : (ds ++ rest).take limit = ds ++ rest.take (limit - ds.length) := by
    rw [List.take_append, List.take_of_length_le hlimit]
  have hds : ((ds ++ rest).take limit).takeWhile isDigit = ds := by
    rw [htake]
    exact takeWhile_isDigit_append hd (hr.take _)
  simp [digits?, hds, hne]

theorem digits?_padded {limit width n : Nat} (hlimit : (padded width n).length ≤ limit)
    (hr : NoDigitAhead rest) : digits? limit (padded width n ++ rest) = some (n, rest) := by
  rw [digits?_append (fun c => isDigit_of_mem_padded) (padded_ne_nil width n) hlimit hr,
    digitsValue_padded]

/-- A field that fits its width is read back. -/
theorem field?_padded {width n : Nat} (hw : 0 < width) (h : n < 10 ^ width)
    (hr : NoDigitAhead rest) : field? width (padded width n ++ rest) = some (n, rest) := by
  rw [field?, trimStart_digits (padded_ne_nil width n) (fun c => isDigit_of_mem_padded)]
  exact digits?_padded (length_padded hw h).le hr

theorem separator?_cons {sep : Char} (h : isBlank sep = false) (cs : List Char) :
    separator? sep (sep :: cs) = some cs := by
  simp [separator?, trimStart_cons h]

/-- Without a sign a year has four digits at most. -/
theorem year?_of_digit {c : Char} (h : isDigit c = true) (cs : List Char) :
    year? (c :: cs) = (digits? 4 (c :: cs)).map fun p => (Int.ofNat p.1, p.2) := by
  have hminus : c ≠ '-' := by rintro rfl; exact absurd h (by decide)
  have hplus : c ≠ '+' := by rintro rfl; exact absurd h (by decide)
  rw [year?, trimStart_cons (isBlank_of_isDigit h)]
  split <;> simp_all

/-- After a sign a year may have any number of digits. -/
theorem year?_signed (n : Nat) (hr : NoDigitAhead rest) :
    year? ('-' :: padded 4 n ++ rest) = some (-Int.ofNat n, rest) ∧
      year? ('+' :: padded 4 n ++ rest) = some (Int.ofNat n, rest) := by
  have hlimit : (padded 4 n).length ≤ (padded 4 n ++ rest).length := by simp
  have hread := digits?_padded hlimit hr
  constructor
  · rw [year?, List.cons_append, trimStart_cons rfl]
    simp only [hread, Option.map_some]
  · rw [year?, List.cons_append, trimStart_cons rfl]
    simp only [hread, Option.map_some]

theorem year?_padded {n : Nat} (h : n < 10 ^ 4) (hr : NoDigitAhead rest) :
    year? (padded 4 n ++ rest) = some (Int.ofNat n, rest) := by
  have hread := digits?_padded (length_padded (by decide) h).le hr
  obtain ⟨c, cs, hc⟩ := List.exists_cons_of_ne_nil (padded_ne_nil 4 n)
  have hdigit : isDigit c = true := isDigit_of_mem_padded (hc ▸ List.mem_cons_self)
  rw [hc, List.cons_append] at hread ⊢
  rw [year?_of_digit hdigit, hread, Option.map_some]

/-- A year is read back, whatever its sign. -/
theorem year?_yearText (y : Int) (hr : NoDigitAhead rest) :
    year? (yearText y ++ rest) = some (y, rest) := by
  unfold yearText
  split
  · next h =>
    simp only [Bool.and_eq_true, decide_eq_true_eq] at h
    rw [year?_padded (by omega) hr, Int.ofNat_eq_natCast, Int.toNat_of_nonneg h.1]
  · split
    · next h =>
      have hsign : -Int.ofNat y.natAbs = y := by rw [Int.ofNat_eq_natCast]; omega
      rw [(year?_signed y.natAbs hr).1, hsign]
    · next h =>
      have hsign : Int.ofNat y.natAbs = y := by rw [Int.ofNat_eq_natCast]; omega
      rw [(year?_signed y.natAbs hr).2, hsign]

/-- The digits after the point stand for billionths, however many there are. -/
theorem fraction?_point {width n : Nat} (hw : 0 < width) (hnine : width ≤ 9) (h : n < 10 ^ width)
    (hr : NoDigitAhead rest) :
    fraction? ('.' :: padded width n ++ rest) = some (n * 10 ^ (9 - width), rest) := by
  have hlength := length_padded hw h
  have hds : (padded width n ++ rest).takeWhile isDigit = padded width n :=
    takeWhile_isDigit_append (fun c => isDigit_of_mem_padded) hr
  have hkept : (padded width n).take 9 = padded width n := List.take_of_length_le (by omega)
  simp [fraction?, hds, hkept, padded_ne_nil, digitsValue_padded, hlength]

/-- A fraction of a second is read back from the fewest digits that suffice. -/
theorem fraction?_fraction {nano : Nat} (h : nano < 1000000000) (hr : NoDigitAhead rest)
    (hpoint : ∀ c ∈ rest.head?, c ≠ '.') :
    fraction? (fraction nano ++ rest) = some (nano, rest) := by
  unfold fraction
  split
  · next hz =>
    rw [beq_iff_eq.1 hz, List.nil_append]
    cases rest with
    | nil => rfl
    | cons c cs =>
      have hc : c ≠ '.' := hpoint c (by simp)
      unfold fraction?
      split <;> simp_all
  · split
    · next hm =>
      have hm := beq_iff_eq.1 hm
      rw [fraction?_point (by decide) (by decide) (by omega) hr]
      congr 2
      omega
    · split
      · next hm =>
        have hm := beq_iff_eq.1 hm
        rw [fraction?_point (by decide) (by decide) (by omega) hr]
        congr 2
        omega
      · rw [fraction?_point (by decide) (by decide) (by omega) hr]
        simp

/-! ## The instant -/

/-- The date, the time of day and the fraction of an instant make it up again. -/
theorem assemble?_parts (t : Instant) :
    assemble? (CivilDate.ofDayNumber (t.second / 86400)) ((t.second % 86400).toNat / 3600)
      ((t.second % 86400).toNat / 60 % 60) ((t.second % 86400).toNat % 60) t.nano 0 = some t := by
  generalize hs : (t.second % 86400).toNat = s
  have hday : s < 86400 ∧ t.second = t.second / 86400 * 86400 + s := by omega
  have hvalid := CivilDate.isValid_ofDayNumber (t.second / 86400)
  have hclock : s / 3600 < 24 ∧ s / 60 % 60 < 60 ∧ s % 60 ≤ 60 ∧ (s % 60 == 60) = false := by
    simp only [beq_eq_false_iff_ne]
    omega
  have hof : (s / 3600 * 3600 + s / 60 % 60 * 60 + s % 60 : Nat) = s := by omega
  simp only [assemble?, hvalid, hclock, Bool.and_true, decide_true, if_true,
    Bool.false_eq_true, if_false, hof, CivilDate.dayNumber_ofDayNumber]
  rw [Int.sub_zero, ← hday.2, Instant.ofParts?,
    dif_pos ⟨t.second_ge, t.second_le, t.nano_lt⟩]

/-- The second that follows an instant in its minute, or the sixtieth of the minute, is one of the
calendar. -/
theorem exists_assemble?_leap (t : Instant) {nano : Nat} (h : nano < 1000000000) :
    ∃ i, assemble? (CivilDate.ofDayNumber (t.second / 86400)) ((t.second % 86400).toNat / 3600)
      ((t.second % 86400).toNat / 60 % 60) ((t.second % 86400).toNat % 60 + 1) nano 0 = some i := by
  generalize hs : (t.second % 86400).toNat = s
  have hday : s < 86400 ∧ t.second = t.second / 86400 * 86400 + s := by omega
  have hvalid := CivilDate.isValid_ofDayNumber (t.second / 86400)
  have hclock : s / 3600 < 24 ∧ s / 60 % 60 < 60 ∧ s % 60 + 1 ≤ 60 := by omega
  have hbounds := And.intro t.second_ge t.second_le
  simp only [assemble?, hvalid, hclock, Bool.and_true, decide_true, if_true,
    CivilDate.dayNumber_ofDayNumber, Instant.ofParts?, Instant.firstSecond, Instant.lastSecond]
  by_cases hlast : s % 60 + 1 = 60
  · simp only [hlast, beq_self_eq_true, if_true]
    rw [dif_pos (by omega)]
    exact ⟨_, rfl⟩
  · -- The last second of the calendar is the last of its minute.
    simp only [beq_iff_eq, hlast, if_false]
    rw [dif_pos (by omega)]
    exact ⟨_, rfl⟩

/-- No digit goes on after the seconds. -/
theorem noDigitAhead_fraction (nano : Nat) (hr : NoDigitAhead rest) :
    NoDigitAhead (fraction nano ++ rest) := by
  unfold fraction
  split
  · exact hr
  · split
    · exact noDigitAhead_cons.2 rfl
    · split <;> exact noDigitAhead_cons.2 rfl

/-- The fields of a timestamp are read one after the other. -/
theorem read?_fields {c : CivilDate} {hour minute second nano : Nat}
    (hdate : c.month < 100 ∧ c.day < 100) (hclock : hour < 100 ∧ minute < 100 ∧ second < 100)
    (hnano : nano < 1000000000) :
    read? (String.ofList (yearText c.year ++ '-' :: padded 2 c.month ++ '-' :: padded 2 c.day
      ++ 'T' :: padded 2 hour ++ ':' :: padded 2 minute ++ ':' :: padded 2 second
      ++ fraction nano ++ ['Z'])) = assemble? c hour minute second nano 0 := by
  have hfield : ∀ {n : Nat} {rest : List Char}, n < 100 → NoDigitAhead rest →
      field? 2 (padded 2 n ++ rest) = some (n, rest) := fun hn => field?_padded (by decide) hn
  have hend : NoDigitAhead ['Z'] := noDigitAhead_cons.2 rfl
  have hoffset : offset? (trimStart ['Z']) = some (0, []) := rfl
  simp only [List.append_assoc, List.cons_append]
  rw [read?, String.toList_ofList]
  dsimp only [Option.bind_eq_bind]
  rw [year?_yearText _ (noDigitAhead_cons.2 rfl), Option.bind_some,
    separator?_cons rfl, Option.bind_some,
    hfield hdate.1 (noDigitAhead_cons.2 rfl), Option.bind_some,
    separator?_cons rfl, Option.bind_some,
    hfield hdate.2 (noDigitAhead_cons.2 rfl), Option.bind_some]
  simp only [Option.bind_some]
  rw [hfield hclock.1 (noDigitAhead_cons.2 rfl), Option.bind_some,
    separator?_cons rfl, Option.bind_some,
    hfield hclock.2.1 (noDigitAhead_cons.2 rfl), Option.bind_some,
    separator?_cons rfl, Option.bind_some,
    hfield hclock.2.2 (noDigitAhead_fraction nano hend), Option.bind_some,
    fraction?_fraction hnano hend (by simp), Option.bind_some, hoffset, Option.bind_some]
  rfl

/-- A timestamp denotes the instant it was written for, leap seconds aside. -/
theorem read?_text {t : Instant} (h : t.isRegular = true) : read? (text t) = some t := by
  rw [Instant.isRegular_iff] at h
  have hdate := CivilDate.bounds_of_isValid (CivilDate.isValid_ofDayNumber (t.second / 86400))
  have hnano : t.nano % 1000000000 = t.nano ∧ t.nano / 1000000000 = 0 := by omega
  have hday : (t.second % 86400).toNat < 86400 := by omega
  have hclock : (t.second % 86400).toNat / 3600 < 100 ∧
      (t.second % 86400).toNat / 60 % 60 < 100 ∧ (t.second % 86400).toNat % 60 < 100 := by omega
  have hread := read?_fields hdate hclock h
  rw [assemble?_parts] at hread
  rw [← hread]
  simp only [text, dateText, timeText, clockText, hnano, Nat.add_zero, List.append_assoc,
    List.cons_append]

/-- The timestamp of an instant denotes an instant, in a leap second too. -/
theorem exists_read?_text (t : Instant) : ∃ i, read? (text t) = some i := by
  by_cases h : t.isRegular = true
  · exact ⟨t, read?_text h⟩
  · rw [Instant.isRegular_iff] at h
    have hplace := t.nano_lt
    have hdate := CivilDate.bounds_of_isValid (CivilDate.isValid_ofDayNumber (t.second / 86400))
    have hnano : t.nano % 1000000000 < 1000000000 ∧ t.nano / 1000000000 = 1 := by omega
    have hday : (t.second % 86400).toNat < 86400 := by omega
    have hclock : (t.second % 86400).toNat / 3600 < 100 ∧
        (t.second % 86400).toNat / 60 % 60 < 100 ∧
        (t.second % 86400).toNat % 60 + 1 < 100 := by omega
    have hread := read?_fields hdate hclock hnano.1
    obtain ⟨i, hi⟩ := exists_assemble?_leap t hnano.1
    refine ⟨i, ?_⟩
    rw [← hi, ← hread]
    simp only [text, dateText, timeText, clockText, hnano, List.append_assoc, List.cons_append]

end Backlog.Timestamp
