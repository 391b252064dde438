import Mathlib.Algebra.Order.BigOperators.Group.List
import Mathlib.Algebra.Order.Ring.Nat

/- The proleptic Gregorian calendar. Days are counted from 1 January of the
   year 1, which is day 1 (`Date.ordinal`), and an epoch is a date like any
   other. A row of intervals is a list of lengths: a place in the row is an
   interval and a one-based position in it, and `place` counts it off from the
   start. Months in a year are such a row, so a date and its day of the year
   determine each other, and with the years before it so do a date and its
   ordinal (`Date.ordinal_inj`). -/
namespace Calendar

/-! Rows of intervals. -/

/-- Position `r` of interval `i`, counted off from the start of the row. -/
def place (lengths : List Nat) (i r : Nat) : Nat := (lengths.take i).sum + r

/-- Position `r` lies in interval `i` of the row. -/
def Inside (lengths : List Nat) (i r : Nat) : Prop :=
  1 ≤ r ∧ ∃ h : i < lengths.length, r ≤ lengths[i]

section
variable {lengths : List Nat} {i j r s : Nat}

theorem place_le_take (hi : i < lengths.length) (hr : r ≤ lengths[i]) :
    place lengths i r ≤ (lengths.take (i + 1)).sum := by
  rw [List.take_succ_eq_append_getElem hi, List.sum_append, List.sum_singleton]
  exact Nat.add_le_add_left hr _

theorem Inside.le_sum (h : Inside lengths i r) : place lengths i r ≤ (lengths.take (i + 1)).sum := by
  obtain ⟨-, hi, hr⟩ := h
  exact place_le_take hi hr

theorem sum_take_mono (h : i ≤ j) : (lengths.take i).sum ≤ (lengths.take j).sum := by
  apply List.Sublist.sum_le_sum
  · exact (List.take_prefix_take_left h).sublist
  · intro n _
    exact Nat.zero_le n

/-- A place in an earlier interval comes before. -/
theorem place_lt (hi : Inside lengths i r) (hj : Inside lengths j s) (h : i < j) :
    place lengths i r < place lengths j s :=
  calc place lengths i r ≤ (lengths.take (i + 1)).sum := hi.le_sum
    _ ≤ (lengths.take j).sum := sum_take_mono h
    _ < place lengths j s := Nat.lt_add_of_pos_right hj.1

/-- A place is counted off in one way only. -/
theorem place_inj (hi : Inside lengths i r) (hj : Inside lengths j s)
    (h : place lengths i r = place lengths j s) : i = j ∧ r = s := by
  have hij : i = j := by
    rcases Nat.lt_trichotomy i j with hlt | heq | hgt
    · exact absurd h (Nat.ne_of_lt (place_lt hi hj hlt))
    · exact heq
    · exact absurd h.symm (Nat.ne_of_lt (place_lt hj hi hgt))
  subst hij
  exact ⟨rfl, Nat.add_left_cancel h⟩

theorem place_le_sum (hi : i < lengths.length) (hr : r ≤ lengths[i]) :
    place lengths i r ≤ lengths.sum := by
  have hall : lengths.take lengths.length = lengths := List.take_length
  calc place lengths i r ≤ (lengths.take (i + 1)).sum := place_le_take hi hr
    _ ≤ (lengths.take lengths.length).sum := sum_take_mono hi
    _ = lengths.sum := by rw [hall]

theorem Inside.place_le (h : Inside lengths i r) : place lengths i r ≤ lengths.sum := by
  obtain ⟨-, hi, hr⟩ := h
  exact place_le_sum hi hr

end

/-! Two-part counts. -/

/-- A count of whole units and a rest is compared by the units first, if a rest fills at
most its unit. The rest of the smaller count may be anything. -/
theorem lex_of_lt {before len : Nat → Nat} {i j r s : Nat}
    (hunits : j < i → before j + len j ≤ before i) (hs : s ≤ len j)
    (h : before i + r < before j + s) : i < j ∨ i = j ∧ r < s := by
  rcases Nat.lt_trichotomy i j with hlt | rfl | hgt
  · exact .inl hlt
  · exact .inr ⟨rfl, Nat.lt_of_add_lt_add_left h⟩
  · have hfull := hunits hgt
    omega

/-- A place that comes before is in an earlier interval, or earlier in the same one. -/
theorem lex_of_place_lt {lengths : List Nat} {i j r s : Nat} (hj : j < lengths.length)
    (hs : s ≤ lengths[j]) (h : place lengths i r < place lengths j s) :
    i < j ∨ i = j ∧ r < s := by
  have hlen : lengths.getD j 0 = lengths[j] := by
    rw [List.getD_eq_getElem?_getD, List.getElem?_eq_getElem hj, Option.getD_some]
  apply @lex_of_lt (fun i => (lengths.take i).sum) (lengths.getD · 0) i j r s _ (hlen ▸ hs) h
  intro hji
  calc (lengths.take j).sum + lengths.getD j 0 = place lengths j lengths[j] := by rw [hlen]; rfl
    _ ≤ (lengths.take (j + 1)).sum := place_le_take hj (Nat.le_refl _)
    _ ≤ (lengths.take i).sum := sum_take_mono hji

/-! Years. -/

/-- Every fourth year but the hundredth, and every four hundredth. -/
def Leap (year : Nat) : Prop := year % 4 = 0 ∧ year % 100 ≠ 0 ∨ year % 400 = 0

instance : DecidablePred Leap := fun year =>
  inferInstanceAs (Decidable (year % 4 = 0 ∧ year % 100 ≠ 0 ∨ year % 400 = 0))

def yearLength (year : Nat) : Nat := if Leap year then 366 else 365

theorem yearLength_ge (year : Nat) : 365 ≤ yearLength year := by
  unfold yearLength
  split <;> decide

/-- The days before 1 January of a year: 365 a year, and the leap days. -/
def daysBefore (year : Nat) : Nat :=
  365 * (year - 1) + (year - 1) / 4 - (year - 1) / 100 + (year - 1) / 400

theorem daysBefore_succ {year : Nat} (h : 1 ≤ year) :
    daysBefore (year + 1) = daysBefore year + yearLength year := by
  obtain ⟨n, rfl⟩ : ∃ n, year = n + 1 := ⟨year - 1, by omega⟩
  have hcentury : n / 100 ≤ n / 4 := Nat.div_le_div_left (by decide) (by decide)
  have h100 : 100 ∣ n + 1 → 4 ∣ n + 1 := Nat.dvd_trans (by decide)
  have h400 : 400 ∣ n + 1 → 100 ∣ n + 1 := Nat.dvd_trans (by decide)
  have hleap : Leap (n + 1) ↔ 4 ∣ n + 1 ∧ ¬ 100 ∣ n + 1 ∨ 400 ∣ n + 1 := by
    simp only [Leap, Nat.dvd_iff_mod_eq_zero, ne_eq]
  -- each of the three counts goes up in the years that are its multiples
  simp only [daysBefore, yearLength, hleap, Nat.add_sub_cancel, Nat.succ_div]
  generalize n / 4 = a at *
  generalize n / 100 = b at *
  generalize n / 400 = c
  split_ifs <;> omega

theorem daysBefore_mono {a b : Nat} (ha : 1 ≤ a) (h : a ≤ b) : daysBefore a ≤ daysBefore b := by
  induction b, h using Nat.le_induction with
  | base => exact Nat.le_refl _
  | succ b hab ih =>
    calc daysBefore a ≤ daysBefore b := ih
      _ ≤ daysBefore b + yearLength b := Nat.le_add_right _ _
      _ = daysBefore (b + 1) := (daysBefore_succ (Nat.le_trans ha hab)).symm

/-- A day that comes before is in an earlier year, or earlier in the same one. -/
theorem lex_of_year_lt {y z r s : Nat} (hz : 1 ≤ z) (hs : s ≤ yearLength z)
    (h : daysBefore y + r < daysBefore z + s) : y < z ∨ y = z ∧ r < s := by
  apply @lex_of_lt daysBefore yearLength y z r s _ hs h
  intro hzy
  calc daysBefore z + yearLength z = daysBefore (z + 1) := (daysBefore_succ hz).symm
    _ ≤ daysBefore y := daysBefore_mono (Nat.le_add_left 1 z) hzy

/-! Months and days. -/

def monthLengths (year : Nat) : List Nat :=
  [31, if Leap year then 29 else 28, 31, 30, 31, 30, 31, 31, 30, 31, 30, 31]

theorem monthLengths_sum (year : Nat) : (monthLengths year).sum = yearLength year := by
  unfold monthLengths yearLength
  split <;> rfl

/-- A date of the calendar. -/
@[ext] structure Date where
  year : Nat
  month : Nat
  day : Nat
  year_pos : 1 ≤ year
  month_pos : 1 ≤ month
  valid : Inside (monthLengths year) (month - 1) day

namespace Date

/-- The day of the year, from 1 on. -/
def dayOfYear (d : Date) : Nat := place (monthLengths d.year) (d.month - 1) d.day

/-- The number of the day, from 1 January of the year 1 on. -/
def ordinal (d : Date) : Nat := daysBefore d.year + d.dayOfYear

/-- The last day of a year. -/
def yearEnd (year : Nat) (h : 1 ≤ year) : Date where
  year := year
  month := 12
  day := 31
  year_pos := h
  month_pos := by decide
  valid := ⟨by decide, show 11 < 12 by decide, Nat.le_refl 31⟩

theorem dayOfYear_pos (d : Date) : 1 ≤ d.dayOfYear :=
  calc 1 ≤ d.day := d.valid.1
    _ ≤ d.dayOfYear := Nat.le_add_left _ _

theorem dayOfYear_le (d : Date) : d.dayOfYear ≤ yearLength d.year :=
  calc d.dayOfYear ≤ (monthLengths d.year).sum := d.valid.place_le
    _ = yearLength d.year := monthLengths_sum d.year

theorem dayOfYear_yearEnd {year : Nat} (h : 1 ≤ year) :
    (yearEnd year h).dayOfYear = yearLength year := by
  show place (monthLengths year) 11 31 = yearLength year
  unfold place monthLengths yearLength
  split <;> rfl

theorem ordinal_yearEnd {year : Nat} (h : 1 ≤ year) :
    (yearEnd year h).ordinal = daysBefore (year + 1) := by
  rw [ordinal, dayOfYear_yearEnd, daysBefore_succ h]
  rfl

/-- The days of an earlier year come before. -/
theorem ordinal_lt {d e : Date} (h : d.year < e.year) : d.ordinal < e.ordinal :=
  calc d.ordinal ≤ daysBefore d.year + yearLength d.year :=
        Nat.add_le_add_left d.dayOfYear_le _
    _ = daysBefore (d.year + 1) := (daysBefore_succ d.year_pos).symm
    _ ≤ daysBefore e.year := daysBefore_mono (Nat.le_add_left 1 _) h
    _ < e.ordinal := Nat.lt_add_of_pos_right e.dayOfYear_pos

/-- **One date a day.** Two dates with the same number are the same date. -/
theorem ordinal_inj {d e : Date} (h : d.ordinal = e.ordinal) : d = e := by
  have hyear : d.year = e.year := by
    rcases Nat.lt_trichotomy d.year e.year with hlt | heq | hgt
    · exact absurd h (Nat.ne_of_lt (ordinal_lt hlt))
    · exact heq
    · exact absurd h.symm (Nat.ne_of_lt (ordinal_lt hgt))
  have hday : d.dayOfYear = e.dayOfYear := by
    rw [ordinal, ordinal, hyear] at h
    exact Nat.add_left_cancel h
  have he := e.valid
  rw [dayOfYear, dayOfYear, ← hyear] at hday
  rw [← hyear] at he
  obtain ⟨hmonth, hd⟩ := place_inj d.valid he hday
  apply Date.ext hyear _ hd
  have h₁ := d.month_pos
  have h₂ := e.month_pos
  omega

end Date

end Calendar
