import InputStaging.Calendar.Moment
import Mathlib.Tactic.IntervalCases

/-!
# Days and dates

Every day from the first of the calendar on has one date, and every date one day. So a number of
seconds tells one moment, and it is the moment so many seconds after the start of 1970.
-/

namespace InputStaging

/-! ## Years -/

theorem isLeapYear_iff {y : Nat} :
    isLeapYear y = true ↔ 4 ∣ y ∧ (¬ 100 ∣ y ∨ 400 ∣ y) := by
  simp [isLeapYear, Nat.dvd_iff_mod_eq_zero]

/-- What a leap year has more than another. -/
def leapDay (y : Nat) : Nat := if isLeapYear y then 1 else 0

theorem daysTo_succ (y : Nat) : daysTo (y + 1) = daysTo y + 365 + leapDay (y + 1) := by
  have h4 : 100 ∣ y + 1 → 4 ∣ y + 1 := Nat.dvd_trans (by decide)
  have h100 : 400 ∣ y + 1 → 100 ∣ y + 1 := Nat.dvd_trans (by decide)
  have hle : y / 100 ≤ y / 4 := Nat.div_le_div_left (by decide) (by decide)
  simp only [daysTo, leapDay, isLeapYear_iff, Nat.succ_div]
  by_cases hc : 400 ∣ y + 1
  case pos =>
    simp only [hc, h100 hc, h4 (h100 hc), not_true, or_true, and_self, if_true]
    omega
  by_cases hb : 100 ∣ y + 1
  case pos =>
    simp only [hc, hb, h4 hb, not_true, or_self, and_false, if_true, if_false]
    omega
  by_cases ha : 4 ∣ y + 1
  all_goals
    simp only [hc, hb, ha, not_false_iff, true_or, and_true, if_true, if_false]
    omega

theorem daysTo_of_pos {y : Nat} (h : 1 ≤ y) : daysTo y = daysTo (y - 1) + 365 + leapDay y := by
  have hsucc := daysTo_succ (y - 1)
  rwa [Nat.sub_add_cancel h] at hsucc

theorem daysTo_mono {y y' : Nat} (h : y ≤ y') : daysTo y ≤ daysTo y' := by
  induction h with
  | refl => exact Nat.le_refl _
  | step _ ih =>
    rw [Nat.succ_eq_add_one, daysTo_succ]
    omega

theorem daysTo_era (e y : Nat) : daysTo (e * 400 + y) = e * marchEra + daysTo y := by
  simp only [daysTo, marchEra]
  omega

/-- A day of an era lies in one of its four centuries, in four years of these, and in one of
these years. What is left over is less than a year, but for the leap day that ends it. -/
theorem exists_year {r : Nat} (h : r < marchEra) : ∃ c q a d, c ≤ 3 ∧ q ≤ 24 ∧ a ≤ 3 ∧ d ≤ 365 ∧
    r = 36524 * c + 1461 * q + 365 * a + d ∧ (d = 365 → a = 3 ∧ (q = 24 → c = 3)) := by
  have h : r < 146097 := h
  let c := min (r / 36524) 3
  let q := (r - 36524 * c) / 1461
  let a := min ((r - 36524 * c) % 1461 / 365) 3
  refine ⟨c, q, a, (r - 36524 * c) % 1461 - 365 * a, ?_⟩
  omega

theorem yearOfEra_eq {c q a d : Nat} (hc : c ≤ 3) (hq : q ≤ 24) (ha : a ≤ 3) (hd : d ≤ 365)
    (hleap : d = 365 → a = 3 ∧ (q = 24 → c = 3)) :
    yearOfEra (36524 * c + 1461 * q + 365 * a + d) = 100 * c + 4 * q + a := by
  unfold yearOfEra
  generalize hr : 36524 * c + 1461 * q + 365 * a + d = r
  by_cases hlast : r = 146096
  case pos =>
    subst hlast
    omega
  case neg =>
    -- The first quotient counts the leap days, and at most one day more.
    have h1460 : r / 1460 = 25 * c + q + (24 * c + q + 365 * a + d) / 1460 := by omega
    have h36524 : r / 36524 = c := by omega
    have h146096 : r / 146096 = 0 := by omega
    have hrest : (24 * c + q + 365 * a + d) / 1460 ≤ d ∧
        d - (24 * c + q + 365 * a + d) / 1460 < 365 := by omega
    rw [h1460, h36524, h146096]
    clear h1460 h36524 h146096 hlast hleap
    omega

/-- The year of a day is the one that has begun with it, and has not ended. -/
theorem yearOfEra_bounds {r : Nat} (h : r < marchEra) :
    yearOfEra r < 400 ∧ daysTo (yearOfEra r) ≤ r ∧ r < daysTo (yearOfEra r + 1) := by
  obtain ⟨c, q, a, d, hc, hq, ha, hd, rfl, hleap⟩ := exists_year h
  rw [yearOfEra_eq hc hq ha hd hleap]
  unfold daysTo
  omega

/-! ## Months -/

theorem daysBefore_succ (y : Nat) {m : Nat} (h : 1 ≤ m) :
    daysBefore y (m + 1) = daysBefore y m + daysInMonth y m := by
  obtain ⟨n, rfl⟩ : ∃ n, m = n + 1 := ⟨m - 1, by omega⟩
  simp [daysBefore, List.range_succ]

theorem daysBefore_mono (y : Nat) {m m' : Nat} (hm : 1 ≤ m) (h : m ≤ m') :
    daysBefore y m ≤ daysBefore y m' := by
  induction h with
  | refl => exact Nat.le_refl _
  | step h ih =>
    rw [Nat.succ_eq_add_one, daysBefore_succ y (hm.trans h)]
    omega

/-- From March on the months are long and short by turns, as if their lengths were rounded. -/
theorem daysBefore_march (y : Nat) {m : Nat} (h : m ≤ 10) :
    daysBefore y (m + 3) = 59 + leapDay y + (153 * m + 2) / 5 := by
  induction m with
  | zero =>
    cases hy : isLeapYear y <;> simp [daysBefore, daysInMonth, leapDay, List.range_succ, hy]
  | succ m ih =>
    rw [Nat.add_right_comm, daysBefore_succ y (by omega), ih (by omega)]
    have hm : m < 10 := h
    clear ih h
    unfold daysInMonth
    interval_cases m <;> simp

theorem daysBefore_end (y : Nat) : daysBefore y 13 = 365 + leapDay y := by
  rw [daysBefore_march y (Nat.le_refl 10)]
  omega

/-! ## Dates -/

/-- A day that there was or will be. -/
structure Date.Valid (d : Date) : Prop where
  year : 1 ≤ d.year
  month : 1 ≤ d.month ∧ d.month ≤ 12
  day : 1 ≤ d.day ∧ d.day ≤ daysInMonth d.year d.month

namespace Date

variable {d d' : Date}

theorem make_eq_ok_iff {year month day : Nat} : make year month day = .ok d ↔
    d = ⟨year, month, day⟩ ∧ d.Valid ∧ d.year ≤ 9999 := by
  unfold make
  constructor
  · intro h
    split at h
    case isTrue => cases h
    split at h
    case isTrue => cases h
    split at h
    case isTrue => cases h
    obtain rfl := Except.ok.inj h
    refine ⟨rfl, ⟨?_, ?_, ?_⟩, ?_⟩ <;> dsimp only <;> omega
  · rintro ⟨rfl, hvalid, hyear⟩
    obtain ⟨h1, h2, h3⟩ := hvalid
    simp only at h1 h2 h3 hyear
    rw [if_neg (by omega), if_neg (by omega), if_neg (by omega)]

/-- Days are counted through, from one year to the next. -/
theorem Valid.number_bounds (h : d.Valid) :
    daysTo (d.year - 1) < d.number ∧ d.number ≤ daysTo d.year := by
  have hmonth : daysBefore d.year (d.month + 1) ≤ daysBefore d.year 13 :=
    daysBefore_mono _ (by omega) (by have := h.month; omega)
  rw [daysBefore_succ _ h.month.1, daysBefore_end] at hmonth
  have hyear := daysTo_of_pos h.year
  have hday := h.day
  unfold number
  omega

/-- The order of dates. -/
def Before (d d' : Date) : Prop :=
  d.year < d'.year ∨ d.year = d'.year ∧
    (d.month < d'.month ∨ d.month = d'.month ∧ d.day < d'.day)

theorem number_lt (h : d.Valid) (h' : d'.Valid) (hlt : d.Before d') : d.number < d'.number := by
  rcases hlt with hyear | ⟨hyear, hmonth | ⟨hmonth, hday⟩⟩
  · have hmono := daysTo_mono (show d.year ≤ d'.year - 1 by omega)
    have := h.number_bounds
    have := h'.number_bounds
    omega
  · have hmono := daysBefore_mono d.year (by omega) (show d.month + 1 ≤ d'.month from hmonth)
    rw [daysBefore_succ _ h.month.1] at hmono
    have := h.day
    have := h'.day
    unfold number
    rw [← hyear]
    omega
  · unfold number
    rw [hyear, hmonth]
    omega

/-- Different days have different numbers. -/
theorem number_injective (h : d.Valid) (h' : d'.Valid) (hnumber : d.number = d'.number) :
    d = d' := by
  have hbefore : ¬ d.Before d' := fun hlt => Nat.ne_of_lt (number_lt h h' hlt) hnumber
  have hafter : ¬ d'.Before d := fun hlt => Nat.ne_of_lt (number_lt h' h hlt) hnumber.symm
  unfold Before at hbefore hafter
  obtain ⟨y, m, n⟩ := d
  obtain ⟨y', m', n'⟩ := d'
  simp only [mk.injEq]
  simp only at hbefore hafter
  omega

/-! ## Days -/

theorem year_ofYearDay (y n : Nat) : (ofYearDay y n).year = if n < 306 then y else y + 1 := by
  have hmarch : (5 * n + 2) / 153 < 10 ↔ n < 306 := by omega
  simp only [ofYearDay, hmarch]

/-- From March to December the year is the one that has started. -/
theorem ofYearDay_march {y n : Nat} (hn : n < 306) (hstart : 1 ≤ y) :
    (ofYearDay y n).Valid ∧ (ofYearDay y n).number + 305 = daysTo y + n := by
  obtain ⟨m, hm⟩ : ∃ m, m = (5 * n + 2) / 153 := ⟨_, rfl⟩
  have hmarch : m < 10 := by omega
  have hfirst : (153 * m + 2) / 5 ≤ n := by omega
  have hlast : n < (153 * (m + 1) + 2) / 5 := by omega
  have hdate : ofYearDay y n = ⟨y, m + 3, n - (153 * m + 2) / 5 + 1⟩ := by
    simp [ofYearDay, ← hm, hmarch]
  have hlength := daysBefore_succ y (show 1 ≤ m + 3 by omega)
  have hnext := daysBefore_march y (show m + 1 ≤ 10 from hmarch)
  rw [Nat.add_right_comm] at hnext
  rw [hnext, daysBefore_march y (Nat.le_of_lt hmarch)] at hlength
  rw [hdate]
  refine ⟨⟨hstart, by dsimp only; omega, by dsimp only; omega⟩, ?_⟩
  simp only [number]
  rw [daysBefore_march y (Nat.le_of_lt hmarch), daysTo_of_pos hstart]
  omega

/-- January and February belong to the next one. -/
theorem ofYearDay_january {y n : Nat} (hn : 306 ≤ n) (hend : n < 365 + leapDay (y + 1)) :
    (ofYearDay y n).Valid ∧ (ofYearDay y n).number + 305 = daysTo y + n := by
  have hleap : leapDay (y + 1) ≤ 1 := by
    unfold leapDay
    split <;> omega
  obtain ⟨m, hm⟩ : ∃ m, m = (5 * n + 2) / 153 := ⟨_, rfl⟩
  have hmarch : ¬ m < 10 := by omega
  have hfirst : (153 * m + 2) / 5 ≤ n := by omega
  have hlast : n < (153 * (m + 1) + 2) / 5 := by omega
  have hdate : ofYearDay y n = ⟨y + 1, m - 9, n - (153 * m + 2) / 5 + 1⟩ := by
    simp [ofYearDay, ← hm, hmarch]
  rw [hdate]
  obtain rfl | rfl : m = 10 ∨ m = 11 := by omega
  · refine ⟨⟨by simp, by simp, ?_⟩, ?_⟩
    · simp [daysInMonth]
      omega
    · simp [number, daysBefore]
      omega
  · refine ⟨⟨by simp, by simp, ?_⟩, ?_⟩
    · have hdays : daysInMonth (y + 1) 2 = 28 + leapDay (y + 1) := by
        cases hy : isLeapYear (y + 1) <;> simp [daysInMonth, leapDay, hy]
      show 1 ≤ n - 337 + 1 ∧ n - 337 + 1 ≤ daysInMonth (y + 1) 2
      omega
    · simp [number, daysBefore, List.range_succ, daysInMonth]
      omega

theorem ofYearDay_valid {y n : Nat} (hn : n < 365 + leapDay (y + 1)) (hstart : 1 ≤ y ∨ 306 ≤ n) :
    (ofYearDay y n).Valid ∧ (ofYearDay y n).number + 305 = daysTo y + n := by
  by_cases hmarch : n < 306
  · exact ofYearDay_march hmarch (hstart.resolve_right (Nat.not_le_of_lt hmarch))
  · exact ofYearDay_january (Nat.le_of_not_lt hmarch) hn

/-- The year of an era, and how much of it is over. -/
theorem ofMarch_eq (n : Nat) : ofMarch n =
    ofYearDay (n / marchEra * 400 + yearOfEra (n % marchEra))
      (n % marchEra - daysTo (yearOfEra (n % marchEra))) := by
  obtain ⟨hera, -, -⟩ := yearOfEra_bounds (Nat.mod_lt n (show 0 < marchEra by decide))
  have hnone : yearOfEra (n % marchEra) / 400 = 0 := Nat.div_eq_of_lt hera
  unfold ofMarch daysTo
  rw [hnone, Nat.add_zero]

/-- From the first day of the calendar on, the day so many days after 1 March of the year 0 is the
one with that number. -/
theorem ofMarch_valid {n : Nat} (h : 306 ≤ n) :
    (ofMarch n).Valid ∧ (ofMarch n).number + 305 = n := by
  rw [ofMarch_eq]
  obtain ⟨e, he⟩ : ∃ e, e = n / marchEra := ⟨_, rfl⟩
  obtain ⟨r, hr⟩ : ∃ r, r = n % marchEra := ⟨_, rfl⟩
  have hn : e * marchEra + r = n := by
    rw [he, hr, Nat.mul_comm]
    exact Nat.div_add_mod n marchEra
  obtain ⟨-, hbegun, hended⟩ := yearOfEra_bounds (hr ▸ Nat.mod_lt n (by decide) : r < marchEra)
  rw [← he, ← hr]
  have hfirst := daysTo_era e (yearOfEra r)
  have hnext := daysTo_era e (yearOfEra r + 1)
  rw [← Nat.add_assoc, daysTo_succ] at hnext
  have hstart : 1 ≤ e * 400 + yearOfEra r ∨ 306 ≤ r - daysTo (yearOfEra r) := by
    by_cases hzero : e * 400 + yearOfEra r = 0
    · right
      rw [hzero] at hfirst
      have : daysTo 0 = 0 := rfl
      omega
    · left
      omega
  obtain ⟨hvalid, hnumber⟩ := ofYearDay_valid (show r - daysTo (yearOfEra r) < _ by omega) hstart
  exact ⟨hvalid, by omega⟩

/-- Every date is found again by its number. -/
theorem ofMarch_number (h : d.Valid) : ofMarch (d.number + 305) = d := by
  have hpos := h.number_bounds.1
  obtain ⟨hvalid, hnumber⟩ := ofMarch_valid (show 306 ≤ d.number + 305 by omega)
  exact number_injective hvalid h (Nat.add_right_cancel hnumber)

end Date

/-! ## Moments -/

namespace Timestamp

/-- The clock shows the seconds since the start of 1970. -/
theorem clock_ofEpoch {s : Int} (h : -719162 * 86400 ≤ s) :
    (ofEpoch s).clock = (ofEpoch 0).clock + s * 1000000 := by
  have hclock (s : Int) (h : -719162 * 86400 ≤ s) :
      (ofEpoch s).clock = (s + 719163 * 86400) * 1000000 := by
    obtain ⟨-, hnumber⟩ := Date.ofMarch_valid
      (show 306 ≤ (s + marchToEpoch * day).toNat / day by unfold marchToEpoch day; omega)
    unfold clock ofEpoch
    simp only
    unfold marchToEpoch day at *
    omega
  rw [hclock s h, hclock 0 (by decide)]
  omega

end Timestamp

theorem checkYear_eq_ok_iff {s : Int} :
    checkYear s = .ok () ↔ 1 ≤ yearAt s ∧ yearAt s ≤ 9999 := by
  unfold checkYear
  generalize yearAt s = year
  have hheld : (year - 1900).bmod 0x100000000 = year - 1900 ↔
      -0x80000000 ≤ year - 1900 ∧ year - 1900 < 0x80000000 := by
    rw [Int.bmod_def]
    split <;> omega
  have hshown : 1 ≤ year.bmod 0x100000000 ∧ year.bmod 0x100000000 ≤ 9999 ↔
      1 ≤ year % 0x100000000 ∧ year % 0x100000000 ≤ 9999 := by
    rw [Int.bmod_def]
    split <;> omega
  constructor
  · intro h
    dsimp only at h
    split at h
    case isTrue => cases h
    split at h
    case isTrue => cases h
    omega
  · intro h
    rw [if_neg (by omega), if_neg (by omega)]

/-- The years of the calendar, in seconds. Both ends are in March years of which 306 days are over:
the first starts on the day after, and the last day of 9999 comes before. -/
theorem yearAt_iff {s : Int} : 1 ≤ yearAt s ∧ yearAt s ≤ 9999 ↔
    -719162 * 86400 ≤ s ∧ s < 2932897 * 86400 := by
  obtain ⟨days, hdays⟩ : ∃ days, days = s / Timestamp.day + marchToEpoch := ⟨_, rfl⟩
  obtain ⟨r, hr⟩ : ∃ r, r = (days % marchEra).toNat := ⟨_, rfl⟩
  have hlt : r < marchEra := by unfold marchEra at *; omega
  have hyear : yearAt s = (Date.ofYearDay (yearOfEra r) (r - daysTo (yearOfEra r))).year +
      400 * (days / marchEra) := by
    rw [yearAt, ← hdays, ← hr, Date.ofMarch_eq, Nat.div_eq_of_lt hlt, Nat.mod_eq_of_lt hlt,
      Nat.zero_mul, Nat.zero_add]
  obtain ⟨hera, hbegun, hended⟩ := yearOfEra_bounds hlt
  rw [hyear, Date.year_ofYearDay]
  generalize hy : yearOfEra r = y at *
  have hrange : (306 ≤ days ∧ days < 3652365) ↔ -719162 * 86400 ≤ s ∧ s < 2932897 * 86400 := by
    unfold Timestamp.day marchToEpoch at hdays
    omega
  rw [← hrange]
  clear hrange hdays hyear
  unfold marchEra at *
  by_cases hfirst : y = 0
  case pos =>
    subst hfirst
    have hvalues : daysTo 0 = 0 ∧ daysTo (0 + 1) = 365 := ⟨rfl, rfl⟩
    split <;> omega
  by_cases hlast : y = 399
  case pos =>
    subst hlast
    have hvalue : daysTo 399 = 145731 := rfl
    split <;> omega
  case neg =>
    have hone : daysTo 1 ≤ daysTo y := daysTo_mono (Nat.pos_of_ne_zero hfirst)
    have hend : daysTo (y + 1) ≤ daysTo 399 := daysTo_mono (by omega)
    have hvalues : daysTo 1 = 365 ∧ daysTo 399 = 145731 := ⟨rfl, rfl⟩
    split <;> omega

/-- A number of seconds tells a moment from the second day of the calendar to its last. -/
theorem Timestamp.ofSeconds_eq_ok_iff {s : Int} {t : Timestamp} : ofSeconds s = .ok t ↔
    (-719161 * 86400 ≤ s ∧ s < 2932897 * 86400) ∧ t = .ofEpoch s := by
  have hdays : (1 ≤ yearAt s ∧ yearAt s ≤ 9999) ∧ 1 ≤ yearAt (s - day) ∧ yearAt (s - day) ≤ 9999 ↔
      -719161 * 86400 ≤ s ∧ s < 2932897 * 86400 := by
    rw [yearAt_iff, yearAt_iff]
    unfold day
    omega
  rw [← hdays, ← checkYear_eq_ok_iff, ← checkYear_eq_ok_iff]
  unfold ofSeconds
  split
  case isTrue =>
    cases checkYear s with
    | error fault => exact ⟨nofun, fun h => nomatch h.1.1⟩
    | ok _ =>
      cases checkYear (s - day) with
      | error fault => exact ⟨nofun, fun h => nomatch h.1.2⟩
      | ok _ => exact ⟨fun h => ⟨⟨rfl, rfl⟩, (Except.ok.inj h).symm⟩, fun h => h.2 ▸ rfl⟩
  case isFalse hfits =>
    refine ⟨nofun, fun h => absurd ?_ hfits⟩
    rw [checkYear_eq_ok_iff, checkYear_eq_ok_iff, hdays] at h
    rw [Int.bmod_def]
    split <;> omega

end InputStaging
