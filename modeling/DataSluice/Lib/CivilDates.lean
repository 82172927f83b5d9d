/-
# Civil dates and their days

The days since the first of March of the year 0 determine the civil date. An era is four
centuries; the year of an era is found by taking the leap days out of its days, and the month by
inverting the line on which the beginnings of the months lie. A time in UTC is therefore its own
time in UTC.
-/

import DataSluice.Lib.DateTime

namespace DataSluice.Lib.DateTime

/-! ## The day of the year -/

/-- The day of a year that begins in March. -/
def dayOfYear (month day : Nat) : Nat :=
  (153 * (if month ≤ 2 then month + 9 else month - 3) + 2) / 5 + (day - 1)

theorem daysInMonth_february (year : Nat) :
    daysInMonth year 2 = if isLeap year then 29 else 28 := rfl

/-- A month that begins in March goes on until the next one. -/
theorem monthIndex_bounds {year month : Nat} (hmonth : 1 ≤ month ∧ month ≤ 12) (hne : month ≠ 2) :
    (153 * (if month ≤ 2 then month + 9 else month - 3) + 2) / 5 + daysInMonth year month =
      (153 * ((if month ≤ 2 then month + 9 else month - 3) + 1) + 2) / 5 := by
  obtain ⟨hlow, hhigh⟩ := hmonth
  interval_cases month <;> first | rfl | exact absurd rfl hne

/-- The month and the day are read off the day of the year. -/
theorem month_dayOfYear {year month day : Nat} (hmonth : 1 ≤ month ∧ month ≤ 12)
    (hday : 1 ≤ day ∧ day ≤ daysInMonth year month) :
    (5 * dayOfYear month day + 2) / 153 = (if month ≤ 2 then month + 9 else month - 3) ∧
      dayOfYear month day ≤ 365 ∧
        (dayOfYear month day = 365 → month = 2 ∧ isLeap year = true) := by
  by_cases hfebruary : month = 2
  · subst hfebruary
    rw [daysInMonth_february] at hday
    simp only [dayOfYear, le_refl, if_true]
    by_cases hleap : isLeap year = true
    · rw [if_pos hleap] at hday
      exact ⟨by omega, by omega, fun _ => ⟨trivial, hleap⟩⟩
    · rw [if_neg hleap] at hday
      exact ⟨by omega, by omega, fun h => by omega⟩
  · have hbounds := @monthIndex_bounds year month hmonth hfebruary
    have hindex : (if month ≤ 2 then month + 9 else month - 3) ≤ 11 := by split <;> omega
    have hten : (if month ≤ 2 then month + 9 else month - 3) ≠ 11 := by split <;> omega
    rw [dayOfYear]
    generalize (if month ≤ 2 then month + 9 else month - 3) = index at *
    refine ⟨by omega, by omega, fun h => by omega⟩

/-! ## Eras -/

/-- The year of an era is read off the days of it. -/
theorem yearOfEra_eq {century cycle year dayOfYear dayOfEra : Nat} (hcentury : century < 4)
    (hcycle : cycle < 25) (hyear : year < 4) (hday : dayOfYear ≤ 365)
    (hleap : dayOfYear = 365 → year = 3 ∧ (cycle ≠ 24 ∨ century = 3))
    (hdays : dayOfEra = 36524 * century + 1461 * cycle + 365 * year + dayOfYear) :
    (dayOfEra - dayOfEra / 1460 + dayOfEra / 36524 - dayOfEra / 146096) / 365 =
      100 * century + 4 * cycle + year := by
  -- The leap days of the era so far, but for one where the year is about to end.
  have hcycles : dayOfEra / 1460 = 25 * century + cycle ∧
        24 * century + cycle + 365 * year + dayOfYear < 1460 ∨
      dayOfEra / 1460 = 25 * century + cycle + 1 ∧
        1460 ≤ 24 * century + cycle + 365 * year + dayOfYear := by omega
  have hlast : dayOfEra / 36524 = century ∧ dayOfEra / 146096 = 0 ∨
      dayOfEra / 36524 = century + 1 ∧ dayOfEra / 146096 = 1 := by omega
  have hquotient : ∀ rest, rest < 365 →
      (365 * (100 * century + 4 * cycle + year) + rest) / 365 =
        100 * century + 4 * cycle + year := by
    intro rest hrest
    rw [Nat.mul_add_div (by decide), Nat.div_eq_of_lt hrest, Nat.add_zero]
  have hcenturies : ∀ rest, rest + dayOfEra / 36524 - dayOfEra / 146096 = rest + century := by
    rcases hlast with ⟨hcenturies, heras⟩ | ⟨hcenturies, heras⟩
    · rw [hcenturies, heras]
      exact fun rest => rfl
    · rw [hcenturies, heras]
      exact fun rest => rfl
  rw [hcenturies]
  rcases hcycles with ⟨hcycles, hlt⟩ | ⟨hcycles, hge⟩
  · have hrest : dayOfYear < 365 := by omega
    rw [hcycles, ← hquotient dayOfYear hrest]
    congr 1
    clear hcycles hlast hcenturies hquotient
    omega
  · have hrest : dayOfYear - 1 < 365 := by omega
    rw [hcycles, ← hquotient (dayOfYear - 1) hrest]
    congr 1
    clear hcycles hlast hcenturies hquotient
    omega

/-- A leap year is the last of its four, and not the last of its century but in the fourth. -/
theorem isLeap_succ {era century cycle year : Nat} (hcentury : century < 4)
    (hyear : year < 4) (hleap : isLeap (400 * era + 100 * century + 4 * cycle + year + 1) = true) :
    year = 3 ∧ (cycle ≠ 24 ∨ century = 3) := by
  simp only [isLeap, Bool.and_eq_true, Bool.or_eq_true, beq_iff_eq, bne_iff_ne, ne_eq] at hleap
  omega

/-- The year that a day belongs to, when years begin in March. -/
def shiftedYear (year month : Nat) : Nat := if month ≤ 2 then year - 1 else year

theorem daysFromCivil_eq (year month day : Nat) :
    daysFromCivil year month day =
      365 * shiftedYear year month + shiftedYear year month / 4 - shiftedYear year month / 100 +
        shiftedYear year month / 400 + dayOfYear month day := by
  rw [daysFromCivil, dayOfYear, ← Nat.add_assoc]
  rfl

/-- The place of a year in its era. -/
theorem exists_era (shifted : Nat) : ∃ era century cycle rest, century < 4 ∧ cycle < 25 ∧ rest < 4 ∧
    shifted = 400 * era + 100 * century + 4 * cycle + rest :=
  ⟨shifted / 400, shifted % 400 / 100, shifted % 100 / 4, shifted % 4, by omega, by omega,
    by omega, by omega⟩

/-- The era and the day of it are read off the days. -/
theorem dayOfEra_eq {era century cycle rest ofYear : Nat} (hcentury : century < 4)
    (hcycle : cycle < 25) (hrest : rest < 4) (hle : ofYear ≤ 365) {shifted : Nat}
    (hshifted : shifted = 400 * era + 100 * century + 4 * cycle + rest) :
    365 * shifted + shifted / 4 - shifted / 100 + shifted / 400 + ofYear = 146097 * era +
        (36524 * century + 1461 * cycle + 365 * rest + ofYear) ∧
      36524 * century + 1461 * cycle + 365 * rest + ofYear < 146097 := by
  have hfour : shifted / 4 = 100 * era + 25 * century + cycle := by omega
  have hhundred : shifted / 100 = 4 * era + century := by omega
  have hera : shifted / 400 = era := by omega
  rw [hfour, hhundred, hera]
  clear hfour hhundred hera
  constructor <;> omega

/-- The day of the year is what an era's days leave. -/
theorem ofYear_eq {century cycle rest ofYear : Nat} (hcycle : cycle < 25) (hrest : rest < 4) :
    36524 * century + 1461 * cycle + 365 * rest + ofYear -
      (365 * (100 * century + 4 * cycle + rest) + (100 * century + 4 * cycle + rest) / 4 -
        (100 * century + 4 * cycle + rest) / 100) = ofYear := by
  have hfour : (100 * century + 4 * cycle + rest) / 4 = 25 * century + cycle := by omega
  have hhundred : (100 * century + 4 * cycle + rest) / 100 = century := by omega
  rw [hfour, hhundred]
  clear hfour hhundred
  omega

/-! ## Dates and times -/

/-- A civil date is read back from its days. -/
theorem civilFromDays_daysFromCivil {year month day : Nat} (hyear : 1 ≤ year)
    (hmonth : 1 ≤ month ∧ month ≤ 12) (hday : 1 ≤ day ∧ day ≤ daysInMonth year month) :
    civilFromDays (daysFromCivil year month day) = (year, month, day) := by
  obtain ⟨hindex, hle, hleap⟩ := month_dayOfYear hmonth hday
  obtain ⟨era, century, cycle, rest, hcentury, hcycle, hrest, hshifted⟩ :=
    exists_era (shiftedYear year month)
  have hlast : dayOfYear month day = 365 → rest = 3 ∧ (cycle ≠ 24 ∨ century = 3) := by
    intro h
    obtain ⟨rfl, hleap'⟩ := hleap h
    have hnext : 400 * era + 100 * century + 4 * cycle + rest + 1 = year := by
      rw [← hshifted, shiftedYear, if_pos (le_refl 2), Nat.sub_add_cancel hyear]
    exact isLeap_succ hcentury hrest (hnext ▸ hleap')
  obtain ⟨hdays, hera⟩ := dayOfEra_eq hcentury hcycle hrest hle hshifted
  have hyearOfEra := yearOfEra_eq hcentury hcycle hrest hle hlast rfl
  have hdiv : (146097 * era +
      (36524 * century + 1461 * cycle + 365 * rest + dayOfYear month day)) / 146097 = era := by
    rw [Nat.mul_add_div (by decide), Nat.div_eq_of_lt hera, Nat.add_zero]
  rw [daysFromCivil_eq, hdays]
  simp only [civilFromDays, hdiv, Nat.mul_add_mod, Nat.mod_eq_of_lt hera, hyearOfEra,
    ofYear_eq hcycle hrest, hindex]
  have hyear' : 100 * century + 4 * cycle + rest + era * 400 = shiftedYear year month := by omega
  rw [hyear', dayOfYear, shiftedYear]
  obtain ⟨hlow, hhigh⟩ := hmonth
  obtain ⟨hfirst, -⟩ := hday
  clear * - hyear hlow hhigh hfirst
  by_cases hearly : month ≤ 2
  · simp only [if_pos hearly]
    rw [if_neg (by omega), if_neg (by omega), Nat.sub_add_cancel hyear, Nat.add_sub_cancel,
      Nat.add_sub_cancel_left, Nat.sub_add_cancel hfirst]
  · simp only [if_neg hearly]
    rw [if_pos (by omega), if_pos (by omega), Nat.sub_add_cancel (by omega),
      Nat.add_sub_cancel_left, Nat.sub_add_cancel hfirst]

/-- The microseconds of a time of day. -/
def ofDay (time : DateTime) : Nat :=
  ((time.hour * 60 + time.minute) * 60 + time.second) * 1000000 + time.micro

theorem ofDay_lt (time : DateTime) : time.ofDay < 86400000000 := by
  have hhour := time.hour_lt
  have hminute := time.minute_lt
  have hsecond := time.second_lt
  have hmicro := time.micro_lt
  rw [ofDay]
  omega

/-- The fields of a time of day are read off its microseconds. -/
theorem clock_ofDay (time : DateTime) :
    time.ofDay / 3600000000 = time.hour ∧ time.ofDay / 60000000 % 60 = time.minute ∧
      time.ofDay / 1000000 % 60 = time.second ∧ time.ofDay % 1000000 = time.micro := by
  have hhour := time.hour_lt
  have hminute := time.minute_lt
  have hsecond := time.second_lt
  have hmicro := time.micro_lt
  rw [ofDay]
  omega

/-- A time in UTC is its own time in UTC. -/
theorem astimezoneUtc_of_utc {time : DateTime} (hoffset : time.offset = some 0) :
    time.astimezoneUtc = some time := by
  have hdate := civilFromDays_daysFromCivil time.year_le.1 time.month_le time.day_le
  obtain ⟨hhour, hminute, hsecond, hmicro⟩ := time.clock_ofDay
  have hlt : (time.ofDay : Int) < dayMicros := Int.ofNat_lt.mpr time.ofDay_lt
  have hpos : (0 : Int) < dayMicros := by decide
  have hnonneg : (0 : Int) ≤ time.ofDay := Int.natCast_nonneg _
  generalize hdays : daysFromCivil time.year time.month time.day = days at hdate
  have hdiv : ((days : Int) * dayMicros + time.ofDay) / dayMicros = days := by
    rw [Int.mul_comm, Int.mul_add_ediv_left _ _ hpos.ne', Int.ediv_eq_zero_of_lt hnonneg hlt,
      Int.add_zero]
  have hmod : ((days : Int) * dayMicros + time.ofDay) % dayMicros = time.ofDay := by
    rw [Int.mul_comm, Int.mul_add_emod_self_left, Int.emod_eq_of_lt hnonneg hlt]
  have hsum : ¬(days : Int) * dayMicros + time.ofDay < 0 :=
    Int.not_lt.mpr (Int.add_nonneg (Int.mul_nonneg (Int.natCast_nonneg _) hpos.le) hnonneg)
  have hofDay : ((time.hour * 60 + time.minute) * 60 + time.second) * 1000000 + time.micro =
      time.ofDay := rfl
  rw [astimezoneUtc, hoffset]
  simp only [hdays, hofDay, Int.sub_zero, if_neg hsum, hdiv, hmod, Int.toNat_natCast, hdate,
    hhour, hminute, hsecond, hmicro]
  rw [← hoffset]
  exact new_fields time
end DataSluice.Lib.DateTime
