import DruidQuery.Time.Moment

namespace DruidQuery.Time

def eraYearStart (y : Int) : Int := 365 * y + y / 4 - y / 100

def eraYearEnd (y : Int) : Int := if y = 399 then 146096 else eraYearStart (y + 1) - 1

def eraYearOf (doe : Int) : Int := (doe - doe / 1460 + doe / 36524 - doe / 146096) / 365

theorem eraYearOf_step {x : Int} (h0 : 0 ≤ x) (h1 : x < 146096) :
    eraYearOf x ≤ eraYearOf (x + 1) := by
  unfold eraYearOf
  omega

theorem eraYearOf_mono {a b : Int} (ha : 0 ≤ a) (hab : a ≤ b) (hb : b ≤ 146096) :
    eraYearOf a ≤ eraYearOf b := by
  obtain ⟨k, rfl⟩ : ∃ k : Nat, b = a + k := ⟨(b - a).toNat, by omega⟩
  induction k with
  | zero => simp
  | succ k ih =>
    calc eraYearOf a ≤ eraYearOf (a + k) := ih (by omega) (by omega)
      _ ≤ eraYearOf (a + k + 1) := eraYearOf_step (by omega) (by omega)
      _ = eraYearOf (a + (k + 1 : Nat)) := by congr 1; omega

theorem eraYear_table : ∀ y : Nat, y < 400 →
    eraYearOf (eraYearStart y) = y ∧ eraYearOf (eraYearEnd y) = y ∧
      eraYearEnd y - eraYearStart y =
        (if (y + 1) % 4 = 0 ∧ ((y + 1) % 100 ≠ 0 ∨ y = 399) then 365 else 364) := by
  decide +kernel

theorem eraYear_row {y : Int} (h0 : 0 ≤ y) (h1 : y ≤ 399) :
    eraYearOf (eraYearStart y) = y ∧ eraYearOf (eraYearEnd y) = y ∧
      eraYearEnd y - eraYearStart y =
        (if (y + 1) % 4 = 0 ∧ ((y + 1) % 100 ≠ 0 ∨ y = 399) then 365 else 364) := by
  obtain ⟨n, rfl⟩ := Int.eq_ofNat_of_zero_le h0
  obtain ⟨hstart, hend, hlen⟩ := eraYear_table n (by omega)
  refine ⟨hstart, hend, ?_⟩
  rw [hlen]
  split <;> split <;> omega

theorem eraYearOf_bounds {doe : Int} (h0 : 0 ≤ doe) (h1 : doe ≤ 146096) :
    0 ≤ eraYearOf doe ∧ eraYearOf doe ≤ 399 ∧
      eraYearStart (eraYearOf doe) ≤ doe ∧ doe ≤ eraYearEnd (eraYearOf doe) := by
  have hlow : eraYearOf 0 ≤ eraYearOf doe := eraYearOf_mono (Int.le_refl 0) h0 h1
  have hhigh : eraYearOf doe ≤ eraYearOf 146096 := eraYearOf_mono h0 h1 (Int.le_refl _)
  have hfirst : eraYearOf 0 = 0 := by decide
  have hlast : eraYearOf 146096 = 399 := by decide
  generalize hy : eraYearOf doe = y at hlow hhigh
  refine ⟨by omega, by omega, ?_, ?_⟩
  · -- a day before the year's start would lie in the year before, which the formula gives
    -- on that year's last day
    refine Int.not_lt.mp fun hlt => ?_
    have hy1 : 1 ≤ y := by unfold eraYearStart at hlt; omega
    have hrow := (eraYear_row (y := y - 1) (by omega) (by omega)).2.1
    have hend : eraYearEnd (y - 1) = eraYearStart y - 1 := by
      unfold eraYearEnd eraYearStart
      split <;> omega
    have hmono := eraYearOf_mono h0 (b := eraYearEnd (y - 1)) (by omega)
      (by rw [hend]; unfold eraYearStart; omega)
    omega
  · -- a day after the year's end would lie in the year after, which the formula gives on that
    -- year's first day
    refine Int.not_lt.mp fun hlt => ?_
    have hy1 : y ≠ 399 := by
      intro h
      subst h
      simp [eraYearEnd] at hlt
      omega
    have hrow := (eraYear_row (y := y + 1) (by omega) (by omega)).1
    have hend : eraYearEnd y = eraYearStart (y + 1) - 1 := by
      unfold eraYearEnd
      rw [if_neg hy1]
    have hmono := eraYearOf_mono (a := eraYearStart (y + 1)) (by unfold eraYearStart; omega)
      (by omega) h1
    omega

theorem month_table : ∀ d : Nat, d < 366 →
    let mp : Int := (5 * (d : Int) + 2) / 153
    let day : Int := d - (153 * mp + 2) / 5 + 1
    let month : Int := if mp < 10 then mp + 3 else mp - 9
    1 ≤ month ∧ month ≤ 12 ∧ 1 ≤ day ∧ (d < 365 → day ≤ daysIn month.toNat 1) ∧
      (d = 365 → month = 2 ∧ day = 29) := by
  decide +kernel

theorem daysIn_common_le (m : Nat) (y : Int) : daysIn m 1 ≤ daysIn m y := by
  unfold daysIn
  split
  · cases isLeap y <;> decide
  all_goals exact Nat.le_refl _

theorem isLeap_of_era {yoe era : Int}
    (h : (yoe + 1) % 4 = 0 ∧ ((yoe + 1) % 100 ≠ 0 ∨ yoe = 399)) :
    isLeap (yoe + era * 400 + 1) = true := by
  simp only [isLeap, Bool.and_eq_true, bne_iff_ne, ne_eq, Bool.or_eq_true, beq_iff_eq]
  omega

theorem dayOfEra_bounds (z : Int) :
    0 ≤ z - Int.fdiv z 146097 * 146097 ∧ z - Int.fdiv z 146097 * 146097 ≤ 146096 := by
  rw [Int.fdiv_eq_ediv_of_nonneg z (by decide)]
  omega

theorem civilFromDays_valid (days : Int) :
    1 ≤ (civilFromDays days).2.1 ∧ (civilFromDays days).2.1 ≤ 12 ∧ 1 ≤ (civilFromDays days).2.2 ∧
      (civilFromDays days).2.2 ≤ daysIn (civilFromDays days).2.1 (civilFromDays days).1 := by
  have hera := dayOfEra_bounds (days + 719468)
  simp only [civilFromDays]
  generalize Int.fdiv (days + 719468) 146097 = era at hera ⊢
  generalize days + 719468 - era * 146097 = doe at hera ⊢
  obtain ⟨hy0, hy1, hys, hye⟩ := eraYearOf_bounds hera.1 hera.2
  rw [show (doe - doe / 1460 + doe / 36524 - doe / 146096) / 365 = eraYearOf doe from rfl,
    show ∀ y : Int, 365 * y + y / 4 - y / 100 = eraYearStart y from fun _ => rfl]
  generalize eraYearOf doe = yoe at hy0 hy1 hys hye ⊢
  have hlen := (eraYear_row hy0 hy1).2.2
  -- the day of the year, counted from March
  obtain ⟨d, hd⟩ : ∃ d : Nat, doe - eraYearStart yoe = d := ⟨(doe - eraYearStart yoe).toNat, by omega⟩
  have hd365 : d ≤ 365 := by split at hlen <;> omega
  rw [hd]
  have hm := month_table d (by omega)
  simp only at hm ⊢
  generalize (if (5 * (d : Int) + 2) / 153 < 10 then (5 * (d : Int) + 2) / 153 + 3
    else (5 * (d : Int) + 2) / 153 - 9) = month at hm ⊢
  generalize (d : Int) - (153 * ((5 * (d : Int) + 2) / 153) + 2) / 5 + 1 = day at hm ⊢
  obtain ⟨hm1, hm12, hd1, hcommon, hleap⟩ := hm
  refine ⟨by omega, by omega, by omega, ?_⟩
  rcases Nat.lt_or_ge d 365 with hlt | hge
  · have := daysIn_common_le month.toNat (yoe + era * 400 + if month ≤ 2 then 1 else 0)
    have := hcommon hlt
    omega
  · -- the 366th day of a year from March is the 29th of February of a leap year
    obtain ⟨rfl, rfl⟩ := hleap (by omega)
    have hcond : (yoe + 1) % 4 = 0 ∧ ((yoe + 1) % 100 ≠ 0 ∨ yoe = 399) := by
      split at hlen
      · assumption
      · omega
    simp [daysIn, isLeap_of_era hcond]

def civilOfEra (era yoe doy : Int) : Int × Nat × Nat :=
  let mp := (5 * doy + 2) / 153
  let day := doy - (153 * mp + 2) / 5 + 1
  let month := if mp < 10 then mp + 3 else mp - 9
  (yoe + era * 400 + (if month ≤ 2 then 1 else 0), month.toNat, day.toNat)

theorem civilFromDays_eq (days : Int) :
    civilFromDays days = civilOfEra (Int.fdiv (days + 719468) 146097)
      (eraYearOf (days + 719468 - Int.fdiv (days + 719468) 146097 * 146097))
      (days + 719468 - Int.fdiv (days + 719468) 146097 * 146097 -
        eraYearStart (eraYearOf (days + 719468 - Int.fdiv (days + 719468) 146097 * 146097))) :=
  rfl

theorem eraYearStart_le_end {y : Int} (h0 : 0 ≤ y) (h1 : y ≤ 399) :
    0 ≤ eraYearStart y ∧ eraYearEnd y ≤ 146096 := by
  unfold eraYearEnd eraYearStart
  split <;> omega

theorem eraYearOf_eq {y doe : Int} (h0 : 0 ≤ y) (h1 : y ≤ 399) (hs : eraYearStart y ≤ doe)
    (he : doe ≤ eraYearEnd y) : eraYearOf doe = y := by
  have hb := eraYearStart_le_end h0 h1
  obtain ⟨hY0, hY1, hYs, hYe⟩ := eraYearOf_bounds (show 0 ≤ doe by omega) (show doe ≤ 146096 by omega)
  rcases Int.lt_trichotomy (eraYearOf doe) y with hlt | heq | hgt
  · have : eraYearEnd (eraYearOf doe) < eraYearStart y := by
      unfold eraYearEnd eraYearStart
      split <;> omega
    omega
  · exact heq
  · have : eraYearEnd y < eraYearStart (eraYearOf doe) := by
      unfold eraYearEnd eraYearStart
      split <;> omega
    omega

theorem daysFromCivil_civilOfEra {era yoe doy : Int} (h0 : 0 ≤ yoe) (h1 : yoe ≤ 399) (hd0 : 0 ≤ doy)
    (hd1 : doy ≤ 365) :
    daysFromCivil (civilOfEra era yoe doy).1 (civilOfEra era yoe doy).2.1 (civilOfEra era yoe doy).2.2 =
      era * 146097 + eraYearStart yoe + doy - 719468 := by
  unfold civilOfEra daysFromCivil eraYearStart
  dsimp only
  rw [Int.fdiv_eq_ediv_of_nonneg _ (by decide)]
  split <;> split <;> split <;> omega

theorem daysFromCivil_civilFromDays (days : Int) :
    daysFromCivil (civilFromDays days).1 (civilFromDays days).2.1 (civilFromDays days).2.2 = days := by
  have hera := dayOfEra_bounds (days + 719468)
  obtain ⟨hy0, hy1, hys, hye⟩ := eraYearOf_bounds hera.1 hera.2
  have hlen := (eraYear_row hy0 hy1).2.2
  rw [civilFromDays_eq, daysFromCivil_civilOfEra hy0 hy1 (by omega) (by split at hlen <;> omega)]
  omega

def marchMonth (m : Int) : Int := if m > 2 then m - 3 else m + 9

def monthSpan (mp : Int) : Int := (153 * (mp + 1) + 2) / 5 - (153 * mp + 2) / 5

theorem daysIn_le_leap (m : Nat) (y : Int) : daysIn m y ≤ daysIn m 0 := by
  unfold daysIn
  split
  · cases isLeap y <;> decide
  all_goals exact Nat.le_refl _

theorem daysIn_leap_table : ∀ m : Nat, m < 13 → 1 ≤ m →
    (daysIn m 0 : Int) ≤ monthSpan (marchMonth m) := by
  decide

theorem daysIn_le_monthSpan {m : Nat} (y : Int) (h1 : 1 ≤ m) (h12 : m ≤ 12) :
    (daysIn m y : Int) ≤ monthSpan (marchMonth m) :=
  Int.le_trans (Int.ofNat_le.mpr (daysIn_le_leap m y)) (daysIn_leap_table m (by omega) h1)

theorem civilOfEra_march (era yoe : Int) {m d : Nat} (hm1 : 1 ≤ m) (hm12 : m ≤ 12) (hd1 : 1 ≤ d)
    (hspan : (d : Int) ≤ monthSpan (marchMonth m)) :
    civilOfEra era yoe ((153 * marchMonth m + 2) / 5 + d - 1) =
      (yoe + era * 400 + (if m ≤ 2 then 1 else 0), m, d) := by
  have hmp : 0 ≤ marchMonth m ∧ marchMonth m ≤ 11 ∧
      (if marchMonth m < 10 then marchMonth m + 3 else marchMonth m - 9) = m := by
    unfold marchMonth
    split <;> split <;> omega
  unfold monthSpan at hspan
  generalize marchMonth m = mp at hmp hspan ⊢
  obtain ⟨h0, h11, hmonth⟩ := hmp
  -- the day of the year falls within the month's span, so the formula finds the month again
  have hdiv : (5 * ((153 * mp + 2) / 5 + d - 1) + 2) / 153 = mp := by omega
  unfold civilOfEra
  dsimp only
  rw [hdiv, hmonth]
  simp only [Prod.mk.injEq]
  refine ⟨?_, by omega, by omega⟩
  by_cases h2 : m ≤ 2
  · simp [h2, show (m : Int) ≤ 2 by omega]
  · simp [h2, show ¬(m : Int) ≤ 2 by omega]

theorem isLeap_era_iff {yoe era : Int} (h0 : 0 ≤ yoe) (h1 : yoe ≤ 399) :
    isLeap (yoe + era * 400 + 1) = true ↔ (yoe + 1) % 4 = 0 ∧ ((yoe + 1) % 100 ≠ 0 ∨ yoe = 399) := by
  simp only [isLeap, Bool.and_eq_true, bne_iff_ne, ne_eq, Bool.or_eq_true, beq_iff_eq]
  omega

theorem daysIn_february_le (y : Int) : daysIn 2 y ≤ 29 := by
  simp only [daysIn]
  split <;> decide

theorem marchMonth_cases {m : Nat} (hm1 : 1 ≤ m) (hm12 : m ≤ 12) :
    0 ≤ marchMonth m ∧ (m = 2 → marchMonth m = 11) ∧ (m ≠ 2 → marchMonth m ≤ 10) := by
  unfold marchMonth
  split <;> omega

theorem daysFromCivil_eq (y : Int) (m d : Nat) :
    daysFromCivil y m d + 719468 =
      (if m ≤ 2 then y - 1 else y) / 400 * 146097 +
        (eraYearStart ((if m ≤ 2 then y - 1 else y) - (if m ≤ 2 then y - 1 else y) / 400 * 400) +
          ((153 * marchMonth m + 2) / 5 + d - 1)) := by
  unfold daysFromCivil eraYearStart marchMonth
  dsimp only
  rw [Int.fdiv_eq_ediv_of_nonneg _ (by decide)]
  omega

/-- Every valid date is the date of its count of days. -/
theorem civilFromDays_daysFromCivil {y : Int} {m d : Nat} (hm1 : 1 ≤ m) (hm12 : m ≤ 12) (hd1 : 1 ≤ d)
    (hd : d ≤ daysIn m y) : civilFromDays (daysFromCivil y m d) = (y, m, d) := by
  have hdays := daysFromCivil_eq y m d
  generalize hy' : (if m ≤ 2 then y - 1 else y) = y' at hdays
  generalize hera : y' / 400 = era at hdays
  generalize hdoy : (153 * marchMonth m + 2) / 5 + (d : Int) - 1 = doy at hdays
  have hyoe : 0 ≤ y' - era * 400 ∧ y' - era * 400 ≤ 399 := by omega
  generalize hyoe_eq : y' - era * 400 = yoe at hyoe hdays
  have hspan := daysIn_le_monthSpan y hm1 hm12
  have hlen := (eraYear_row hyoe.1 hyoe.2).2.2
  obtain ⟨hmp0, hfeb, hother⟩ := marchMonth_cases hm1 hm12
  -- the day of the year lies within the year; only the 29th of February of a leap year is its
  -- 366th day
  have hwithin : 0 ≤ doy ∧ doy ≤ eraYearEnd yoe - eraYearStart yoe := by
    rw [hlen]
    by_cases h29 : m = 2 ∧ d = 29
    · obtain ⟨rfl, rfl⟩ := h29
      have hleap : isLeap y = true := by
        cases hl : isLeap y with
        | false => simp [daysIn, hl] at hd
        | true => rfl
      have hyear : y = yoe + era * 400 + 1 := by simp at hy'; omega
      rw [hyear, isLeap_era_iff hyoe.1 hyoe.2] at hleap
      rw [if_pos hleap]
      have := hfeb rfl
      omega
    · have h28 : m = 2 → d ≤ 28 := fun h => by
        have := daysIn_february_le y
        subst h
        omega
      unfold monthSpan at hspan
      split <;> omega
  have hb := eraYearStart_le_end hyoe.1 hyoe.2
  have hdiv : Int.fdiv (daysFromCivil y m d + 719468) 146097 = era := by
    rw [Int.fdiv_eq_ediv_of_nonneg _ (by decide), hdays]
    omega
  rw [civilFromDays_eq, hdiv, show daysFromCivil y m d + 719468 - era * 146097 = eraYearStart yoe + doy by omega,
    eraYearOf_eq hyoe.1 hyoe.2 (by omega) (by omega), show eraYearStart yoe + doy - eraYearStart yoe = doy by omega,
    ← hdoy, civilOfEra_march era yoe hm1 hm12 hd1 (Int.le_trans (Int.ofNat_le.mpr hd) hspan)]
  -- the year of the era, with the era and the shift of January and February, is the year
  have hyear : yoe + era * 400 + (if m ≤ 2 then 1 else 0) = y := by
    by_cases h2 : m ≤ 2
    · simp only [h2, if_true] at hy' ⊢
      omega
    · simp only [h2, if_false] at hy' ⊢
      omega
  rw [hyear]

structure Civil.Valid (c : Civil) : Prop where
  month_pos : 1 ≤ c.month
  month_le : c.month ≤ 12
  day_pos : 1 ≤ c.day
  day_le : c.day ≤ daysIn c.month c.year
  hour_lt : c.hour < 24
  minute_lt : c.minute < 60
  second_lt : c.second < 60

namespace Moment

theorem civil_date (m : Moment) :
    (m.civil.year, m.civil.month, m.civil.day) = civilFromDays (Int.fdiv (m.seconds + m.offset) 86400) :=
  rfl

theorem fmod_day_bounds (x : Int) : 0 ≤ Int.fmod x 86400 ∧ Int.fmod x 86400 < 86400 := by
  rw [Int.fmod_eq_emod_of_nonneg x (by decide)]
  omega

theorem civil_clock (m : Moment) :
    m.civil.hour < 24 ∧ m.civil.minute < 60 ∧ m.civil.second < 60 ∧
      ((m.civil.hour * 3600 + m.civil.minute * 60 + m.civil.second : Nat) : Int) =
        Int.fmod (m.seconds + m.offset) 86400 := by
  have h := fmod_day_bounds (m.seconds + m.offset)
  have hfields : m.civil.hour = (Int.fmod (m.seconds + m.offset) 86400).toNat / 3600 ∧
      m.civil.minute = (Int.fmod (m.seconds + m.offset) 86400).toNat % 3600 / 60 ∧
      m.civil.second = (Int.fmod (m.seconds + m.offset) 86400).toNat % 60 := ⟨rfl, rfl, rfl⟩
  omega

theorem civil_valid (m : Moment) :
    1 ≤ m.civil.month ∧ m.civil.month ≤ 12 ∧ 1 ≤ m.civil.day ∧
      m.civil.day ≤ daysIn m.civil.month m.civil.year ∧
      m.civil.hour < 24 ∧ m.civil.minute < 60 ∧ m.civil.second < 60 := by
  have hdate := civil_date m
  have hvalid := civilFromDays_valid (Int.fdiv (m.seconds + m.offset) 86400)
  rw [← hdate] at hvalid
  obtain ⟨hh, hmin, hs, -⟩ := civil_clock m
  exact ⟨hvalid.1, hvalid.2.1, hvalid.2.2.1, hvalid.2.2.2, hh, hmin, hs⟩

theorem civil_isValid (m : Moment) : m.civil.Valid := by
  obtain ⟨h1, h2, h3, h4, h5, h6, h7⟩ := m.civil_valid
  exact ⟨h1, h2, h3, h4, h5, h6, h7⟩

theorem toSeconds_civil (m : Moment) : m.civil.toSeconds = m.seconds + m.offset := by
  have hdays := daysFromCivil_civilFromDays (Int.fdiv (m.seconds + m.offset) 86400)
  rw [← civil_date m] at hdays
  obtain ⟨-, -, -, hclock⟩ := civil_clock m
  unfold Civil.toSeconds
  rw [hdays, hclock, Int.fdiv_eq_ediv_of_nonneg _ (by decide), Int.fmod_eq_emod_of_nonneg _ (by decide)]
  omega

theorem civil_ofCivil {c : Civil} (hc : c.Valid) (nanos : Fin 1000000000) (offset : Int) :
    (ofCivil c nanos offset).civil = c := by
  have hh := hc.hour_lt
  have hmin := hc.minute_lt
  have hs := hc.second_lt
  have hshown : (ofCivil c nanos offset).seconds + (ofCivil c nanos offset).offset = c.toSeconds := by
    simp [ofCivil]
  have hdiv : Int.fdiv c.toSeconds 86400 = daysFromCivil c.year c.month c.day := by
    rw [Int.fdiv_eq_ediv_of_nonneg _ (by decide)]
    unfold Civil.toSeconds
    omega
  have hmod : Int.fmod c.toSeconds 86400 = ((c.hour * 3600 + c.minute * 60 + c.second : Nat) : Int) := by
    rw [Int.fmod_eq_emod_of_nonneg _ (by decide)]
    unfold Civil.toSeconds
    omega
  unfold civil
  rw [hshown]
  dsimp only
  rw [hdiv, hmod, civilFromDays_daysFromCivil hc.month_pos hc.month_le hc.day_pos hc.day_le]
  cases c
  simp only [Int.toNat_natCast, Civil.mk.injEq, true_and] at hh hmin hs ⊢
  omega

end Moment

end DruidQuery.Time
