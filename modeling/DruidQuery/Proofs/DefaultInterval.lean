import Mathlib
import DruidQuery.Proofs.IntervalReadBack
import DruidQuery.Proofs.Steps
import DruidQuery.Query.Check
/-!
The default interval of a new builder runs from the start of the clock's UTC day to the clock,
both to the second, so it passes the check exactly past the first second of the day.
-/

namespace DruidQuery

open Time

namespace Time.Moment

theorem startOfDay_eq (m : Moment) : m.startOfDay = ⟨86400 * Int.fdiv m.seconds 86400, 0, 0⟩ := by
  have hpos : ¬86400 * nanosPerSecond ≤ 0 := by decide
  have hn := m.nanos.isLt
  refine ext_totalNanos ?_ (by simp [startOfDay, align, truncate, hpos, toUtc])
  simp only [startOfDay, align, truncate, hpos, if_false, Bool.false_and, Bool.false_eq_true,
    add_totalNanos]
  simp only [totalNanos, toUtc, epochFromYearOne, nanosPerSecond, Fin.val_zero, Nat.cast_zero]
  rw [Int.fmod_eq_emod_of_nonneg _ (by decide), Int.fdiv_eq_ediv_of_nonneg _ (by decide)]
  omega

theorem totalNanos_ofCivil (c : Civil) : (ofCivil c 0 0).totalNanos = c.toSeconds * 1000000000 := by
  simp [ofCivil, totalNanos, nanosPerSecond]

theorem toSeconds_sub_of_same_day (a b : Moment)
    (h : Int.fdiv (a.seconds + a.offset) 86400 = Int.fdiv (b.seconds + b.offset) 86400) :
    b.civil.toSeconds - a.civil.toSeconds =
      Int.fmod (b.seconds + b.offset) 86400 - Int.fmod (a.seconds + a.offset) 86400 := by
  have hdate : (a.civil.year, a.civil.month, a.civil.day) = (b.civil.year, b.civil.month, b.civil.day) := by
    rw [civil_date, civil_date, h]
  simp only [Prod.mk.injEq] at hdate
  obtain ⟨hy, hm, hd⟩ := hdate
  have ha := (civil_clock a).2.2.2
  have hb := (civil_clock b).2.2.2
  simp only [Civil.toSeconds, hy, hm, hd]
  omega

end Time.Moment

namespace Query

theorem checkIntervals_single_ok {s : String} {p : Moment × Moment} (h : parseInterval s = .ok p) :
    checkIntervals [s] = [] := by
  simp [checkIntervals, h]

theorem checkIntervals_single_error {s : String} {e : IntervalError}
    (h : parseInterval s = .error e) :
    checkIntervals [s] = [⟨"intervals[0]", e.message⟩] := by
  have hpath : indexPath "intervals" 0 = "intervals[0]" := by decide
  simp [checkIntervals, h, hpath]

theorem checkIntervals_day (now : Moment) (hutc : now.offset = 0)
    (hyear : 0 ≤ now.civil.year ∧ now.civil.year ≤ 9999) :
    checkIntervals [formatInterval ⟨86400 * Int.fdiv now.seconds 86400, 0, 0⟩ now] =
      if 0 < Int.fmod now.seconds 86400 then []
      else [⟨"intervals[0]", "first date needs to be < second date"⟩] := by
  set start : Moment := ⟨86400 * Int.fdiv now.seconds 86400, 0, 0⟩
  have hday : Int.fdiv (start.seconds + start.offset) 86400 = Int.fdiv (now.seconds + now.offset) 86400 := by
    simp only [start, hutc, add_zero]
    rw [Int.fdiv_eq_ediv_of_nonneg _ (by decide), Int.fdiv_eq_ediv_of_nonneg _ (by decide)]
    omega
  have hsecs : Int.fmod (start.seconds + start.offset) 86400 = 0 := by
    simp only [start, add_zero]
    rw [Int.fmod_eq_emod_of_nonneg _ (by decide)]
    omega
  -- both ends show the same date, so the start's year is the clock's
  have hyear' : 0 ≤ start.civil.year ∧ start.civil.year ≤ 9999 := by
    have hdate := Moment.civil_date start
    rw [hday, ← Moment.civil_date now] at hdate
    simp only [Prod.mk.injEq] at hdate
    rw [hdate.1]
    exact hyear
  have hdiff := Moment.toSeconds_sub_of_same_day start now hday
  rw [hsecs, hutc, add_zero] at hdiff
  have hparse := parseInterval_formatInterval_zone start now hyear' hyear (by simp [start]) (by simp [hutc])
  simp only [show start.offset = 0 from rfl, hutc, Int.zero_tdiv, Int.zero_mul,
    Moment.totalNanos_ofCivil] at hparse
  by_cases hpos : 0 < Int.fmod now.seconds 86400
  · rw [if_pos hpos]
    rw [if_pos (by omega)] at hparse
    exact checkIntervals_single_ok hparse
  · rw [if_neg hpos]
    rw [if_neg (by omega)] at hparse
    exact checkIntervals_single_error hparse

end Query

namespace Builder

def optionsClock : Moment → List BuilderOption → Moment
  | now, [] => now
  | _, .clock t :: options => optionsClock t options
  | now, _ :: options => optionsClock now options

theorem applyOption_clock_intervals (acc : Builder × Option Config) (o : BuilderOption)
    (options : List BuilderOption) :
    optionsClock (applyOption acc o).1.clock options = optionsClock acc.1.clock (o :: options) ∧
      (applyOption acc o).1.query.intervals = acc.1.query.intervals := by
  cases o with
  | logLevel rank =>
    simp only [applyOption, setLevel, record, optionsClock]
    split <;> exact ⟨rfl, rfl⟩
  | _ => exact ⟨rfl, rfl⟩

theorem foldl_applyOption_clock_intervals (options : List BuilderOption) (acc : Builder × Option Config) :
    (options.foldl applyOption acc).1.clock = optionsClock acc.1.clock options ∧
      (options.foldl applyOption acc).1.query.intervals = acc.1.query.intervals := by
  induction options generalizing acc with
  | nil => exact ⟨rfl, rfl⟩
  | cons o options ih =>
    obtain ⟨hclock, hintervals⟩ := ih (applyOption acc o)
    obtain ⟨hstep, hstep'⟩ := applyOption_clock_intervals acc o options
    exact ⟨hclock.trans hstep, hintervals.trans hstep'⟩

theorem applyConfig_clock_intervals (b : Builder) (c : Config) :
    ((b.applyConfig c).clock, (b.applyConfig c).query.intervals) = (b.clock, b.query.intervals) := by
  apply applyConfig_frame (fun b => (b.clock, b.query.intervals)) b c
  · intro b r
    simp only [setLevel, record]
    split <;> rfl
  all_goals intros; rfl

theorem create_clock_intervals (clock : Moment) (options : List BuilderOption) :
    (create clock options).clock = optionsClock clock options ∧
      (create clock options).query.intervals =
        [formatInterval (optionsClock clock options).toUtc.startOfDay (optionsClock clock options).toUtc] := by
  have hfold := foldl_applyOption_clock_intervals options ({ query := Query.ofType "timeseries", clock }, none)
  unfold create
  rcases hf : options.foldl applyOption ({ query := Query.ofType "timeseries", clock }, none)
    with ⟨b, config⟩
  rw [hf] at hfold
  obtain ⟨hclock, hintervals⟩ := hfold
  have hnow : b.clock = optionsClock clock options := hclock
  have hempty : b.query.intervals = [] := hintervals
  -- the defaults keep the clock and the empty intervals; the default interval comes last
  cases config with
  | some c =>
    have hc := applyConfig_clock_intervals b c
    simp only [Prod.mk.injEq] at hc
    dsimp only
    rw [if_pos (by simp [hc.2, hempty])]
    exact ⟨hc.1.trans hnow, by simp [interval, edit, hc.1, hnow]⟩
  | none =>
    dsimp only
    rw [if_pos (by simp [hempty])]
    exact ⟨hnow, by simp [interval, edit, hnow]⟩

end Builder

/-- A new builder's query has one interval: from the first instant of the clock's UTC day to the
clock, the last clock among the options. For a clock in a year of four digits the interval
passes the check exactly when the clock is past the first second of its UTC day; in that first
second the check reports that the first date is not before the second. -/
theorem default_interval_passes_iff_past_first_second (clock : Moment)
    (options : List BuilderOption)
    (hyear : 0 ≤ (Builder.optionsClock clock options).toUtc.civil.year ∧
      (Builder.optionsClock clock options).toUtc.civil.year ≤ 9999) :
    (Builder.create clock options).clock = Builder.optionsClock clock options ∧
      (Builder.create clock options).query.intervals =
        [formatInterval ⟨86400 * Int.fdiv (Builder.optionsClock clock options).seconds 86400, 0, 0⟩
          (Builder.optionsClock clock options).toUtc] ∧
      Query.checkIntervals (Builder.create clock options).query.intervals =
        if 0 < Int.fmod (Builder.optionsClock clock options).seconds 86400 then []
        else [⟨"intervals[0]", "first date needs to be < second date"⟩] := by
  obtain ⟨hclock, hintervals⟩ := Builder.create_clock_intervals clock options
  have hstart := Moment.startOfDay_eq (Builder.optionsClock clock options).toUtc
  rw [hstart] at hintervals
  refine ⟨hclock, hintervals, ?_⟩
  rw [hintervals]
  exact Query.checkIntervals_day _ rfl hyear

theorem afternoon_default_interval_passes :
    Query.checkIntervals (Builder.create ⟨1359203400, 0, 0⟩ []).query.intervals = [] := by
  rw [(default_interval_passes_iff_past_first_second ⟨1359203400, 0, 0⟩ [] (by decide)).2.2]
  decide

/-- Half a second past midnight UTC the default interval is reported: both of its ends are
written as midnight. -/
theorem first_second_default_interval_reported :
    Query.checkIntervals (Builder.create ⟨1359158400, 500000000, 0⟩ []).query.intervals =
      [⟨"intervals[0]", "first date needs to be < second date"⟩] := by
  obtain ⟨-, hintervals⟩ := Builder.create_clock_intervals ⟨1359158400, 500000000, 0⟩ []
  rw [hintervals, Moment.startOfDay_eq]
  rw [Query.checkIntervals_day _ rfl (by decide)]
  decide

end DruidQuery
