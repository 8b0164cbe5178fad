import DruidQuery.Proofs.IsoZones
import DruidQuery.Proofs.Steps
import DruidQuery.Builder
/-!
Intervals the builder writes, read back by the interval check. The window of the last `d`
nanoseconds negates `d` as a 64-bit word, and the least duration is its own negation.
-/

namespace DruidQuery

open Time

namespace Time.Moment

@[simp] theorem ofNanos_seconds (total offset : Int) :
    (ofNanos total offset).seconds = Int.fdiv total nanosPerSecond := rfl

@[simp] theorem ofNanos_nanos (total offset : Int) :
    ((ofNanos total offset).nanos : Nat) = (Int.fmod total nanosPerSecond).toNat := rfl

@[simp] theorem ofNanos_offset (total offset : Int) : (ofNanos total offset).offset = offset := rfl

theorem ofNanos_totalNanos (total offset : Int) : (ofNanos total offset).totalNanos = total := by
  simp only [totalNanos, ofNanos_seconds, ofNanos_nanos, nanosPerSecond]
  rw [Int.fdiv_eq_ediv_of_nonneg _ (by decide), Int.fmod_eq_emod_of_nonneg _ (by decide)]
  omega

@[simp] theorem add_totalNanos (m : Moment) (k : Int) : (m.add k).totalNanos = m.totalNanos + k :=
  ofNanos_totalNanos _ _

@[simp] theorem add_offset (m : Moment) (k : Int) : (m.add k).offset = m.offset := rfl

theorem ext_totalNanos {a b : Moment} (h : a.totalNanos = b.totalNanos) (ho : a.offset = b.offset) :
    a = b := by
  obtain ⟨s, n, o⟩ := a
  obtain ⟨s', n', o'⟩ := b
  simp only [totalNanos, nanosPerSecond] at h
  simp only at ho
  have hn := n.isLt
  have hn' := n'.isLt
  have hs : s = s' := by omega
  have hnanos : n = n' := Fin.ext (by omega)
  rw [hs, hnanos, ho]

theorem truncate_second_totalNanos (m : Moment) :
    (m.truncate nanosPerSecond).totalNanos = m.seconds * nanosPerSecond := by
  have hpos : ¬nanosPerSecond ≤ 0 := by decide
  have hn := m.nanos.isLt
  simp only [truncate, hpos, if_false, add_totalNanos]
  simp only [totalNanos, epochFromYearOne, nanosPerSecond]
  rw [Int.fmod_eq_emod_of_nonneg _ (by decide)]
  omega

theorem truncate_second (m : Moment) : m.truncate nanosPerSecond = { m with nanos := 0 } := by
  have hpos : ¬nanosPerSecond ≤ 0 := by decide
  refine ext_totalNanos ?_ (by simp [truncate, hpos])
  rw [truncate_second_totalNanos]
  simp [totalNanos]

theorem ofCivil_civil (m : Moment) (offset : Int) :
    ofCivil m.civil 0 offset = ⟨m.seconds + m.offset - offset, 0, offset⟩ := by
  simp [ofCivil, toSeconds_civil]

end Time.Moment

namespace Time

theorem tdiv_sixty_mul {o : Int} (h : o % 60 = 0) : o.tdiv 60 * 60 = o :=
  Int.tdiv_mul_cancel (Int.dvd_of_emod_eq_zero h)

theorem Moment.IsoRead.parseIso_formatIso {m : Moment} (hm : m.IsoRead) :
    parseIso (formatIso m) =
      if m.offset.natAbs = 90000 then .error ⟨formatIso m⟩ else .ok (m.truncate nanosPerSecond) := by
  split
  · exact parseIso_formatIso_of_25_hours m ⟨hm.year_nonneg, hm.year_le⟩ (by omega)
  · rw [parseIso_formatIso_zone m ⟨hm.year_nonneg, hm.year_le⟩ (by have := hm.offset_le; omega),
      tdiv_sixty_mul hm.offset_minutes, Moment.ofCivil_civil, Moment.truncate_second m]
    simp

theorem Layout.write_nanos {layout : Layout} (h : Piece.fraction ∉ layout) (m : Moment)
    (n : Fin 1000000000) :
    layout.write { m with nanos := n } = layout.write m := by
  unfold Layout.write
  dsimp only
  congr 1
  apply List.map_congr_left
  intro p hp
  cases p
  case fraction => exact absurd hp h
  all_goals rfl

theorem slash_not_mem_formatIso_zone (m : Moment) (hyear : 0 ≤ m.civil.year ∧ m.civil.year ≤ 9999)
    (ho : m.offset.natAbs < 360000) : '/' ∉ (formatIso m).toList := by
  rw [formatIso_toList_zone m hyear, offsetText_toList _ ho, dateText, clockText, decimal_four]
  split <;> simp [decimal_two]

theorem splitOn_formatInterval_zone (a b : Moment) (hya : 0 ≤ a.civil.year ∧ a.civil.year ≤ 9999)
    (hyb : 0 ≤ b.civil.year ∧ b.civil.year ≤ 9999) (ha : a.offset.natAbs < 360000)
    (hb : b.offset.natAbs < 360000) :
    (formatInterval a b).splitOn "/" = [formatIso a, formatIso b] := by
  have hsa := slash_not_mem_formatIso_zone a hya ha
  have hsb := slash_not_mem_formatIso_zone b hyb hb
  rw [show "/" = String.singleton '/' from rfl, splitOn_singleton]
  simp only [formatInterval, String.toList_append]
  rw [show "/".toList = ['/'] from rfl, List.append_assoc, List.singleton_append,
    List.splitOnP_append_cons_of_forall_mem (beq_false_of_not_mem hsa) _ (by simp),
    List.splitOnP_eq_singleton (beq_false_of_not_mem hsb)]
  simp

theorem parseInterval_formatInterval_zone (s e : Moment) (hys : 0 ≤ s.civil.year ∧ s.civil.year ≤ 9999)
    (hye : 0 ≤ e.civil.year ∧ e.civil.year ≤ 9999) (hso : s.offset.natAbs < 90000)
    (heo : e.offset.natAbs < 90000) :
    parseInterval (formatInterval s e) =
      if (Moment.ofCivil s.civil 0 (s.offset.tdiv 60 * 60)).totalNanos <
          (Moment.ofCivil e.civil 0 (e.offset.tdiv 60 * 60)).totalNanos then
        .ok (Moment.ofCivil s.civil 0 (s.offset.tdiv 60 * 60), Moment.ofCivil e.civil 0 (e.offset.tdiv 60 * 60))
      else .error (.order (Moment.ofCivil s.civil 0 (s.offset.tdiv 60 * 60))
        (Moment.ofCivil e.civil 0 (e.offset.tdiv 60 * 60))) := by
  unfold parseInterval
  rw [splitOn_formatInterval_zone s e hys hye (by omega) (by omega)]
  simp only [parseIso_formatIso_zone s hys hso, parseIso_formatIso_zone e hye heo]

theorem parseInterval_formatInterval_same_clock (s e : Moment) (hoffset : s.offset = e.offset)
    (ho : e.offset.natAbs < 90000)
    (hys : 0 ≤ s.civil.year ∧ s.civil.year ≤ 9999) (hye : 0 ≤ e.civil.year ∧ e.civil.year ≤ 9999) :
    ∃ p q, parseInterval (formatInterval s e) =
      if (s.truncate nanosPerSecond).totalNanos < (e.truncate nanosPerSecond).totalNanos then .ok (p, q)
      else .error (.order p q) := by
  refine ⟨Moment.ofCivil s.civil 0 (s.offset.tdiv 60 * 60), Moment.ofCivil e.civil 0 (e.offset.tdiv 60 * 60),
    ?_⟩
  rw [parseInterval_formatInterval_zone s e hys hye (by omega) ho, Moment.ofCivil_civil, Moment.ofCivil_civil, Moment.truncate_second_totalNanos s,
    Moment.truncate_second_totalNanos e]
  -- both dates move by the same whole seconds, which keeps their order
  by_cases h : s.seconds < e.seconds
  · rw [if_pos (by simp [Moment.totalNanos, nanosPerSecond, hoffset]; omega),
      if_pos (by simp [nanosPerSecond]; omega)]
  · rw [if_neg (by simp [Moment.totalNanos, nanosPerSecond, hoffset]; omega),
      if_neg (by simp [nanosPerSecond]; omega)]

end Time

theorem normalize_normalize {s : String} {m : Moment} (h : parseIso s = .ok m) :
    Time.normalize s = .ok (formatIso m) ∧
      Time.normalize (formatIso m) =
        if m.offset.natAbs = 90000 then .error ⟨formatIso m⟩ else .ok (formatIso m) := by
  have hm := parseIso_isoRead h
  refine ⟨by rw [Time.normalize, h]; rfl, ?_⟩
  rw [Time.normalize, hm.parseIso_formatIso]
  split
  · rfl
  · rw [Moment.truncate_second m]
    exact congrArg Except.ok (Layout.write_nanos (by decide) m 0)

/-- Two dates the reader accepts are normalised into an interval, and the interval check reads it
back as the two dates truncated to the second, on their own offsets: it passes exactly when the
first is earlier and fails on their order otherwise. A date at `±24:60` is written with an offset
of 25 hours, which the check rejects as not a date. -/
theorem normalized_interval_reads_back {a b : String} {s e : Moment}
    (ha : parseIso a = .ok s) (hb : parseIso b = .ok e) :
    normalizeInterval a b = .ok (formatInterval s e) ∧
      parseInterval (formatInterval s e) =
        if s.offset.natAbs = 90000 ∨ e.offset.natAbs = 90000 then .error .date
        else if (s.truncate nanosPerSecond).totalNanos < (e.truncate nanosPerSecond).totalNanos then
          .ok (s.truncate nanosPerSecond, e.truncate nanosPerSecond)
        else .error (.order (s.truncate nanosPerSecond) (e.truncate nanosPerSecond)) := by
  have hs := parseIso_isoRead ha
  have he := parseIso_isoRead hb
  refine ⟨by simp [normalizeInterval, ha, hb], ?_⟩
  have hso := hs.offset_le
  have heo := he.offset_le
  unfold parseInterval
  rw [splitOn_formatInterval_zone s e ⟨hs.year_nonneg, hs.year_le⟩ ⟨he.year_nonneg, he.year_le⟩
    (by omega) (by omega)]
  simp only [hs.parseIso_formatIso, he.parseIso_formatIso]
  by_cases h1 : s.offset.natAbs = 90000 <;> by_cases h2 : e.offset.natAbs = 90000 <;> simp [h1, h2]

theorem offset_and_basic_dates_read_back :
    parseIso "2013-04-23T15:00:00.123+02:00" = .ok ⟨1366722000, 123000000, 7200⟩ ∧
      parseIso "20130424T000000Z" = .ok ⟨1366761600, 0, 0⟩ ∧
      normalizeInterval "2013-04-23T15:00:00.123+02:00" "20130424T000000Z" =
        .ok (formatInterval ⟨1366722000, 123000000, 7200⟩ ⟨1366761600, 0, 0⟩) ∧
      parseInterval (formatInterval ⟨1366722000, 123000000, 7200⟩ ⟨1366761600, 0, 0⟩) =
        .ok (⟨1366722000, 0, 7200⟩, ⟨1366761600, 0, 0⟩) := by
  have ha : parseIso "2013-04-23T15:00:00.123+02:00" = .ok ⟨1366722000, 123000000, 7200⟩ := by decide
  have hb : parseIso "20130424T000000Z" = .ok ⟨1366761600, 0, 0⟩ := by decide
  obtain ⟨hnormal, hread⟩ := normalized_interval_reads_back ha hb
  refine ⟨ha, hb, hnormal, ?_⟩
  rw [hread, Moment.truncate_second, Moment.truncate_second]
  decide

/-- A start at `+24:60`, the greatest offset the reader takes, is normalised with its offset written
as 25 hours, and the interval check rejects the result as not a date. -/
theorem full_offset_interval_not_a_date :
    normalizeInterval "2013-01-26T00:00:00+24:60" "2013-01-27T00:00:00Z" =
        .ok "2013-01-26T00:00:00+25:00/2013-01-27T00:00:00+00:00" ∧
      parseInterval "2013-01-26T00:00:00+25:00/2013-01-27T00:00:00+00:00" = .error .date := by
  refine ⟨by decide, ?_⟩
  unfold parseInterval
  rw [show "/" = String.singleton '/' from rfl, splitOn_singleton]
  decide

theorem toInt_eq_least_iff (d : Int64) : d.toInt = -2 ^ 63 ↔ d = Int64.minValue := by
  rw [← Int64.toInt_minValue, Int64.toInt_inj]

theorem toInt_neg_duration (d : Int64) :
    (-d).toInt = if d = Int64.minValue then d.toInt else -d.toInt := by
  have hlo := Int64.le_toInt d
  have hhi := Int64.toInt_lt d
  rw [Int64.toInt_neg]
  split
  · rename_i h
    subst h
    decide
  · rename_i h
    have hne : d.toInt ≠ -2 ^ 63 := (toInt_eq_least_iff d).not.mpr h
    rw [Int.bmod_def]
    split <;> omega

/-- The window of the last `d` nanoseconds ends at the clock and starts on the clock's offset at
the clock moved back by `d`, except for the least duration `-2^63`, which is its own negation and
moves the start back by `2^63`. For ends in years of four digits and an offset under 25 hours the
interval passes the check exactly when the start truncated to the second is earlier than the
clock truncated to the second, and fails on their order otherwise; so of the negative durations
only the least one passes. -/
theorem last_window_passes_iff (b : Builder) (d : Int64) (hoffset : b.clock.offset.natAbs < 90000)
    (hyears : ∀ m ∈ [b.clock.add (-d).toInt, b.clock], 0 ≤ m.civil.year ∧ m.civil.year ≤ 9999) :
    let start := b.clock.add (-d).toInt
    b.last d = b.edit (fun q => { q with intervals := [formatInterval start b.clock] }) ∧
      start.offset = b.clock.offset ∧
      start.totalNanos =
        (if d = Int64.minValue then b.clock.totalNanos + d.toInt else b.clock.totalNanos - d.toInt) ∧
      (∃ p q, parseInterval (formatInterval start b.clock) =
        if (start.truncate nanosPerSecond).totalNanos < (b.clock.truncate nanosPerSecond).totalNanos
        then .ok (p, q) else .error (.order p q)) ∧
      (d < 0 → ((start.truncate nanosPerSecond).totalNanos < (b.clock.truncate nanosPerSecond).totalNanos ↔
        d = Int64.minValue)) := by
  intro start
  have hstart : start.totalNanos =
      (if d = Int64.minValue then b.clock.totalNanos + d.toInt else b.clock.totalNanos - d.toInt) := by
    simp only [start, Moment.add_totalNanos, toInt_neg_duration]
    split <;> omega
  have hys : 0 ≤ start.civil.year ∧ start.civil.year ≤ 9999 := hyears start (by simp [start])
  have hyn : 0 ≤ b.clock.civil.year ∧ b.clock.civil.year ≤ 9999 := hyears b.clock (by simp)
  refine ⟨rfl, rfl, hstart,
    parseInterval_formatInterval_same_clock start b.clock rfl hoffset hys hyn, ?_⟩
  intro hneg
  have hnegInt : d.toInt < 0 := Int64.lt_iff_toInt_lt.mp hneg
  have hlo := Int64.le_toInt d
  have hsn := start.nanos.isLt
  have hcn := b.clock.nanos.isLt
  -- the truncated ends compare as the whole seconds of the two instants
  rw [Moment.truncate_second_totalNanos, Moment.truncate_second_totalNanos]
  have hs := hstart
  simp only [Moment.totalNanos, nanosPerSecond] at hs ⊢
  by_cases hmin : d = Int64.minValue
  · have hd : d.toInt = -2 ^ 63 := (toInt_eq_least_iff d).mpr hmin
    rw [if_pos hmin] at hs
    simp only [hmin, iff_true]
    omega
  · have hd : d.toInt ≠ -2 ^ 63 := (toInt_eq_least_iff d).not.mpr hmin
    rw [if_neg hmin] at hs
    simp only [hmin, iff_false, not_lt]
    omega

theorem last_hour_window_passes :
    (Builder.create ⟨1359203400, 0, 0⟩ []).clock.offset.natAbs < 90000 ∧
      (∀ m ∈ [(Builder.create ⟨1359203400, 0, 0⟩ []).clock.add (-(3600000000000 : Int64)).toInt,
          (Builder.create ⟨1359203400, 0, 0⟩ []).clock], 0 ≤ m.civil.year ∧ m.civil.year ≤ 9999) ∧
      ((Builder.create ⟨1359203400, 0, 0⟩ []).last 3600000000000).query.intervals =
        ["2013-01-26T11:30:00+00:00/2013-01-26T12:30:00+00:00"] ∧
      ∃ p q, parseInterval "2013-01-26T11:30:00+00:00/2013-01-26T12:30:00+00:00" = .ok (p, q) := by
  have hoffset : (Builder.create ⟨1359203400, 0, 0⟩ []).clock.offset.natAbs < 90000 := by decide
  have hyears : ∀ m ∈ [(Builder.create ⟨1359203400, 0, 0⟩ []).clock.add (-(3600000000000 : Int64)).toInt,
      (Builder.create ⟨1359203400, 0, 0⟩ []).clock], 0 ≤ m.civil.year ∧ m.civil.year ≤ 9999 := by decide
  obtain ⟨hlast, -, -, ⟨p, q, hparse⟩, -⟩ :=
    last_window_passes_iff (Builder.create ⟨1359203400, 0, 0⟩ []) 3600000000000 hoffset hyears
  have htext : formatInterval ((Builder.create ⟨1359203400, 0, 0⟩ []).clock.add (-(3600000000000 : Int64)).toInt)
      (Builder.create ⟨1359203400, 0, 0⟩ []).clock =
        "2013-01-26T11:30:00+00:00/2013-01-26T12:30:00+00:00" := by decide
  rw [htext, if_pos (by decide)] at hparse
  refine ⟨hoffset, hyears, ?_, p, q, hparse⟩
  rw [hlast, Builder.edit_query, htext]

/-- The least duration is its own negation: the window of the last `-2^63` nanoseconds starts
about 292 years before the clock, not after it, and its interval passes the check. -/
theorem least_duration_window_passes :
    ((Builder.create ⟨1359203400, 0, 0⟩ []).last (-9223372036854775808)).query.intervals =
        ["1720-10-17T12:42:43+00:00/2013-01-26T12:30:00+00:00"] ∧
      parseInterval "1720-10-17T12:42:43+00:00/2013-01-26T12:30:00+00:00" =
        .ok (⟨-7864168637, 0, 0⟩, ⟨1359203400, 0, 0⟩) := by
  refine ⟨by decide, ?_⟩
  unfold parseInterval
  rw [show "/" = String.singleton '/' from rfl, splitOn_singleton]
  decide

end DruidQuery
