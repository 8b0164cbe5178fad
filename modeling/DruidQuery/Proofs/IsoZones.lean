import DruidQuery.Proofs.IsoDates

namespace DruidQuery.Time

theorem offsetAt_bounds {colon : Bool} {cs : List Char} {o : Int} {rest : List Char}
    (h : offsetAt colon cs = some (o, rest)) : o % 60 = 0 ∧ o.natAbs ≤ 90000 := by
  unfold offsetAt at h
  simp at h
  obtain ⟨-, -, h⟩ := h
  simp only [Option.bind_eq_some_iff] at h
  obtain ⟨sign, -, hours, -, minutes, -, h⟩ := h
  split at h
  · cases h
  · rename_i hrange
    split at h
    · cases h
      omega
    · split at h
      · cases h
        omega
      · cases h

theorem digit_sub_lt {c : Char} (h : c.isDigit) : c.toNat - 48 < 10 := by
  have := Char.isDigit_iff_toNat.mp h
  have h0 : '0'.toNat = 48 := rfl
  have h9 : '9'.toNat = 57 := rfl
  omega

theorem digitAt_lt {cs : List Char} {i a : Nat} (h : digitAt cs i = some a) : a < 10 := by
  unfold digitAt at h
  split at h
  · split at h
    · cases h
      exact digit_sub_lt ‹_›
    · cases h
  · cases h

structure Reading.Sound (r : Reading) : Prop where
  year_nonneg : 0 ≤ r.year
  year_le : r.year ≤ 9999
  month_pos : 1 ≤ r.month
  month_le : r.month ≤ 12
  hour_lt : r.hour < 24
  minute_lt : r.minute < 60
  second_lt : r.second < 60
  offset_sound : ∀ o, r.offset = some o → o % 60 = 0 ∧ o.natAbs ≤ 90000

theorem Reading.sound_default : ({} : Reading).Sound :=
  ⟨le_refl _, by decide, le_refl _, by decide, by decide, by decide, by decide, by simp⟩

theorem readPieces_step {p : Piece} {rest : Layout} {cs : List Char} {r r' : Reading} (hr : r.Sound)
    (h : readPieces (p :: rest) cs r = some r') :
    ∃ cs' r₁, r₁.Sound ∧ readPieces rest cs' r₁ = some r' := by
  obtain ⟨hy0, hy1, hm1, hm12, hh, hmin, hs, ho⟩ := hr
  cases p with
  | literal c =>
    simp only [readPieces] at h
    split at h
    · exact ⟨_, r, ⟨hy0, hy1, hm1, hm12, hh, hmin, hs, ho⟩, h⟩
    · cases h
  | year =>
    simp only [readPieces] at h
    split at h
    · rename_i a b c d ha hb hc hd
      have := digitAt_lt ha
      have := digitAt_lt hb
      have := digitAt_lt hc
      have := digitAt_lt hd
      exact ⟨_, _, by exact ⟨by dsimp only; omega, by dsimp only; omega, hm1, hm12, hh, hmin, hs, ho⟩, h⟩
    · cases h
  | month =>
    simp only [readPieces, Option.bind_eq_bind, Option.bind_eq_some_iff] at h
    obtain ⟨⟨m, cs'⟩, -, h⟩ := h
    split at h
    · simp at h
    · rename_i hrange
      simp only [Bool.or_eq_true, decide_eq_true_eq, not_or] at hrange
      exact ⟨_, _, by exact ⟨hy0, hy1, by dsimp only; omega, by dsimp only; omega, hh, hmin, hs, ho⟩, h⟩
  | day =>
    simp only [readPieces, Option.bind_eq_bind, Option.bind_eq_some_iff] at h
    obtain ⟨⟨d, cs'⟩, -, h⟩ := h
    exact ⟨_, _, by exact ⟨hy0, hy1, hm1, hm12, hh, hmin, hs, ho⟩, h⟩
  | hour =>
    simp only [readPieces, Option.bind_eq_bind, Option.bind_eq_some_iff] at h
    obtain ⟨⟨v, cs'⟩, -, h⟩ := h
    split at h
    · simp at h
    · exact ⟨_, _, by exact ⟨hy0, hy1, hm1, hm12, by dsimp only; omega, hmin, hs, ho⟩, h⟩
  | minute =>
    simp only [readPieces, Option.bind_eq_bind, Option.bind_eq_some_iff] at h
    obtain ⟨⟨v, cs'⟩, -, h⟩ := h
    split at h
    · simp at h
    · exact ⟨_, _, by exact ⟨hy0, hy1, hm1, hm12, hh, by dsimp only; omega, hs, ho⟩, h⟩
  | second =>
    simp only [readPieces, Option.bind_eq_bind, Option.bind_eq_some_iff] at h
    obtain ⟨⟨v, cs'⟩, -, h⟩ := h
    split at h
    · simp at h
    · rename_i hv
      have hv : v < 60 := by simpa using hv
      split at h
      · exact ⟨_, _, by exact ⟨hy0, hy1, hm1, hm12, hh, hmin, hv, ho⟩, h⟩
      · -- a fraction read here or not, nothing checked changes
        split at h <;> exact ⟨_, _, by exact ⟨hy0, hy1, hm1, hm12, hh, hmin, hv, ho⟩, h⟩
  | fraction =>
    simp only [readPieces] at h
    split at h <;> exact ⟨_, _, by exact ⟨hy0, hy1, hm1, hm12, hh, hmin, hs, ho⟩, h⟩
  | zone colon =>
    simp only [readPieces] at h
    split at h
    · exact ⟨_, _, by exact ⟨hy0, hy1, hm1, hm12, hh, hmin, hs, by simp⟩, h⟩
    · simp only [Option.bind_eq_bind, Option.bind_eq_some_iff] at h
      obtain ⟨⟨o, cs'⟩, hoff, h⟩ := h
      have := offsetAt_bounds hoff
      exact ⟨_, _, by exact ⟨hy0, hy1, hm1, hm12, hh, hmin, hs, by simpa using this⟩, h⟩
  | offset =>
    simp only [readPieces, Option.bind_eq_bind, Option.bind_eq_some_iff] at h
    obtain ⟨⟨o, cs'⟩, hoff, h⟩ := h
    have := offsetAt_bounds hoff
    exact ⟨_, _, by exact ⟨hy0, hy1, hm1, hm12, hh, hmin, hs, by simpa using this⟩, h⟩

theorem readPieces_sound : ∀ (layout : Layout) {cs : List Char} {r r' : Reading}, r.Sound →
    readPieces layout cs r = some r' → r'.Sound
  | [], cs, r, r', hr, h => by
    cases cs with
    | nil =>
      simp only [readPieces, Option.some.injEq] at h
      exact h ▸ hr
    | cons => simp [readPieces] at h
  | _ :: rest, _, _, _, hr, h => by
    obtain ⟨cs', r₁, hr₁, h'⟩ := readPieces_step hr h
    exact readPieces_sound rest hr₁ h'

/-- The moments read from ISO texts: a clock in a year of four digits, and an offset of whole
minutes within 24 hours and 60 minutes. -/
structure Moment.IsoRead (m : Moment) : Prop where
  year_nonneg : 0 ≤ m.civil.year
  year_le : m.civil.year ≤ 9999
  offset_minutes : m.offset % 60 = 0
  offset_le : m.offset.natAbs ≤ 90000

theorem Layout.read_isoRead {layout : Layout} {s : String} {m : Moment} (h : layout.read s = some m) :
    m.IsoRead := by
  unfold Layout.read at h
  simp only [Option.bind_eq_bind, Option.bind_eq_some_iff] at h
  obtain ⟨r, hr, h⟩ := h
  have hs := readPieces_sound layout Reading.sound_default hr
  split at h
  · simp at h
  · rename_i hday
    simp only [Bool.or_eq_true, decide_eq_true_eq, not_or, Nat.not_lt] at hday
    have hc : Civil.Valid ⟨r.year, r.month, r.day, r.hour, r.minute, r.second⟩ :=
      ⟨hs.month_pos, hs.month_le, hday.1, hday.2, hs.hour_lt, hs.minute_lt, hs.second_lt⟩
    simp only [pure, Option.some.injEq] at h
    subst h
    have hoffset : (r.offset.getD 0) % 60 = 0 ∧ (r.offset.getD 0).natAbs ≤ 90000 := by
      cases ho : r.offset with
      | none => simp
      | some o => simpa using hs.offset_sound o ho
    refine ⟨?_, ?_, hoffset.1, hoffset.2⟩ <;>
      rw [Moment.civil_ofCivil hc]
    · exact hs.year_nonneg
    · exact hs.year_le

theorem parseIso_isoRead {s : String} {m : Moment} (h : parseIso s = .ok m) : m.IsoRead := by
  unfold parseIso at h
  dsimp only at h
  split at h
  · rename_i m' hfind
    cases h
    obtain ⟨layout, -, hread⟩ := List.exists_of_findSome?_eq_some hfind
    exact Layout.read_isoRead hread
  · cases h

def dateText (c : Civil) : List Char :=
  decimal 4 c.year.toNat ++ '-' :: (decimal 2 c.month ++ '-' :: decimal 2 c.day)

def clockText (c : Civil) : List Char :=
  decimal 2 c.hour ++ ':' :: (decimal 2 c.minute ++ ':' :: decimal 2 c.second)

theorem offsetText_toList (o : Int) (h : o.natAbs < 360000) :
    (offsetText true o).toList = (if o.tdiv 60 < 0 then '-' else '+') ::
      (decimal 2 (o.natAbs / 60 / 60) ++ ':' :: decimal 2 (o.natAbs / 60 % 60)) := by
  unfold offsetText
  have hdiv : ((o.natAbs / 60 : Nat) : Int) / 60 = ((o.natAbs / 60 / 60 : Nat) : Int) := by omega
  have hmod : ((o.natAbs / 60 : Nat) : Int) % 60 = ((o.natAbs / 60 % 60 : Nat) : Int) := by omega
  rw [String.toList_append, String.toList_append, String.toList_append, hdiv, hmod,
    padded_two (show o.natAbs / 60 / 60 < 100 by omega), padded_two (show o.natAbs / 60 % 60 < 100 by omega)]
  split <;> simp

theorem formatIso_toList_zone (m : Moment) (hyear : 0 ≤ m.civil.year ∧ m.civil.year ≤ 9999) :
    (formatIso m).toList = dateText m.civil ++ 'T' :: (clockText m.civil ++ (offsetText true m.offset).toList) := by
  obtain ⟨-, hm, -, hd, hh, hmin, hs⟩ := m.civil_valid
  have hd31 : m.civil.day < 100 := Nat.lt_of_le_of_lt (hd.trans (daysIn_le_31 _ _)) (by decide)
  simp [formatIso, Layout.iso, Layout.write, datePieces, clockPieces, dateText, clockText,
    padded_year hyear.1 hyear.2, padded_two (show m.civil.month < 100 by omega), padded_two hd31,
    padded_two (show m.civil.hour < 100 by omega), padded_two (show m.civil.minute < 100 by omega),
    padded_two (show m.civil.second < 100 by omega)]

section Pieces

variable (ps : Layout) (rest : List Char) (r : Reading)

theorem readPieces_second_of_none {s : Nat} (h : s < 60) (hrest : fractionAt rest = none) :
    readPieces (.second :: ps) (decimal 2 s ++ rest) r = readPieces ps rest { r with second := s } := by
  simp only [readPieces, twoDigits_decimal (show s < 100 by omega) rest]
  simp [show ¬60 ≤ s by omega, hrest]

theorem readPieces_date {c : Civil} (hc : c.Valid) (hyear : 0 ≤ c.year ∧ c.year ≤ 9999) :
    readPieces (datePieces ++ ps) (dateText c ++ rest) r =
      readPieces ps rest { r with year := c.year, month := c.month, day := c.day } := by
  have hd : c.day < 100 := Nat.lt_of_le_of_lt (hc.day_le.trans (daysIn_le_31 _ _)) (by decide)
  simp only [datePieces, dateText, List.cons_append, List.nil_append, List.append_assoc]
  rw [readPieces_year _ _ _ (by omega), readPieces_literal, readPieces_month _ _ _ hc.month_pos hc.month_le,
    readPieces_literal, readPieces_day _ _ _ hd, Int.toNat_of_nonneg hyear.1]

theorem readPieces_clock {c : Civil} (hc : c.Valid) (hrest : fractionAt rest = none) :
    readPieces (.literal 'T' :: (clockPieces ++ ps)) ('T' :: (clockText c ++ rest)) r =
      readPieces ps rest { r with hour := c.hour, minute := c.minute, second := c.second } := by
  simp only [clockPieces, clockText, List.cons_append, List.nil_append, List.append_assoc]
  rw [readPieces_literal, readPieces_hour _ _ _ hc.hour_lt, readPieces_literal,
    readPieces_minute _ _ _ hc.minute_lt, readPieces_literal, readPieces_second_of_none _ _ _ hc.second_lt hrest]

end Pieces

theorem offsetAt_written {sign : Char} (hsign : sign = '+' ∨ sign = '-') {hours minutes : Nat}
    (hh : hours < 100) (hm : minutes < 60) :
    offsetAt true (sign :: (decimal 2 hours ++ ':' :: decimal 2 minutes)) =
      if hours ≤ 24 then
        some (if sign = '-' then -(((hours * 60 + minutes : Nat) : Int) * 60)
          else ((hours * 60 + minutes : Nat) : Int) * 60, [])
      else none := by
  have h1 := twoDigits_decimal hh (':' :: decimal 2 minutes)
  have h2 := twoDigits_decimal (show minutes < 100 by omega) []
  rw [List.append_nil] at h2
  obtain ⟨a, b, hab⟩ : ∃ a b, decimal 2 hours = [a, b] := ⟨_, _, decimal_two hours⟩
  obtain ⟨c, d, hcd⟩ : ∃ c d, decimal 2 minutes = [c, d] := ⟨_, _, decimal_two minutes⟩
  rw [hab, hcd] at h1
  simp only [List.cons_append, List.nil_append] at h1
  rw [hcd] at h2
  rw [hab, hcd]
  by_cases hle : hours ≤ 24 <;> rcases hsign with rfl | rfl <;>
    simp [offsetAt, h1, h2, hle, show ¬60 < minutes by omega]

theorem written_offset (o : Int) :
    (if o.tdiv 60 < 0 then -(((o.natAbs / 60 / 60 * 60 + o.natAbs / 60 % 60 : Nat) : Int) * 60)
      else ((o.natAbs / 60 / 60 * 60 + o.natAbs / 60 % 60 : Nat) : Int) * 60) = o.tdiv 60 * 60 := by
  rw [Int.tdiv_eq_ediv, show Int.sign 60 = 1 from rfl]
  split <;> split at * <;> omega

theorem readPieces_zone_written {o : Int} (ho : o.natAbs < 90000) (r : Reading) :
    readPieces [.zone true] (offsetText true o).toList r =
      some { r with offset := some (o.tdiv 60 * 60) } := by
  rw [offsetText_toList o (by omega)]
  have hsign : (if o.tdiv 60 < 0 then '-' else '+') = '+' ∨ (if o.tdiv 60 < 0 then '-' else '+') = '-' := by
    split <;> simp
  have hz : (if o.tdiv 60 < 0 then '-' else '+') ≠ 'Z' := by split <;> decide
  simp only [readPieces, List.head?_cons, Option.some.injEq, hz, if_false,
    offsetAt_written hsign (show o.natAbs / 60 / 60 < 100 by omega) (Nat.mod_lt _ (by decide)),
    show o.natAbs / 60 / 60 ≤ 24 by omega, if_true, Option.bind_eq_bind, Option.bind_some]
  rw [← written_offset o]
  split <;> rfl

theorem fractionAt_offsetText (o : Int) (ho : o.natAbs < 360000) : fractionAt (offsetText true o).toList = none := by
  rw [offsetText_toList o ho, decimal_two]
  split <;> simp [fractionAt]

theorem read_formatIso_zone (m : Moment) (hyear : 0 ≤ m.civil.year ∧ m.civil.year ≤ 9999)
    (ho : m.offset.natAbs < 90000) :
    Layout.rfc3339.read (formatIso m) = some (Moment.ofCivil m.civil 0 (m.offset.tdiv 60 * 60)) := by
  have hc := m.civil_isValid
  unfold Layout.read
  rw [formatIso_toList_zone m hyear]
  simp only [Layout.rfc3339, List.append_assoc, List.cons_append, List.nil_append]
  rw [readPieces_date _ _ _ hc hyear, readPieces_clock _ _ _ hc (fractionAt_offsetText _ (by omega)),
    readPieces_fraction_of_none _ _ _ (fractionAt_offsetText _ (by omega)), readPieces_zone_written ho]
  have hday : ¬m.civil.day = 0 ∧ m.civil.day ≤ daysIn m.civil.month m.civil.year :=
    ⟨Nat.pos_iff_ne_zero.mp hc.day_pos, hc.day_le⟩
  simp [hday]

theorem trimSpace_formatIso (m : Moment) (hyear : 0 ≤ m.civil.year ∧ m.civil.year ≤ 9999)
    (ho : m.offset.natAbs < 360000) : Text.trimSpace (formatIso m) = formatIso m := by
  show String.ofList (Script.trim (formatIso m).toList) = _
  rw [Script.trim_eq_self, String.ofList_toList] <;>
    rw [formatIso_toList_zone m hyear, offsetText_toList _ ho, dateText, decimal_four]
  · simp
  · simpa using isSpace_digitChar _ (Nat.mod_lt _ (by decide))
  · rw [decimal_two (m.offset.natAbs / 60 % 60)]
    simp only [List.cons_append, List.append_assoc, List.getLast?_append, List.getLast?_cons]
    simpa using isSpace_digitChar _ (Nat.mod_lt _ (by decide))

theorem parseIso_formatIso_zone (m : Moment) (hyear : 0 ≤ m.civil.year ∧ m.civil.year ≤ 9999)
    (ho : m.offset.natAbs < 90000) :
    parseIso (formatIso m) = .ok (Moment.ofCivil m.civil 0 (m.offset.tdiv 60 * 60)) := by
  unfold parseIso
  simp only [trimSpace_formatIso m hyear (by omega), isoLayouts, List.findSome?_cons,
    read_formatIso_zone m hyear ho]

theorem Layout.read_eq_none {layout : Layout} {s : String} (h : readPieces layout s.toList {} = none) :
    layout.read s = none := by
  simp [Layout.read, h]

theorem readPieces_zone_25 {sign : Char} (hsign : sign = '+' ∨ sign = '-') {minutes : Nat}
    (hm : minutes < 60) (colon : Bool) (r : Reading) :
    readPieces [.zone colon] (sign :: (decimal 2 25 ++ ':' :: decimal 2 minutes)) r = none := by
  have hz : sign ≠ 'Z' := by rcases hsign with rfl | rfl <;> decide
  cases colon with
  | true =>
    simp [readPieces, hz, offsetAt_written hsign (show 25 < 100 by decide) hm]
  | false =>
    rw [decimal_two minutes]
    rcases hsign with rfl | rfl <;> simp [readPieces, offsetAt, twoDigits, digitAt, decimal]

theorem offsetAt_colon (colon : Bool) (rest : List Char) : offsetAt colon (':' :: rest) = none := by
  simp [offsetAt]

theorem readPieces_zone_colon (colon : Bool) (rest : List Char) (r : Reading) :
    readPieces [.zone colon] (':' :: rest) r = none := by
  simp [readPieces, offsetAt_colon]

theorem readPieces_month_dash (ps : Layout) (rest : List Char) (r : Reading) :
    readPieces (.month :: ps) ('-' :: rest) r = none := by
  simp [readPieces, twoDigits, digitAt]

theorem parseIso_formatIso_of_25_hours (m : Moment) (hyear : 0 ≤ m.civil.year ∧ m.civil.year ≤ 9999)
    (ho : m.offset.natAbs / 60 / 60 = 25) :
    parseIso (formatIso m) = .error ⟨formatIso m⟩ := by
  have hc := m.civil_isValid
  have hsign : (if m.offset.tdiv 60 < 0 then '-' else '+') = '+' ∨
      (if m.offset.tdiv 60 < 0 then '-' else '+') = '-' := by
    split <;> simp
  have hM : m.offset.natAbs / 60 % 60 < 60 := Nat.mod_lt _ (by decide)
  have htext := formatIso_toList_zone m hyear
  rw [offsetText_toList _ (by omega), ho] at htext
  generalize (if m.offset.tdiv 60 < 0 then '-' else '+') = sign at hsign htext
  generalize m.offset.natAbs / 60 % 60 = minutes at hM htext
  have hfrac : fractionAt (sign :: (decimal 2 25 ++ ':' :: decimal 2 minutes)) = none := by
    rcases hsign with rfl | rfl <;> simp [fractionAt, decimal]
  have hnone : ∀ layout ∈ isoLayouts, layout.read (formatIso m) = none := by
    simp only [isoLayouts, List.mem_cons, List.not_mem_nil, or_false, forall_eq_or_imp, forall_eq]
    refine ⟨?_, ?_, ?_, ?_, ?_, ?_, ?_, ?_, ?_, ?_, ?_, ?_⟩ <;> apply Layout.read_eq_none <;> rw [htext] <;>
      (try simp only [Layout.rfc3339, basicDatePieces, List.append_assoc, List.cons_append, List.nil_append])
    -- the full layouts read the date and the time, then fail at the zone or at the text left over
    · rw [readPieces_date _ _ _ hc hyear, readPieces_clock _ _ _ hc hfrac, readPieces_fraction_of_none _ _ _ hfrac,
        readPieces_zone_25 hsign hM]
    · rw [readPieces_date _ _ _ hc hyear, readPieces_clock _ _ _ hc hfrac, readPieces_fraction_of_none _ _ _ hfrac]
      rfl
    · rw [readPieces_date _ _ _ hc hyear, readPieces_clock _ _ _ hc hfrac, readPieces_zone_25 hsign hM]
    -- the reduced layouts stop at the colon after the hours or the minutes
    · rw [readPieces_date _ _ _ hc hyear]
      simp only [clockText, List.cons_append, List.append_assoc]
      rw [readPieces_literal, readPieces_hour _ _ _ hc.hour_lt, readPieces_literal,
        readPieces_minute _ _ _ hc.minute_lt, readPieces_zone_colon]
    · rw [readPieces_date _ _ _ hc hyear]
      simp only [clockText, List.cons_append, List.append_assoc]
      rw [readPieces_literal, readPieces_hour _ _ _ hc.hour_lt, readPieces_zone_colon]
    · rw [← List.append_nil clockPieces, readPieces_date _ _ _ hc hyear, readPieces_clock _ _ _ hc hfrac]
      rfl
    · rw [readPieces_date _ _ _ hc hyear]
      simp only [clockText, List.cons_append, List.append_assoc]
      rw [readPieces_literal, readPieces_hour _ _ _ hc.hour_lt, readPieces_literal,
        readPieces_minute _ _ _ hc.minute_lt]
      rfl
    · rw [readPieces_date _ _ _ hc hyear]
      simp only [clockText, List.cons_append, List.append_assoc]
      rw [readPieces_literal, readPieces_hour _ _ _ hc.hour_lt]
      rfl
    · rw [← List.append_nil datePieces, readPieces_date _ _ _ hc hyear]
      rfl
    -- the basic layouts find a dash where the month should be
    all_goals
      simp only [dateText, List.cons_append, List.append_assoc]
      rw [readPieces_year _ _ _ (by omega), readPieces_month_dash]
  unfold parseIso
  dsimp only
  rw [trimSpace_formatIso m hyear (by omega), List.findSome?_eq_none_iff.mpr hnone]

end DruidQuery.Time
