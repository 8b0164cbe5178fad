import Mathlib
import DruidQuery.Proofs.NearestDouble

namespace DruidQuery.Decimal

theorem zpow_eq_div (x : ℚ) (hx : x ≠ 0) (p : Int) : x ^ p = x ^ p.toNat / x ^ (-p).toNat := by
  rw [← zpow_natCast, ← zpow_natCast, ← zpow_sub₀ hx, Int.toNat_sub_toNat_neg]

theorem cast_scaled_left (a : Nat) (p q : Int) :
    ((a * Nat.pow 2 p.toNat * Nat.pow 10 (-q).toNat : Nat) : ℚ) =
      a * 2 ^ p * (2 ^ (-p).toNat * 10 ^ (-q).toNat) := by
  rw [zpow_eq_div 2 two_ne_zero]
  simp only [Nat.pow_eq]
  push_cast
  field_simp

theorem cast_scaled_right (b : Nat) (p q : Int) :
    ((b * Nat.pow 10 q.toNat * Nat.pow 2 (-p).toNat : Nat) : ℚ) =
      b * 10 ^ q * (2 ^ (-p).toNat * 10 ^ (-q).toNat) := by
  rw [zpow_eq_div 10 (by norm_num)]
  simp only [Nat.pow_eq]
  push_cast
  field_simp

section CompareScaled

variable (a b : Nat) (p q : Int)

theorem compareScaled_ne_gt : compareScaled a p b q ≠ .gt ↔ (a : ℚ) * 2 ^ p ≤ b * 10 ^ q := by
  rw [compareScaled, Nat.compare_ne_gt, ← Nat.cast_le (α := ℚ), cast_scaled_left, cast_scaled_right]
  exact mul_le_mul_iff_of_pos_right (by positivity)

theorem compareScaled_ne_lt : compareScaled a p b q ≠ .lt ↔ (b : ℚ) * 10 ^ q ≤ a * 2 ^ p := by
  rw [compareScaled, Nat.compare_ne_lt, ← Nat.cast_le (α := ℚ), cast_scaled_left, cast_scaled_right]
  exact mul_le_mul_iff_of_pos_right (by positivity)

theorem compareScaled_eq_lt : compareScaled a p b q = .lt ↔ (a : ℚ) * 2 ^ p < b * 10 ^ q := by
  rw [compareScaled, Nat.compare_eq_lt, ← Nat.cast_lt (α := ℚ), cast_scaled_left, cast_scaled_right]
  exact mul_lt_mul_iff_of_pos_right (by positivity)

theorem compareScaled_eq_gt : compareScaled a p b q = .gt ↔ (b : ℚ) * 10 ^ q < a * 2 ^ p := by
  rw [compareScaled, Nat.compare_eq_gt, ← Nat.cast_lt (α := ℚ), cast_scaled_left, cast_scaled_right]
  exact mul_lt_mul_iff_of_pos_right (by positivity)

end CompareScaled

theorem Interval.holds_iff (r : Interval) (c : Nat) (k : Int) :
    r.holds c k = true ↔ r.Contains (c * 10 ^ k) := by
  unfold Interval.holds Interval.Contains
  cases r.closed <;>
    simp only [Bool.false_eq_true, if_false, if_true, Bool.and_eq_true, beq_iff_eq, decide_eq_true_eq,
      compareScaled_eq_lt, compareScaled_eq_gt, compareScaled_ne_gt, compareScaled_ne_lt]

namespace Interval

theorem onGrid_spec (r : Interval) (k : Int) :
    0 < (r.onGrid k).2 ∧ ((r.onGrid k).1 : ℚ) / (r.onGrid k).2 = r.centre * 2 ^ r.scale / 10 ^ k := by
  refine ⟨by simp only [onGrid, Nat.pow_eq]; positivity, ?_⟩
  have hden : (((r.onGrid k).2 : Nat) : ℚ) = 10 ^ k * (2 ^ (-r.scale).toNat * 10 ^ (-k).toNat) := by
    simp only [onGrid, Nat.pow_eq]
    rw [zpow_eq_div 10 (by norm_num) k]
    push_cast
    field_simp
  rw [hden, show (((r.onGrid k).1 : Nat) : ℚ) = _ from cast_scaled_left r.centre r.scale k]
  field_simp

theorem holds_of_pick {r : Interval} {k : Int} {c : Nat} (h : r.pick k = some c) : r.holds c k = true := by
  unfold pick at h
  dsimp only at h
  split at h
  · rename_i hb ha
    split_ifs at h <;> (cases h; assumption)
  · cases h
    assumption
  · cases h
    assumption
  · cases h

theorem pick_isSome {r : Interval} {k : Int}
    (h : r.holds ((r.onGrid k).1 / (r.onGrid k).2) k = true ∨
      r.holds ((r.onGrid k).1 / (r.onGrid k).2 + 1) k = true) : (r.pick k).isSome := by
  unfold pick
  dsimp only
  split
  · split_ifs <;> rfl
  · rfl
  · rfl
  · simp_all

theorem contains_of_lt {r : Interval} {v : ℚ} (hlow : (r.low : ℚ) * 2 ^ r.scale < v)
    (hhigh : v < r.high * 2 ^ r.scale) : r.Contains v := by
  unfold Contains
  split_ifs
  · exact ⟨hlow.le, hhigh.le⟩
  · exact ⟨hlow, hhigh⟩

theorem holds_floor_or_ceil (r : Interval) (k : Int)
    (hlow : (10 : ℚ) ^ k < 2 * (((r.centre : ℚ) - r.low) * 2 ^ r.scale))
    (hhigh : (10 : ℚ) ^ k < 2 * (((r.high : ℚ) - r.centre) * 2 ^ r.scale)) :
    r.holds ((r.onGrid k).1 / (r.onGrid k).2) k = true ∨
      r.holds ((r.onGrid k).1 / (r.onGrid k).2 + 1) k = true := by
  obtain ⟨hden, hgrid⟩ := r.onGrid_spec k
  set q := (r.onGrid k).1 / (r.onGrid k).2
  have hk : (0 : ℚ) < 10 ^ k := by positivity
  have hfloor := cast_div_add_mod (r.onGrid k).1 (r.onGrid k).2 hden
  have hfrac : (0 : ℚ) ≤ (((r.onGrid k).1 % (r.onGrid k).2 : Nat) : ℚ) / (r.onGrid k).2 ∧
      (((r.onGrid k).1 % (r.onGrid k).2 : Nat) : ℚ) / (r.onGrid k).2 < 1 := by
    have hd : (0 : ℚ) < (r.onGrid k).2 := by exact_mod_cast hden
    exact ⟨by positivity, (div_lt_one hd).mpr (by exact_mod_cast Nat.mod_lt _ hden)⟩
  -- the centre on the grid is `q + f` with `0 ≤ f < 1`
  set f := (((r.onGrid k).1 % (r.onGrid k).2 : Nat) : ℚ) / (r.onGrid k).2
  have hcentre : (r.centre : ℚ) * 2 ^ r.scale = (q + f) * 10 ^ k := by
    rw [← hfloor, hgrid]
    field_simp
  rw [holds_iff, holds_iff]
  by_cases hhalf : f ≤ 1 / 2
  · left
    apply contains_of_lt
    · nlinarith
    · nlinarith
  · right
    apply contains_of_lt
    · push_cast
      nlinarith
    · push_cast
      nlinarith

theorem holds_search (r : Interval) (t : Int) :
    ∀ (fuel n : Nat), 0 < fuel → (r.pick (t - n - fuel + 2)).isSome →
      r.holds (r.search t n fuel).digits (r.search t n fuel).exponent = true
  | 0, _, hfuel, _ => absurd hfuel (Nat.lt_irrefl 0)
  | fuel + 1, n, _, hlast => by
    unfold search
    split
    · rename_i c hc
      exact holds_of_pick hc
    · rename_i hnone
      rcases Nat.eq_zero_or_pos fuel with rfl | hpos
      · rw [show t - n - (0 + 1 : Nat) + 2 = t - n + 1 by push_cast; ring, hnone] at hlast
        cases hlast
      · exact holds_search r t fuel (n + 1) hpos (by
          rw [show t - (n + 1 : Nat) - fuel + 2 = t - n - (fuel + 1 : Nat) + 2 by push_cast; ring]
          exact hlast)

end Interval

theorem lt_pow_digitCount (n : Nat) : n < 10 ^ digitCount n :=
  (Nat.length_toDigits_le_iff (by decide) Nat.length_toDigits_pos).mp (Nat.le_refl _)

theorem pow_digitCount_le {n : Nat} (hn : 0 < n) : 10 ^ (digitCount n - 1) ≤ n := by
  rcases Nat.lt_or_ge (digitCount n) 2 with hlt | hge
  · have hpos : 0 < digitCount n := Nat.length_toDigits_pos
    rw [show digitCount n - 1 = 0 by omega]
    exact hn
  · have hlen : digitCount n = (Nat.toDigits 10 n).length := rfl
    refine Nat.le_of_not_lt fun h => ?_
    have := (Nat.length_toDigits_le_iff (by decide) (by omega)).mpr h
    omega

theorem digitCount_bounds {n : Nat} (hn : 0 < n) :
    (10 : ℚ) ^ ((digitCount n : Int) - 1) ≤ n ∧ (n : ℚ) < 10 ^ (digitCount n : Int) := by
  have hpos : 0 < digitCount n := Nat.length_toDigits_pos
  constructor
  · rw [show (digitCount n : Int) - 1 = ((digitCount n - 1 : Nat) : Int) by omega, zpow_natCast]
    exact_mod_cast pow_digitCount_le hn
  · rw [zpow_natCast]
    exact_mod_cast lt_pow_digitCount n

theorem pow_decimalExponent_le {a : Nat} (ha : 0 < a) (p : Int) :
    (10 : ℚ) ^ decimalExponent a p ≤ a * 2 ^ p := by
  unfold decimalExponent
  dsimp only
  split_ifs with hge
  · simpa using (compareScaled_ne_lt a 1 p _).mp hge
  · have hnum : 0 < a * Nat.pow 2 p.toNat := Nat.mul_pos ha (by simp only [Nat.pow_eq]; positivity)
    have hden : 0 < Nat.pow 2 (-p).toNat := by simp only [Nat.pow_eq]; positivity
    obtain ⟨hn, -⟩ := digitCount_bounds hnum
    obtain ⟨-, hd⟩ := digitCount_bounds hden
    have hval : (a : ℚ) * 2 ^ p = ((a * Nat.pow 2 p.toNat : Nat) : ℚ) / (Nat.pow 2 (-p).toNat : Nat) := by
      rw [zpow_eq_div 2 two_ne_zero]
      simp only [Nat.pow_eq]
      push_cast
      ring
    rw [hval, le_div_iff₀ (by exact_mod_cast hden)]
    calc (10 : ℚ) ^ ((digitCount (a * Nat.pow 2 p.toNat) : Int) - digitCount (Nat.pow 2 (-p).toNat) - 1) *
          (Nat.pow 2 (-p).toNat : Nat)
        ≤ 10 ^ ((digitCount (a * Nat.pow 2 p.toNat) : Int) - digitCount (Nat.pow 2 (-p).toNat) - 1) *
          10 ^ (digitCount (Nat.pow 2 (-p).toNat) : Int) := by gcongr
      _ = 10 ^ ((digitCount (a * Nat.pow 2 p.toNat) : Int) - 1) := by
        rw [← zpow_add₀ (by norm_num)]
        ring_nf
      _ ≤ (a * Nat.pow 2 p.toNat : Nat) := hn

theorem Digits.trim_value (d : Digits) :
    (d.trim.digits : ℚ) * 10 ^ d.trim.exponent = d.digits * 10 ^ d.exponent ∧
      (0 < d.digits → 0 < d.trim.digits) := by
  fun_induction Digits.trim d with
  | case1 d h ih =>
    obtain ⟨hval, hpos⟩ := ih
    refine ⟨?_, fun _ => hpos (show 0 < d.digits / 10 by omega)⟩
    rw [hval]
    obtain ⟨m, hm⟩ : 10 ∣ d.digits := Nat.dvd_of_mod_eq_zero h.2
    rw [hm, Nat.mul_div_cancel_left _ (by decide), zpow_add_one₀ (by norm_num)]
    push_cast
    ring
  | case2 d h => exact ⟨rfl, id⟩

theorem Interval.pos_of_holds {r : Interval} (hlow : 0 < r.low) {c : Nat} {k : Int}
    (h : r.holds c k = true) : 0 < c := by
  rw [holds_iff] at h
  have hL : (0 : ℚ) < r.low * 2 ^ r.scale := by
    have : (0 : ℚ) < r.low := by exact_mod_cast hlow
    positivity
  rcases Nat.eq_zero_or_pos c with rfl | hc
  · unfold Contains at h
    split_ifs at h <;> simp at h <;> linarith
  · exact hc

theorem shortest_contains {x : Float} (hx : x.isFinite = true) (hm : 0 < (Binary.ofFloat x).mantissa) :
    0 < (shortest x).digits ∧
      (Binary.ofFloat x).interval.Contains ((shortest x).digits * 10 ^ (shortest x).exponent) := by
  have hb := Binary.ofFloat_finite hx
  set b := Binary.ofFloat x
  set t := decimalExponent b.mantissa b.exponent
  have hE : (0 : ℚ) < 2 ^ b.exponent := by positivity
  -- the grid of 17 digits below the leading exponent `t`, of step `G`
  have hG : (10 : ℚ) ^ (t - 1 - (17 : Nat) + 2) * 10 ^ 16 ≤ b.mantissa * 2 ^ b.exponent := by
    rw [← zpow_natCast, ← zpow_add₀ (by norm_num), show t - 1 - ((17 : Nat) : Int) + 2 + ((16 : Nat) : Int) = t by
      push_cast; ring]
    exact pow_decimalExponent_le hm b.exponent
  have hMX : (b.mantissa : ℚ) * 2 ^ b.exponent < 2 ^ 53 * 2 ^ b.exponent :=
    mul_lt_mul_of_pos_right (by exact_mod_cast hb.mantissa_lt) hE
  have hscale : (2 : ℚ) ^ (b.exponent - 2) = 2 ^ b.exponent / 4 := by
    rw [zpow_sub₀ two_ne_zero]
    norm_num
  have hspan : ((b.interval.centre : ℚ) - b.interval.low) = if b.narrowBelow then 1 else 2 := by
    simp only [Binary.interval]
    split_ifs <;> (rw [Nat.cast_sub (by omega)]; push_cast; ring)
  have hspan' : ((b.interval.high : ℚ) - b.interval.centre) = 2 := by
    simp only [Binary.interval]
    push_cast
    ring
  have hlow : (10 : ℚ) ^ (t - 1 - (17 : Nat) + 2) <
      2 * (((b.interval.centre : ℚ) - b.interval.low) * 2 ^ b.interval.scale) := by
    rw [show b.interval.scale = b.exponent - 2 from rfl, hscale, hspan]
    generalize (10 : ℚ) ^ (t - 1 - (17 : Nat) + 2) = G at hG ⊢
    generalize (2 : ℚ) ^ b.exponent = X at hG hE hMX ⊢
    by_cases hnarrow : b.narrowBelow = true
    · -- the narrow side is half as wide, and the significand is `2^52`
      have hM : (b.mantissa : ℚ) = 2 ^ 52 := by exact_mod_cast (hb.narrowBelow_iff.mp hnarrow).1
      rw [if_pos hnarrow]
      rw [hM] at hG
      linarith
    · rw [if_neg hnarrow]
      linarith
  have hhigh : (10 : ℚ) ^ (t - 1 - (17 : Nat) + 2) <
      2 * (((b.interval.high : ℚ) - b.interval.centre) * 2 ^ b.interval.scale) := by
    rw [show b.interval.scale = b.exponent - 2 from rfl, hscale, hspan']
    generalize (10 : ℚ) ^ (t - 1 - (17 : Nat) + 2) = G at hG ⊢
    generalize (2 : ℚ) ^ b.exponent = X at hG hE hMX ⊢
    linarith
  have hpick := Interval.pick_isSome (Interval.holds_floor_or_ceil _ _ hlow hhigh)
  have hholds := Interval.holds_search b.interval t 17 1 (by decide) hpick
  have hpos := Interval.pos_of_holds (show 0 < b.interval.low by
    simp only [Binary.interval]
    split_ifs <;> omega) hholds
  obtain ⟨hval, htrim⟩ := (b.interval.search t 1 17).trim_value
  unfold shortest
  rw [if_neg hm.ne']
  refine ⟨htrim hpos, ?_⟩
  rw [hval, ← Interval.holds_iff]
  exact hholds

theorem ofBits_packBits_ofFloat {x : Float} (hx : x.isFinite = true) :
    Float.ofBits (packBits (Binary.ofFloat x).mantissa (Binary.ofFloat x).exponent) = x.abs := by
  rw [Binary.packBits_ofFloat hx, ofBits_toBits]

theorem ofDecimal_eq_of_contains {x : Float} (hx : x.isFinite = true)
    (hm : 0 < (Binary.ofFloat x).mantissa) {c : Nat} {k : Int} (hc : 0 < c)
    (h : (Binary.ofFloat x).interval.Contains (c * 10 ^ k)) : ofDecimal c k = x.abs := by
  have hb := Binary.ofFloat_finite hx
  obtain ⟨hlo, hhi, -⟩ := (Binary.ofFloat x).scaled_of_contains hb hm h
  set b := Binary.ofFloat x
  have hE : (0 : ℚ) < 2 ^ b.exponent := by positivity
  have hM : (1 : ℚ) ≤ b.mantissa := by exact_mod_cast hm
  have hMlt : (b.mantissa : ℚ) + 1 ≤ 2 ^ 53 := by exact_mod_cast hb.mantissa_lt
  obtain ⟨hc1, hc2⟩ := digitCount_bounds hc
  have hk : (0 : ℚ) < 10 ^ k := by positivity
  -- the value lies between half the least subnormal and `2^1024`
  have hvlo : (1 / 2 : ℚ) * 2 ^ (-1074 : Int) ≤ c * 10 ^ k := by
    have hhalf : (1 / 2 : ℚ) ≤ c * 10 ^ k / 2 ^ b.exponent := by split_ifs at hlo <;> linarith
    rw [le_div_iff₀ hE] at hhalf
    calc (1 / 2 : ℚ) * 2 ^ (-1074 : Int) ≤ 1 / 2 * 2 ^ b.exponent :=
          mul_le_mul_of_nonneg_left (two_zpow_le hb.least_le) (by norm_num)
      _ ≤ c * 10 ^ k := hhalf
  have hvhi : (c : ℚ) * 10 ^ k < 2 ^ 53 * 2 ^ (971 : Int) := by
    rw [div_le_iff₀ hE] at hhi
    calc (c : ℚ) * 10 ^ k ≤ (b.mantissa + 1 / 2) * 2 ^ b.exponent := hhi
      _ ≤ (b.mantissa + 1 / 2) * 2 ^ (971 : Int) :=
          mul_le_mul_of_nonneg_left (two_zpow_le hb.exponent_le) (by linarith)
      _ < 2 ^ 53 * 2 ^ (971 : Int) := by gcongr; linarith
  have hupper : ¬((digitCount c : Int) + k ≥ 310) := by
    intro hge
    have hbig : (10 : ℚ) ^ (309 : Int) ≤ c * 10 ^ k :=
      calc (10 : ℚ) ^ (309 : Int) ≤ 10 ^ ((digitCount c : Int) - 1 + k) :=
            zpow_le_zpow_right₀ (by norm_num) (by omega)
        _ = 10 ^ ((digitCount c : Int) - 1) * 10 ^ k := zpow_add₀ (by norm_num) _ _
        _ ≤ c * 10 ^ k := by gcongr
    have hnum : (2 : ℚ) ^ 53 * 2 ^ (971 : Int) < 10 ^ (309 : Int) := by
      rw [zpow_ofNat, zpow_ofNat, ← pow_add]
      exact_mod_cast (show (2 : ℕ) ^ (53 + 971) < 10 ^ 309 by decide +kernel)
    exact absurd (hbig.trans_lt (hvhi.trans hnum)) (lt_irrefl _)
  have hlower : ¬((digitCount c : Int) + k ≤ -324) := by
    intro hle
    have hsmall : (c : ℚ) * 10 ^ k < 10 ^ (-324 : Int) :=
      calc (c : ℚ) * 10 ^ k < 10 ^ (digitCount c : Int) * 10 ^ k := by gcongr
        _ = 10 ^ ((digitCount c : Int) + k) := (zpow_add₀ (by norm_num) _ _).symm
        _ ≤ 10 ^ (-324 : Int) := zpow_le_zpow_right₀ (by norm_num) hle
    have hnum : (10 : ℚ) ^ (-324 : Int) < 1 / 2 * 2 ^ (-1074 : Int) := by
      rw [zpow_neg, zpow_neg, zpow_ofNat, zpow_ofNat, ← one_div, ← one_div, one_div_mul_one_div,
        one_div_lt_one_div (by positivity) (by positivity)]
      exact_mod_cast (show 2 * 2 ^ 1074 < (10 : ℕ) ^ 324 by decide +kernel)
    exact absurd (hsmall.trans (hnum.trans_le hvlo)) (lt_irrefl _)
  unfold ofDecimal
  rw [show (((Nat.toDigits 10 c).length : Nat) : Int) = digitCount c from rfl]
  rw [if_neg hc.ne', if_neg hupper, if_neg hlower, ← ofBits_packBits_ofFloat hx]
  split_ifs with hk0
  · apply nearest_eq_of_contains hb hm (Nat.mul_pos hc (by simp only [Nat.pow_eq]; positivity)) one_pos
    obtain ⟨n, rfl⟩ := Int.eq_ofNat_of_zero_le hk0
    simpa [Nat.pow_eq] using h
  · apply nearest_eq_of_contains hb hm hc (by simp only [Nat.pow_eq]; positivity)
    obtain ⟨n, hn⟩ : ∃ n : Nat, k = -(n : Int) := ⟨(-k).toNat, by omega⟩
    subst hn
    simpa [Nat.pow_eq, zpow_neg, div_eq_mul_inv] using h

/-- The shortest digits of a finite double other than zero read back as its absolute value. -/
theorem ofDecimal_shortest {x : Float} (hx : x.isFinite = true) (hm : 0 < (Binary.ofFloat x).mantissa) :
    ofDecimal (shortest x).digits (shortest x).exponent = x.abs :=
  ofDecimal_eq_of_contains hx hm (shortest_contains hx hm).1 (shortest_contains hx hm).2

end DruidQuery.Decimal
