import Mathlib
import DruidQuery.Proofs.FloatBits

namespace DruidQuery.Decimal

def roundAt (num den : Nat) (e : Int) : Float :=
  let (q, r, d) := scaledQuotient num den e
  let m := roundHalfEven q r d
  let (m, e) := if m ≥ Nat.pow 2 53 then (m / 2, e + 1) else (m, e)
  if e > 971 then infinity else Float.ofBits (packBits m e)

def nearestExponent (num den : Nat) : Int :=
  let e0 : Int := max ((num.log2 : Int) - (den.log2 : Int) - 53) (-1074)
  if (scaledQuotient num den e0).1 ≥ Nat.pow 2 53 then e0 + 1 else e0

theorem nearest_eq_roundAt {num den : Nat} (hnum : 0 < num) (hden : 0 < den) :
    nearest num den = roundAt num den (nearestExponent num den) := by
  have hzero : (num = 0 || den = 0) = false := by simp; omega
  rw [nearest, if_neg (by rw [hzero]; decide)]
  rfl

theorem cast_div_add_mod (n d : Nat) (hd : 0 < d) : (n : ℚ) / d = (n / d : Nat) + ((n % d : Nat) : ℚ) / d := by
  have h := Nat.div_add_mod n d
  have hd' : (d : ℚ) ≠ 0 := by positivity
  rw [div_eq_iff hd', add_mul, div_mul_cancel₀ _ hd']
  exact_mod_cast (by rw [Nat.mul_comm]; exact h.symm : n = n / d * d + n % d)

theorem scaledQuotient_spec (num den : Nat) (e : Int) (hden : 0 < den) :
    0 < (scaledQuotient num den e).2.2 ∧ (scaledQuotient num den e).2.1 < (scaledQuotient num den e).2.2 ∧
      (num : ℚ) / den = (((scaledQuotient num den e).1 : ℚ) +
        ((scaledQuotient num den e).2.1 : ℚ) / (scaledQuotient num den e).2.2) * 2 ^ e := by
  unfold scaledQuotient
  split_ifs with he
  · obtain ⟨n, rfl⟩ := Int.eq_ofNat_of_zero_le he
    have hd : 0 < den * Nat.pow 2 n := Nat.mul_pos hden (by simp only [Nat.pow_eq]; positivity)
    refine ⟨hd, Nat.mod_lt _ hd, ?_⟩
    simp only [Int.toNat_natCast]
    rw [← cast_div_add_mod _ _ hd, zpow_natCast, Nat.pow_eq]
    push_cast
    field_simp
  · obtain ⟨n, hn⟩ : ∃ n : Nat, e = -(n : Int) := ⟨(-e).toNat, by omega⟩
    subst hn
    refine ⟨hden, Nat.mod_lt _ hden, ?_⟩
    simp only [neg_neg, Int.toNat_natCast]
    rw [← cast_div_add_mod _ _ hden, zpow_neg, zpow_natCast, Nat.pow_eq]
    push_cast
    field_simp

theorem two_zpow_log2_le {n : Nat} (h : 0 < n) : (2 : ℚ) ^ (n.log2 : Int) ≤ n := by
  rw [zpow_natCast]
  exact_mod_cast Nat.log2_self_le (by omega)

theorem lt_two_zpow_log2 (n : Nat) : (n : ℚ) < 2 ^ ((n.log2 : Int) + 1) := by
  rw [show ((n.log2 : Int) + 1) = ((n.log2 + 1 : Nat) : Int) by push_cast; rfl, zpow_natCast]
  exact_mod_cast Nat.lt_log2_self

theorem quotient_bounds {num den : Nat} (hnum : 0 < num) (hden : 0 < den) :
    (2 : ℚ) ^ ((num.log2 : Int) - den.log2 - 1) < num / den ∧
      (num : ℚ) / den < 2 ^ ((num.log2 : Int) - den.log2 + 1) := by
  have hd : (0 : ℚ) < den := by exact_mod_cast hden
  have hn1 := two_zpow_log2_le hnum
  have hn2 := lt_two_zpow_log2 num
  have hd1 := two_zpow_log2_le hden
  have hd2 := lt_two_zpow_log2 den
  constructor
  · rw [lt_div_iff₀ hd]
    calc (2 : ℚ) ^ ((num.log2 : Int) - den.log2 - 1) * den
        < 2 ^ ((num.log2 : Int) - den.log2 - 1) * 2 ^ ((den.log2 : Int) + 1) := by gcongr
      _ = 2 ^ (num.log2 : Int) := by rw [← zpow_add₀ two_ne_zero]; ring_nf
      _ ≤ num := hn1
  · rw [div_lt_iff₀ hd]
    calc (num : ℚ) < 2 ^ ((num.log2 : Int) + 1) := hn2
      _ = 2 ^ ((num.log2 : Int) - den.log2 + 1) * 2 ^ (den.log2 : Int) := by
        rw [← zpow_add₀ two_ne_zero]; ring_nf
      _ ≤ 2 ^ ((num.log2 : Int) - den.log2 + 1) * den := by gcongr

structure Normalizes (v : ℚ) (e : Int) : Prop where
  least_le : -1074 ≤ e
  lt_top : v < 2 ^ 53 * 2 ^ e
  bottom_le : 2 ^ 52 * 2 ^ e ≤ v ∨ e = -1074

theorem Normalizes.le {v : ℚ} {e e' : Int} (h : Normalizes v e) (h' : Normalizes v e') : e ≤ e' := by
  rcases h.bottom_le with hlow | rfl
  · by_contra hlt
    have hpow : (2 : ℚ) ^ 53 * 2 ^ e' ≤ 2 ^ 52 * 2 ^ e := by
      rw [← zpow_natCast, ← zpow_natCast, ← zpow_add₀ two_ne_zero, ← zpow_add₀ two_ne_zero]
      exact zpow_le_zpow_right₀ (by norm_num) (by push_cast; omega)
    linarith [h'.lt_top]
  · exact h'.least_le

theorem Normalizes.unique {v : ℚ} {e e' : Int} (h : Normalizes v e) (h' : Normalizes v e') : e = e' :=
  le_antisymm (h.le h') (h'.le h)

theorem two_pow_mul_zpow (a : Nat) (e : Int) : (2 : ℚ) ^ a * 2 ^ e = 2 ^ ((a : Int) + e) := by
  rw [zpow_add₀ two_ne_zero, zpow_natCast]

theorem two_zpow_le {m n : Int} (h : m ≤ n) : (2 : ℚ) ^ m ≤ 2 ^ n :=
  zpow_le_zpow_right₀ (by norm_num) h

theorem normalizes_nearestExponent {num den : Nat} (hnum : 0 < num) (hden : 0 < den) :
    Normalizes ((num : ℚ) / den) (nearestExponent num den) := by
  unfold nearestExponent
  simp only [Nat.pow_eq]
  obtain ⟨hlo, hhi⟩ := quotient_bounds hnum hden
  set k : Int := (num.log2 : Int) - den.log2
  set e0 : Int := max (k - 53) (-1074) with he0
  obtain ⟨hd, hr, hv⟩ := scaledQuotient_spec num den e0 hden
  set q0 := (scaledQuotient num den e0).1
  set f : ℚ := ((scaledQuotient num den e0).2.1 : ℚ) / (scaledQuotient num den e0).2.2
  have hfrac : 0 ≤ f ∧ f < 1 := by
    have hd' : (0 : ℚ) < (scaledQuotient num den e0).2.2 := by exact_mod_cast hd
    exact ⟨by positivity, (div_lt_one hd').mpr (by exact_mod_cast hr)⟩
  have hpow : (0 : ℚ) < 2 ^ e0 := by positivity
  split_ifs with hq
  · -- a quotient of 54 bits: the estimate was one bit short
    have hq' : (2 : ℚ) ^ 53 ≤ q0 := by exact_mod_cast hq
    refine ⟨by omega, ?_, .inl ?_⟩
    · calc (num : ℚ) / den < 2 ^ (k + 1) := hhi
        _ ≤ 2 ^ ((53 : Nat) + (e0 + 1)) := two_zpow_le (by omega)
        _ = 2 ^ 53 * 2 ^ (e0 + 1) := (two_pow_mul_zpow _ _).symm
    · calc (2 : ℚ) ^ 52 * 2 ^ (e0 + 1) = 2 ^ 53 * 2 ^ e0 := by
            rw [zpow_add₀ two_ne_zero]; ring
        _ ≤ (q0 : ℚ) * 2 ^ e0 := by gcongr
        _ ≤ (num : ℚ) / den := by rw [hv]; gcongr; linarith [hfrac.1]
  · have hq' : (q0 : ℚ) + 1 ≤ 2 ^ 53 := by exact_mod_cast (show q0 + 1 ≤ 2 ^ 53 by omega)
    refine ⟨le_max_right _ _, ?_, ?_⟩
    · rw [hv]
      calc ((q0 : ℚ) + f) * 2 ^ e0 < (q0 + 1) * 2 ^ e0 := by gcongr; exact hfrac.2
        _ ≤ 2 ^ 53 * 2 ^ e0 := by gcongr
    · by_cases hk : -1074 ≤ k - 53
      · left
        rw [show e0 = k - 53 from max_eq_left hk]
        calc (2 : ℚ) ^ 52 * 2 ^ (k - 53) = 2 ^ (k - 1) := by
              rw [two_pow_mul_zpow]; congr 1; push_cast; ring
          _ ≤ (num : ℚ) / den := hlo.le
      · exact .inr (max_eq_right (by omega))

theorem roundHalfEven_eq {q r d M : Nat} (hd : 0 < d) (hr : r < d)
    (hle : |(q : ℚ) + r / d - M| ≤ 1 / 2) (heven : |(q : ℚ) + r / d - M| = 1 / 2 → M % 2 = 0) :
    roundHalfEven q r d = M := by
  have hd' : (0 : ℚ) < d := by exact_mod_cast hd
  have hf0 : (0 : ℚ) ≤ r / d := by positivity
  have hf1 : (r : ℚ) / d < 1 := (div_lt_one hd').mpr (by exact_mod_cast hr)
  -- a tie is exactly `2 * r = d`
  have htie : 2 * r = d → (r : ℚ) / d = 1 / 2 := fun h => by
    rw [div_eq_iff hd'.ne', ← h]
    push_cast
    ring
  obtain ⟨h1, h2⟩ := abs_le.mp hle
  have hMq : M = q ∨ M = q + 1 := by
    have hlo : q < M + 1 := by exact_mod_cast (show (q : ℚ) < M + 1 by linarith)
    have hhi : M < q + 2 := by exact_mod_cast (show (M : ℚ) < q + 2 by linarith)
    omega
  unfold roundHalfEven
  simp only [gt_iff_lt, Bool.or_eq_true, decide_eq_true_eq, Bool.and_eq_true]
  rcases hMq with rfl | rfl
  · have h2r : 2 * r ≤ d := by
      have h : (r : ℚ) ≤ 1 / 2 * d := (div_le_iff₀ hd').mp (by linarith)
      exact_mod_cast (show (2 * r : ℚ) ≤ d by linarith)
    have heq : 2 * r = d → M % 2 = 0 := fun h => heven (by
      rw [add_sub_cancel_left, abs_of_nonneg hf0, htie h])
    rw [if_neg (by omega)]
  · push_cast at h1 heven
    have h2r : d ≤ 2 * r := by
      have h : (1 / 2 : ℚ) * d ≤ r := (le_div_iff₀ hd').mp (by linarith)
      exact_mod_cast (show (d : ℚ) ≤ 2 * r by linarith)
    have heq : 2 * r = d → (q + 1) % 2 = 0 := fun h => heven (by
      rw [htie h, show (q : ℚ) + 1 / 2 - (q + 1) = -(1 / 2) by ring, abs_neg, abs_of_pos (by norm_num)])
    rw [if_pos (by omega)]

theorem roundAt_eq {num den M : Nat} {e : Int} (hden : 0 < den)
    (hle : |(num : ℚ) / den / 2 ^ e - M| ≤ 1 / 2)
    (heven : |(num : ℚ) / den / 2 ^ e - M| = 1 / 2 → M % 2 = 0) :
    roundAt num den e =
      let (m, e) := if M ≥ Nat.pow 2 53 then (M / 2, e + 1) else (M, e)
      if e > 971 then infinity else Float.ofBits (packBits m e) := by
  obtain ⟨hd, hr, hv⟩ := scaledQuotient_spec num den e hden
  have hq : (num : ℚ) / den / 2 ^ e = ((scaledQuotient num den e).1 : ℚ) +
      ((scaledQuotient num den e).2.1 : ℚ) / (scaledQuotient num den e).2.2 := by
    rw [hv, mul_div_assoc, div_self (by positivity), mul_one]
  rw [hq] at hle heven
  have hround := roundHalfEven_eq hd hr hle heven
  unfold roundAt
  rcases hs : scaledQuotient num den e with ⟨q, r, d⟩
  rw [hs] at hround
  dsimp only
  rw [hround]

def Interval.Contains (r : Interval) (v : ℚ) : Prop :=
  if r.closed then (r.low : ℚ) * 2 ^ r.scale ≤ v ∧ v ≤ r.high * 2 ^ r.scale
  else (r.low : ℚ) * 2 ^ r.scale < v ∧ v < r.high * 2 ^ r.scale

theorem Binary.scaled_of_contains {b : Binary} (hb : b.Finite) (hm : 0 < b.mantissa) {v : ℚ}
    (h : b.interval.Contains v) :
    (b.mantissa : ℚ) - (if b.narrowBelow then 1 / 4 else 1 / 2) ≤ v / 2 ^ b.exponent ∧
      v / 2 ^ b.exponent ≤ b.mantissa + 1 / 2 ∧
      (b.mantissa % 2 = 1 → (b.mantissa : ℚ) - 1 / 2 < v / 2 ^ b.exponent ∧
        v / 2 ^ b.exponent < b.mantissa + 1 / 2) := by
  have hE : (0 : ℚ) < 2 ^ b.exponent := by positivity
  have hscale : (2 : ℚ) ^ (b.exponent - 2) = 2 ^ b.exponent / 4 := by
    rw [zpow_sub₀ two_ne_zero]
    norm_num
  have hlow : ((4 * b.mantissa - (if b.narrowBelow then 1 else 2) : Nat) : ℚ) * 2 ^ (b.exponent - 2) =
      ((b.mantissa : ℚ) - (if b.narrowBelow then 1 / 4 else 1 / 2)) * 2 ^ b.exponent := by
    rw [hscale]
    split_ifs <;> (rw [Nat.cast_sub (by omega)]; push_cast; ring)
  have hhigh : ((4 * b.mantissa + 2 : Nat) : ℚ) * 2 ^ (b.exponent - 2) =
      ((b.mantissa : ℚ) + 1 / 2) * 2 ^ b.exponent := by
    rw [hscale]
    push_cast
    ring
  simp only [Interval.Contains, Binary.interval, hlow, hhigh, beq_iff_eq] at h
  rw [le_div_iff₀ hE, div_le_iff₀ hE, lt_div_iff₀ hE, div_lt_iff₀ hE]
  by_cases hclosed : b.mantissa % 2 = 0
  · rw [if_pos hclosed] at h
    exact ⟨h.1, h.2, fun hodd => by omega⟩
  · rw [if_neg hclosed] at h
    have hnarrow : b.narrowBelow = false := by
      rw [Bool.eq_false_iff]
      intro hn
      have := (hb.narrowBelow_iff.mp hn).1
      omega
    simp only [hnarrow, Bool.false_eq_true, if_false] at h ⊢
    exact ⟨h.1.le, h.2.le, fun _ => h⟩

/-- Reading back a rational in the rounding interval of a finite double gives the double: the
quotient rounds to the double's significand at its own exponent, or, in the narrow half below
a power of two, to `2^53` one bit lower, which carries back up. -/
theorem nearest_eq_of_contains {b : Binary} (hb : b.Finite) (hm : 0 < b.mantissa) {num den : Nat}
    (hnum : 0 < num) (hden : 0 < den) (hv : b.interval.Contains ((num : ℚ) / den)) :
    nearest num den = Float.ofBits (packBits b.mantissa b.exponent) := by
  obtain ⟨hlo, hhi, hodd⟩ := b.scaled_of_contains hb hm hv
  have hE : (0 : ℚ) < 2 ^ b.exponent := by positivity
  have hMlt : (b.mantissa : ℚ) + 1 ≤ 2 ^ 53 := by exact_mod_cast hb.mantissa_lt
  rw [nearest_eq_roundAt hnum hden]
  by_cases hbelow : b.narrowBelow = true ∧ (num : ℚ) / den / 2 ^ b.exponent < b.mantissa
  · -- below a power of two, the quotient has 53 bits one exponent lower
    obtain ⟨hnarrow, hlt⟩ := hbelow
    obtain ⟨hM, hEgt⟩ := hb.narrowBelow_iff.mp hnarrow
    simp only [hnarrow, if_true] at hlo
    have hM' : (b.mantissa : ℚ) = 2 ^ 52 := by exact_mod_cast hM
    have ht : (num : ℚ) / den / 2 ^ (b.exponent - 1) = 2 * ((num : ℚ) / den / 2 ^ b.exponent) := by
      rw [zpow_sub₀ two_ne_zero, zpow_one]
      field_simp
    have hnorm : Normalizes ((num : ℚ) / den) (b.exponent - 1) := by
      refine ⟨by omega, ?_, .inl ?_⟩
      · rw [← div_lt_iff₀ (by positivity), ht]
        linarith
      · rw [← le_div_iff₀ (by positivity), ht]
        linarith
    rw [(normalizes_nearestExponent hnum hden).unique hnorm, roundAt_eq (M := 2 ^ 53) hden
      (by rw [ht, abs_le]; push_cast; constructor <;> linarith) (fun _ => by decide)]
    simp only [Nat.pow_eq, ge_iff_le, le_refl, if_true, sub_add_cancel, hM]
    rw [if_neg (by have := hb.exponent_le; omega)]
    rfl
  · -- otherwise at its own exponent, within a half of the significand
    have hhalf : |(num : ℚ) / den / 2 ^ b.exponent - b.mantissa| ≤ 1 / 2 := by
      rw [abs_le]
      constructor
      · split_ifs at hlo <;> linarith
      · linarith
    have heven : |(num : ℚ) / den / 2 ^ b.exponent - b.mantissa| = 1 / 2 → b.mantissa % 2 = 0 := by
      intro htie
      by_contra hne
      obtain ⟨h1, h2⟩ := hodd (by omega)
      have := abs_lt.mpr (show -(1 / 2 : ℚ) < (num : ℚ) / den / 2 ^ b.exponent - b.mantissa ∧
        (num : ℚ) / den / 2 ^ b.exponent - b.mantissa < 1 / 2 from ⟨by linarith, by linarith⟩)
      linarith
    have hnorm : Normalizes ((num : ℚ) / den) b.exponent := by
      refine ⟨hb.least_le, ?_, ?_⟩
      · rw [← div_lt_iff₀ hE]
        linarith
      · by_cases hleast : b.exponent = -1074
        · exact .inr hleast
        left
        rw [← le_div_iff₀ hE]
        have hnormal : 2 ^ 52 ≤ b.mantissa := hb.normal_or_least.resolve_right hleast
        by_cases hM : b.mantissa = 2 ^ 52
        · -- a power of two above the least normal: `hbelow` puts the quotient above it
          have hnarrow : b.narrowBelow = true :=
            hb.narrowBelow_iff.mpr ⟨hM, by have := hb.least_le; omega⟩
          have habove : ¬((num : ℚ) / den / 2 ^ b.exponent < b.mantissa) := fun h => hbelow ⟨hnarrow, h⟩
          have hM' : (b.mantissa : ℚ) = 2 ^ 52 := by exact_mod_cast hM
          linarith
        · have hgt : (2 : ℚ) ^ 52 + 1 ≤ b.mantissa := by
            exact_mod_cast (show 2 ^ 52 + 1 ≤ b.mantissa by omega)
          split_ifs at hlo <;> linarith
    rw [(normalizes_nearestExponent hnum hden).unique hnorm, roundAt_eq hden hhalf heven]
    simp only [Nat.pow_eq]
    rw [if_neg (show ¬(b.mantissa ≥ 2 ^ 53) by have := hb.mantissa_lt; omega)]
    rw [if_neg (show ¬(b.exponent > 971) by have := hb.exponent_le; omega)]

end DruidQuery.Decimal
