import Mathlib
import DruidQuery.Decimal.Nearest
import DruidQuery.Decimal.Shortest

namespace DruidQuery.Decimal

open Float.Model Float.Model.UnpackedFloat

theorem toBitVec_ofBitVec (v : BitVec 1) : (Sign.ofBitVec v).toBitVec = v := by
  revert v; decide

theorem toNat_neg_sign (s : Sign) : (-s).toBitVec.toNat = 1 - s.toBitVec.toNat := by
  cases s <;> rfl

theorem toNat_packComponents (s : Sign) (e : BitVec 11) (m : BitVec 52) :
    (packComponents .binary64 s e m).toNat = s.toBitVec.toNat * 2 ^ 63 + e.toNat * 2 ^ 52 + m.toNat := by
  unfold packComponents
  rw [BitVec.toNat_append, BitVec.toNat_append, ← Nat.shiftLeft_add_eq_or_of_lt m.isLt,
    ← Nat.shiftLeft_add_eq_or_of_lt e.isLt, Nat.shiftLeft_eq, Nat.shiftLeft_eq]
  simp only [Nat.add_mul, Nat.mul_assoc, ← Nat.pow_add]

theorem toNat_unpackMantissa (b : BitVec Format.binary64.numBits) :
    (unpackMantissa b).toNat = b.toNat % 2 ^ 52 := by
  simp [unpackMantissa]

theorem toNat_unpackExponent (b : BitVec Format.binary64.numBits) :
    (unpackExponent b).toNat = b.toNat / 2 ^ 52 % 2 ^ 11 := by
  simp [unpackExponent, Nat.shiftRight_eq_div_pow]

theorem toNat_unpackSign (b : BitVec Format.binary64.numBits) :
    (Sign.ofBitVec (unpackSign b)).toBitVec.toNat = b.toNat / 2 ^ 63 := by
  rw [toBitVec_ofBitVec]
  have hb : b.toNat < 2 ^ 64 := b.isLt
  simp [unpackSign, Nat.shiftRight_eq_div_pow]
  omega

theorem toNat_pack_infinity (s : Sign) :
    (UnpackedFloat.pack .binary64 (.infinity s)).toNat = s.toBitVec.toNat * 2 ^ 63 + 2047 * 2 ^ 52 := by
  simp only [UnpackedFloat.pack, packedInfinity, toNat_packComponents]
  simp

theorem toNat_pack_zero (s : Sign) : (UnpackedFloat.pack .binary64 (.zero s)).toNat = s.toBitVec.toNat * 2 ^ 63 := by
  simp only [UnpackedFloat.pack, packedZero, toNat_packComponents]
  simp

theorem toNat_pack_subnormal (s : Sign) (m : Nat) (h : 0 < m) (hm : m < 2 ^ 52) :
    (UnpackedFloat.pack .binary64 (.finite s m (-1074) h)).toNat = s.toBitVec.toNat * 2 ^ 63 + m := by
  have hlog : m.log2 < 52 := (Nat.log2_lt (by omega)).mpr hm
  simp only [UnpackedFloat.pack]
  rw [if_neg (by decide), if_neg (by simp only [Format.mantissaBits]; omega), toNat_packComponents]
  simp
  omega

theorem toNat_pack_normal (s : Sign) (m : Nat) (e : Int) (h : 0 < m) (hlo : 2 ^ 52 ≤ m)
    (hhi : m < 2 ^ 53) (helo : -1074 ≤ e) (hehi : e ≤ 971) :
    (UnpackedFloat.pack .binary64 (.finite s m e h)).toNat =
      s.toBitVec.toNat * 2 ^ 63 + (e + 1075).toNat * 2 ^ 52 + (m - 2 ^ 52) := by
  have hlog : m.log2 = 52 :=
    Nat.le_antisymm (Nat.lt_succ_iff.mp ((Nat.log2_lt (by omega)).mpr hhi)) ((Nat.le_log2 (by omega)).mpr hlo)
  have hbias : (e + ((Format.binary64.exponentBias : Nat) : Int) +
      ((Format.binary64.mantissaBitsWithoutImplicit : Nat) : Int)).toNat = (e + 1075).toNat := by
    have hsum : ((Format.binary64.exponentBias : Nat) : Int) +
        ((Format.binary64.mantissaBitsWithoutImplicit : Nat) : Int) = 1075 := rfl
    rw [Int.add_assoc, hsum]
  simp only [UnpackedFloat.pack, hbias]
  rw [if_neg (show ¬(2 ^ 11 ≤ (e + 1075).toNat + 1) by omega), if_pos (by simp only [Format.mantissaBits, hlog]),
    toNat_packComponents]
  simp
  omega

theorem unpackExponent_eq_allOnes_iff (b : BitVec Format.binary64.numBits) :
    unpackExponent b = -1#11 ↔ b.toNat / 2 ^ 52 % 2 ^ 11 = 2047 := by
  rw [← toNat_unpackExponent]
  exact ⟨fun h => by rw [h]; rfl, fun h => BitVec.eq_of_toNat_eq (by rw [h]; rfl)⟩

theorem unpackExponent_eq_zero_iff (b : BitVec Format.binary64.numBits) :
    unpackExponent b = 0#11 ↔ b.toNat / 2 ^ 52 % 2 ^ 11 = 0 := by
  rw [← toNat_unpackExponent]
  exact ⟨fun h => by rw [h]; rfl, fun h => BitVec.eq_of_toNat_eq (by rw [h]; rfl)⟩

theorem unpackMantissa_eq_zero_iff (b : BitVec Format.binary64.numBits) :
    unpackMantissa b = 0#52 ↔ b.toNat % 2 ^ 52 = 0 := by
  rw [← toNat_unpackMantissa]
  exact ⟨fun h => by rw [h]; rfl, fun h => BitVec.eq_of_toNat_eq (by rw [h]; rfl)⟩

theorem unpack_cases (b : BitVec Format.binary64.numBits) :
    (b.toNat / 2 ^ 52 % 2 ^ 11 = 2047 ∧ b.toNat % 2 ^ 52 = 0 ∧
        unpack .binary64 b = .infinity (Sign.ofBitVec (unpackSign b))) ∨
      (b.toNat / 2 ^ 52 % 2 ^ 11 = 2047 ∧ b.toNat % 2 ^ 52 ≠ 0 ∧ unpack .binary64 b = .notANumber) ∨
      (b.toNat / 2 ^ 52 % 2 ^ 11 = 0 ∧ b.toNat % 2 ^ 52 = 0 ∧
        unpack .binary64 b = .zero (Sign.ofBitVec (unpackSign b))) ∨
      (∃ h, b.toNat / 2 ^ 52 % 2 ^ 11 = 0 ∧
        unpack .binary64 b = .finite (Sign.ofBitVec (unpackSign b)) (b.toNat % 2 ^ 52) (-1074) h) ∨
      (∃ h, b.toNat / 2 ^ 52 % 2 ^ 11 ≠ 0 ∧ b.toNat / 2 ^ 52 % 2 ^ 11 ≠ 2047 ∧
        unpack .binary64 b = .finite (Sign.ofBitVec (unpackSign b)) (2 ^ 52 + b.toNat % 2 ^ 52)
          ((b.toNat / 2 ^ 52 % 2 ^ 11 : Nat) - 1075) h) := by
  have hm := toNat_unpackMantissa b
  have he := toNat_unpackExponent b
  have hbias : ((Format.binary64.exponentBias : Nat) : Int) +
      ((Format.binary64.mantissaBitsWithoutImplicit : Nat) : Int) = 1075 := rfl
  have hinf := unpackExponent_eq_allOnes_iff b
  have hzero := unpackExponent_eq_zero_iff b
  have hmzero := unpackMantissa_eq_zero_iff b
  rw [UnpackedFloat.unpack]
  dsimp only
  by_cases hE : b.toNat / 2 ^ 52 % 2 ^ 11 = 2047
  · rw [if_pos (hinf.mpr hE)]
    by_cases hM : b.toNat % 2 ^ 52 = 0
    · exact .inl ⟨hE, hM, by rw [if_pos (hmzero.mpr hM)]⟩
    · exact .inr (.inl ⟨hE, hM, by rw [if_neg (mt hmzero.mp hM)]⟩)
  rw [if_neg (mt hinf.mp hE)]
  by_cases hE0 : b.toNat / 2 ^ 52 % 2 ^ 11 = 0
  · rw [if_pos (hzero.mpr hE0)]
    by_cases hM : b.toNat % 2 ^ 52 = 0
    · exact .inr (.inr (.inl ⟨hE0, hM, by rw [dif_pos (hmzero.mpr hM)]⟩))
    · refine .inr (.inr (.inr (.inl ⟨Nat.pos_of_ne_zero hM, hE0, ?_⟩)))
      rw [dif_neg (mt hmzero.mp hM)]
      simp only [he, hE0, hm, hbias]
      rfl
  · rw [if_neg (mt hzero.mp hE0)]
    have hone : (1#1 ++ unpackMantissa b).toNat = 2 ^ 52 + b.toNat % 2 ^ 52 := by
      rw [BitVec.toNat_append, ← Nat.shiftLeft_add_eq_or_of_lt (unpackMantissa b).isLt, hm]
      simp [Nat.shiftLeft_eq]
    refine .inr (.inr (.inr (.inr ⟨by omega, hE0, hE, ?_⟩)))
    simp only [hone, he, hbias]

theorem unpack_signed (b : BitVec Format.binary64.numBits)
    (hnan : ¬(b.toNat / 2 ^ 52 % 2 ^ 11 = 2047 ∧ b.toNat % 2 ^ 52 ≠ 0)) :
    ∃ f : Sign → UnpackedFloat, unpack .binary64 b = f (Sign.ofBitVec (unpackSign b)) ∧
      (∀ s, (f s).neg = f (-s)) ∧ (∀ s, (f s).abs = f .positive) ∧ (∀ s, (f s).isNaN = false) ∧
      ∀ s, (UnpackedFloat.pack .binary64 (f s)).toNat = s.toBitVec.toNat * 2 ^ 63 + b.toNat % 2 ^ 63 := by
  have hb : b.toNat < 2 ^ 64 := b.isLt
  rcases unpack_cases b with ⟨hE, hM, hu⟩ | ⟨hE, hM, -⟩ | ⟨hE, hM, hu⟩ | ⟨h, hE, hu⟩ | ⟨h, hE0, hE, hu⟩
  · refine ⟨.infinity, hu, fun _ => rfl, fun _ => rfl, fun _ => rfl, fun s => ?_⟩
    rw [toNat_pack_infinity]
    omega
  · exact absurd ⟨hE, hM⟩ hnan
  · refine ⟨.zero, hu, fun _ => rfl, fun _ => rfl, fun _ => rfl, fun s => ?_⟩
    rw [toNat_pack_zero]
    omega
  · refine ⟨fun s => .finite s _ _ h, hu, fun _ => rfl, fun _ => rfl, fun _ => rfl, fun s => ?_⟩
    rw [toNat_pack_subnormal _ _ _ (by omega)]
    omega
  · refine ⟨fun s => .finite s _ _ h, hu, fun _ => rfl, fun _ => rfl, fun _ => rfl, fun s => ?_⟩
    rw [toNat_pack_normal _ _ _ _ (by omega) (by omega) (by omega) (by omega)]
    omega

theorem unpack_nan {b : BitVec Format.binary64.numBits}
    (hnan : b.toNat / 2 ^ 52 % 2 ^ 11 = 2047 ∧ b.toNat % 2 ^ 52 ≠ 0) :
    unpack .binary64 b = .notANumber := by
  rcases unpack_cases b with ⟨-, hM, -⟩ | ⟨-, -, hu⟩ | ⟨hE, -, -⟩ | ⟨-, hE, -⟩ | ⟨-, -, hE, -⟩
  · exact absurd hM hnan.2
  · exact hu
  · omega
  · omega
  · exact absurd hnan.1 hE

/-- Packing what was unpacked gives the word back; for the NaN this is where validity is used,
since only the canonical NaN packs to itself. -/
theorem pack_unpack {b : BitVec Format.binary64.numBits} (hv : Format.binary64.Valid b) :
    UnpackedFloat.pack .binary64 (unpack .binary64 b) = b := by
  by_cases hnan : b.toNat / 2 ^ 52 % 2 ^ 11 = 2047 ∧ b.toNat % 2 ^ 52 ≠ 0
  · rw [unpack_nan hnan]
    exact (hv.eq_packedNaN ((unpackExponent_eq_allOnes_iff b).mpr hnan.1)
      (mt (unpackMantissa_eq_zero_iff b).mp hnan.2)).symm
  · obtain ⟨f, hu, -, -, -, hpack⟩ := unpack_signed b hnan
    have hb : b.toNat < 2 ^ 64 := b.isLt
    apply BitVec.eq_of_toNat_eq
    rw [hu, hpack, toNat_unpackSign]
    omega

theorem toBits_injective {x y : Float} (h : x.toBits = y.toBits) : x = y := by
  obtain ⟨⟨bx, hx⟩⟩ := x
  obtain ⟨⟨bits, hy⟩⟩ := y
  change bx = bits at h
  subst h
  rfl

theorem ofBits_toBits (x : Float) : Float.ofBits x.toBits = x :=
  toBits_injective (congrArg UInt64.ofBitVec (pack_unpack x.toModel.valid))

theorem isNaN_iff (x : Float) :
    x.isNaN = true ↔ x.toBits.toNat / 2 ^ 52 % 2 ^ 11 = 2047 ∧ x.toBits.toNat % 2 ^ 52 ≠ 0 := by
  change (unpack .binary64 x.toBits.toBitVec).isNaN = true ↔ _
  rcases unpack_cases x.toBits.toBitVec with ⟨hE, hM, hu⟩ | ⟨hE, hM, hu⟩ | ⟨hE, hM, hu⟩ | ⟨h, hE, hu⟩ |
      ⟨h, hE0, hE, hu⟩ <;>
    simp only [UInt64.toNat_toBitVec] at * <;> simp [hu, UnpackedFloat.isNaN] <;> omega

theorem isFinite_iff (x : Float) : x.isFinite = true ↔ x.toBits.toNat / 2 ^ 52 % 2 ^ 11 ≠ 2047 := by
  change (unpack .binary64 x.toBits.toBitVec).isFinite = true ↔ _
  rcases unpack_cases x.toBits.toBitVec with ⟨hE, hM, hu⟩ | ⟨hE, hM, hu⟩ | ⟨hE, hM, hu⟩ | ⟨h, hE, hu⟩ |
      ⟨h, hE0, hE, hu⟩ <;>
    simp only [UInt64.toNat_toBitVec] at * <;> simp [hu, UnpackedFloat.isFinite] <;> omega

theorem isInf_iff (x : Float) :
    x.isInf = true ↔ x.toBits.toNat / 2 ^ 52 % 2 ^ 11 = 2047 ∧ x.toBits.toNat % 2 ^ 52 = 0 := by
  change (unpack .binary64 x.toBits.toBitVec).isInf = true ↔ _
  rcases unpack_cases x.toBits.toBitVec with ⟨hE, hM, hu⟩ | ⟨hE, hM, hu⟩ | ⟨hE, hM, hu⟩ | ⟨h, hE, hu⟩ |
      ⟨h, hE0, hE, hu⟩ <;>
    simp only [UInt64.toNat_toBitVec] at * <;> simp [hu, UnpackedFloat.isInf] <;> omega

theorem not_nan_of_isNaN {x : Float} (h : x.isNaN = false) :
    ¬(x.toBits.toBitVec.toNat / 2 ^ 52 % 2 ^ 11 = 2047 ∧ x.toBits.toBitVec.toNat % 2 ^ 52 ≠ 0) := by
  rw [UInt64.toNat_toBitVec, ← isNaN_iff, h]
  exact Bool.false_ne_true

theorem toNat_toBits_abs (x : Float) (h : x.isNaN = false) :
    x.abs.toBits.toNat = x.toBits.toNat % 2 ^ 63 := by
  obtain ⟨f, hu, -, habs, -, hpack⟩ := unpack_signed x.toBits.toBitVec (not_nan_of_isNaN h)
  change (UnpackedFloat.pack .binary64 (unpack .binary64 x.toBits.toBitVec).abs).toNat = _
  rw [hu, habs, hpack, UInt64.toNat_toBitVec, show Sign.positive.toBitVec.toNat = 0 from rfl]
  omega

theorem toNat_toBits_neg (x : Float) (h : x.isNaN = false) :
    (-x).toBits.toNat = (1 - x.toBits.toNat / 2 ^ 63) * 2 ^ 63 + x.toBits.toNat % 2 ^ 63 := by
  obtain ⟨f, hu, hneg, -, -, hpack⟩ := unpack_signed x.toBits.toBitVec (not_nan_of_isNaN h)
  change (UnpackedFloat.pack .binary64 (unpack .binary64 x.toBits.toBitVec).neg).toNat = _
  rw [hu, hneg, hpack, toNat_neg_sign, toNat_unpackSign, UInt64.toNat_toBitVec]

theorem isNaN_abs (x : Float) (h : x.isNaN = false) : x.abs.isNaN = false := by
  have hnan := not_nan_of_isNaN h
  rw [UInt64.toNat_toBitVec] at hnan
  rw [Bool.eq_false_iff, ne_eq, isNaN_iff, toNat_toBits_abs x h]
  omega

theorem abs_eq_self (x : Float) (h : x.isNaN = false) (hpos : x.toBits.toNat < 2 ^ 63) : x.abs = x :=
  toBits_injective (UInt64.toNat_inj.mp (by rw [toNat_toBits_abs x h]; omega))

theorem neg_abs (x : Float) (h : x.isNaN = false) (hneg : 2 ^ 63 ≤ x.toBits.toNat) : -x.abs = x := by
  have hx : x.toBits.toNat < 2 ^ 64 := x.toBits.toNat_lt
  apply toBits_injective
  apply UInt64.toNat_inj.mp
  rw [toNat_toBits_neg _ (isNaN_abs x h), toNat_toBits_abs x h]
  omega

theorem isNaN_of_isFinite {x : Float} (h : x.isFinite = true) : x.isNaN = false := by
  rw [Bool.eq_false_iff, ne_eq, isNaN_iff]
  have := (isFinite_iff x).mp h
  omega

theorem isInf_abs {x : Float} (h : x.isFinite = true) : x.abs.isInf = false := by
  have hE := (isFinite_iff x).mp h
  rw [Bool.eq_false_iff, ne_eq, isInf_iff, toNat_toBits_abs x (isNaN_of_isFinite h)]
  omega

namespace Binary

structure Finite (b : Binary) : Prop where
  mantissa_lt : b.mantissa < 2 ^ 53
  least_le : -1074 ≤ b.exponent
  exponent_le : b.exponent ≤ 971
  normal_or_least : 2 ^ 52 ≤ b.mantissa ∨ b.exponent = -1074
  narrowBelow_iff : b.narrowBelow = true ↔ b.mantissa = 2 ^ 52 ∧ -1074 < b.exponent

theorem ofFloat_finite {x : Float} (h : x.isFinite = true) : (ofFloat x).Finite := by
  have hE := (isFinite_iff x).mp h
  have hx : x.toBits.toNat < 2 ^ 64 := x.toBits.toNat_lt
  unfold ofFloat
  simp only [Nat.pow_eq]
  split
  · constructor <;> simp <;> omega
  · constructor <;> simp <;> omega

theorem ofFloat_negative (x : Float) : (ofFloat x).negative = decide (2 ^ 63 ≤ x.toBits.toNat) := by
  have hx : x.toBits.toNat < 2 ^ 64 := x.toBits.toNat_lt
  unfold ofFloat
  simp only [Nat.pow_eq]
  split <;> simp <;> omega

theorem ofFloat_mantissa_eq_zero {x : Float} (h : (ofFloat x).mantissa = 0) : x.toBits.toNat % 2 ^ 63 = 0 := by
  have hx : x.toBits.toNat < 2 ^ 64 := x.toBits.toNat_lt
  unfold ofFloat at h
  simp only [Nat.pow_eq] at h
  split at h
  · simp at h
    omega
  · simp at h

theorem packBits_ofFloat {x : Float} (h : x.isFinite = true) :
    packBits (ofFloat x).mantissa (ofFloat x).exponent = x.abs.toBits := by
  have hE := (isFinite_iff x).mp h
  have hx : x.toBits.toNat < 2 ^ 64 := x.toBits.toNat_lt
  apply UInt64.toNat_inj.mp
  rw [toNat_toBits_abs x (isNaN_of_isFinite h)]
  unfold ofFloat
  simp only [Nat.pow_eq]
  split
  · rename_i h0
    rw [packBits, if_neg (by simp only [Nat.pow_eq]; omega)]
    simp
    omega
  · rename_i h0
    rw [packBits, if_pos (by simp only [Nat.pow_eq]; omega)]
    simp
    omega

end Binary

end DruidQuery.Decimal
