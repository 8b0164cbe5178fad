
namespace DruidQuery.Decimal

def scaledQuotient (num den : Nat) (e : Int) : Nat × Nat × Nat :=
  let (sn, sd) :=
    if e ≥ 0 then (num, den * Nat.pow 2 e.toNat) else (num * Nat.pow 2 (-e).toNat, den)
  (sn / sd, sn % sd, sd)

def roundHalfEven (q r d : Nat) : Nat :=
  if 2 * r > d || (2 * r = d && q % 2 = 1) then q + 1 else q

def packBits (m : Nat) (e : Int) : UInt64 :=
  if m ≥ Nat.pow 2 52 then ((e + 1075).toNat * Nat.pow 2 52 + (m - Nat.pow 2 52)).toUInt64
  else m.toUInt64

def infinity : Float := Float.ofBits 0x7FF0000000000000

/-- The double nearest to `num / den`, ties to even; `den` must be positive. -/
def nearest (num den : Nat) : Float :=
  if num = 0 || den = 0 then 0
  else
    let k : Int := (num.log2 : Int) - (den.log2 : Int)
    let e0 : Int := max (k - 53) (-1074)
    let (q0, _, _) := scaledQuotient num den e0
    let e := if q0 ≥ Nat.pow 2 53 then e0 + 1 else e0
    let (q, r, d) := scaledQuotient num den e
    let m := roundHalfEven q r d
    let (m, e) := if m ≥ Nat.pow 2 53 then (m / 2, e + 1) else (m, e)
    if e > 971 then infinity
    else Float.ofBits (packBits m e)

def ofDecimal (m : Nat) (e : Int) : Float :=
  let d : Int := (Nat.toDigits 10 m).length
  if m = 0 then 0
  else if d + e ≥ 310 then infinity
  else if d + e ≤ -324 then 0
  else if e ≥ 0 then nearest (m * Nat.pow 10 e.toNat) 1 else nearest m (Nat.pow 10 (-e).toNat)

def ofBinary (m : Nat) (e : Int) : Float :=
  let b : Int := m.log2 + 1
  if m = 0 then 0
  else if b + e ≥ 1025 then infinity
  else if b + e ≤ -1075 then 0
  else if e ≥ 0 then nearest (m * Nat.pow 2 e.toNat) 1 else nearest m (Nat.pow 2 (-e).toNat)

end DruidQuery.Decimal
