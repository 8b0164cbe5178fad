
namespace DruidQuery.Decimal

structure Binary where
  negative : Bool
  mantissa : Nat
  exponent : Int
  narrowBelow : Bool
deriving Repr, DecidableEq

def Binary.ofFloat (x : Float) : Binary :=
  let bits : Nat := x.toBits.toNat
  let biased : Nat := (bits / Nat.pow 2 52) % 2048
  let fraction : Nat := bits % Nat.pow 2 52
  if biased = 0 then
    ⟨bits / Nat.pow 2 63 = 1, fraction, -1074, false⟩
  else
    ⟨bits / Nat.pow 2 63 = 1, fraction + Nat.pow 2 52, (biased : Int) - 1075,
      fraction = 0 && biased > 1⟩

structure Digits where
  digits : Nat
  exponent : Int
deriving Repr, DecidableEq

def compareScaled (a : Nat) (p : Int) (b : Nat) (q : Int) : Ordering :=
  compare (a * Nat.pow 2 p.toNat * Nat.pow 10 (-q).toNat)
    (b * Nat.pow 10 q.toNat * Nat.pow 2 (-p).toNat)

def digitCount (n : Nat) : Nat :=
  (Nat.toDigits 10 n).length

def decimalExponent (a : Nat) (p : Int) : Int :=
  let num := a * Nat.pow 2 p.toNat
  let den := Nat.pow 2 (-p).toNat
  let guess : Int := (digitCount num : Int) - (digitCount den : Int)
  if compareScaled a p 1 guess ≠ .lt then guess else guess - 1

def Digits.trim (d : Digits) : Digits :=
  if h : d.digits ≠ 0 ∧ d.digits % 10 = 0 then
    Digits.trim ⟨d.digits / 10, d.exponent + 1⟩
  else d
termination_by d.digits
decreasing_by exact Nat.div_lt_self (Nat.pos_of_ne_zero h.1) (by decide)

structure Interval where
  scale : Int
  low : Nat
  centre : Nat
  high : Nat
  closed : Bool

def Binary.interval (b : Binary) : Interval :=
  { scale := b.exponent - 2
    low := 4 * b.mantissa - (if b.narrowBelow then 1 else 2)
    centre := 4 * b.mantissa
    high := 4 * b.mantissa + 2
    closed := b.mantissa % 2 == 0 }

def Interval.holds (r : Interval) (c : Nat) (k : Int) : Bool :=
  let aboveLow := compareScaled r.low r.scale c k
  let belowHigh := compareScaled r.high r.scale c k
  if r.closed then aboveLow ≠ .gt && belowHigh ≠ .lt
  else aboveLow == .lt && belowHigh == .gt

def Interval.onGrid (r : Interval) (k : Int) : Nat × Nat :=
  (r.centre * Nat.pow 2 r.scale.toNat * Nat.pow 10 (-k).toNat,
    Nat.pow 10 k.toNat * Nat.pow 2 (-r.scale).toNat)

def Interval.pick (r : Interval) (k : Int) : Option Nat :=
  let (num, den) := r.onGrid k
  let below := num / den
  let above := below + 1
  match r.holds below k, r.holds above k with
  | true, true =>
    let toBelow := num - below * den
    let toAbove := above * den - num
    if toBelow < toAbove then some below
    else if toAbove < toBelow then some above
    else if below % 2 = 0 then some below else some above
  | true, false => some below
  | false, true => some above
  | false, false => none

def Interval.search (r : Interval) (t : Int) : Nat → Nat → Digits
  | n, 0 => let (num, den) := r.onGrid (t - n + 1); ⟨num / den, t - n + 1⟩
  | n, fuel + 1 =>
    match r.pick (t - n + 1) with
    | some c => ⟨c, t - n + 1⟩
    | none => r.search t (n + 1) fuel

/-- The shortest digits of the magnitude of a finite double; zero has the digits `0`. -/
def shortest (x : Float) : Digits :=
  let b := Binary.ofFloat x
  if b.mantissa = 0 then ⟨0, 0⟩
  else
    let r := b.interval
    (r.search (decimalExponent b.mantissa b.exponent) 1 17).trim

end DruidQuery.Decimal
