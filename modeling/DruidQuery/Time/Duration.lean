import DruidQuery.Decimal.Nearest

namespace DruidQuery.Time

def unitNanos : String → Option Nat
  | "ns" => some 1
  | "us" => some 1000
  | "µs" => some 1000
  | "μs" => some 1000
  | "ms" => some 1000000
  | "s" => some 1000000000
  | "m" => some 60000000000
  | "h" => some 3600000000000
  | _ => none

def durationLimit : Nat := Nat.pow 2 63

def leadingInt : List Char → Nat → Option Nat × List Char
  | c :: rest, v =>
    if c.isDigit then
      if v > durationLimit / 10 then (none, rest)
      else
        let v := v * 10 + (c.toNat - 48)
        if v > durationLimit then (none, rest) else leadingInt rest v
    else (some v, c :: rest)
  | [], v => (some v, [])

def leadingFraction : List Char → Nat → Float → Bool → Nat × Float × List Char
  | c :: rest, v, scale, past =>
    if c.isDigit then
      if past || v > (durationLimit - 1) / 10 then leadingFraction rest v scale true
      else
        let y := v * 10 + (c.toNat - 48)
        if y > durationLimit then leadingFraction rest v scale true
        else leadingFraction rest y (scale * 10) false
    else (v, scale, c :: rest)
  | [], v, scale, _ => (v, scale, [])

def durationTerms : Nat → List Char → Nat → Option Nat
  | 0, _, _ => none
  | _, [], total => some total
  | fuel + 1, cs@(c :: _), total =>
    if !(c == '.' || c.isDigit) then none
    else
      let (whole, rest) := leadingInt cs 0
      match whole with
      | none => none
      | some v =>
        let before := rest.length != cs.length
        let (f, scale, rest, after) := match rest with
          | '.' :: r =>
            let (f, scale, r2) := leadingFraction r 0 1 false
            (f, scale, r2, r2.length != r.length)
          | r => (0, 1, r, false)
        if !before && !after then none
        else
          let unit := rest.takeWhile fun c => !(c == '.' || c.isDigit)
          let rest := rest.dropWhile fun c => !(c == '.' || c.isDigit)
          match unitNanos (String.ofList unit) with
          | none => none
          | some u =>
            if unit.isEmpty || v > durationLimit / u then none
            else
              let v := v * u
              let v := if f > 0 then
                  v + (Decimal.nearest f 1 * (Decimal.nearest u 1 / scale)).toUInt64.toNat
                else v
              if v > durationLimit then none
              else
                let total := total + v
                if total > durationLimit then none else durationTerms fuel rest total

/-- Reads a duration in nanoseconds; `none` when it is not one. -/
def parseDuration (s : String) : Option Int64 :=
  let (negative, body) := match s.toList with
    | '-' :: r => (true, r)
    | '+' :: r => (false, r)
    | r => (false, r)
  if body == ['0'] then some 0
  else if body.isEmpty then none
  else
    match durationTerms (body.length + 1) body 0 with
    | none => none
    | some d =>
      if negative then some (Int64.ofInt (-(d : Int)))
      else if d > durationLimit - 1 then none
      else some (Int64.ofInt d)

end DruidQuery.Time
