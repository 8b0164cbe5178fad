import DruidQuery.Decimal.Nearest

namespace DruidQuery.Text

def digitOf (c : Char) : Nat :=
  if '0' ≤ c && c ≤ '9' then c.toNat - 48
  else if 'a' ≤ c && c ≤ 'z' then c.toNat - 87
  else if 'A' ≤ c && c ≤ 'Z' then c.toNat - 55
  else 36

inductive Seen where
  | start
  | digit
  | separator
  | other
deriving DecidableEq

def separatorsOk (s : List Char) : Bool :=
  let s := match s with
    | '+' :: r => r
    | '-' :: r => r
    | r => r
  let (rest, seen, hex) : List Char × Seen × Bool := match s with
    | '0' :: b :: r =>
      if b.toLower = 'b' || b.toLower = 'o' || b.toLower = 'x' then (r, .digit, b.toLower = 'x')
      else (s, .start, false)
    | _ => (s, .start, false)
  let step (st : Option Seen) (c : Char) : Option Seen := st.bind fun st =>
    if c.isDigit || (hex && 'a' ≤ c.toLower && c.toLower ≤ 'f') then some .digit
    else if c = '_' then (if st = .digit then some .separator else none)
    else if st = .separator then none
    else some .other
  match rest.foldl step (some seen) with
  | some .separator => false
  | none => false
  | _ => true

def digitsIn (base : Nat) (cs : List Char) : Option Nat :=
  cs.foldl (fun acc c => acc.bind fun v =>
    if c = '_' then some v
    else if digitOf c < base then some (v * base + digitOf c)
    else none) (some 0)

def readInteger (s : String) : Option Int :=
  let cs := s.toList
  let (negative, body) := match cs with
    | '+' :: r => (false, r)
    | '-' :: r => (true, r)
    | r => (false, r)
  if body.isEmpty then none
  else
    let (base, digits) : Nat × List Char := match body with
      | '0' :: b :: r@(_ :: _) =>
        if b.toLower = 'b' then (2, r)
        else if b.toLower = 'o' then (8, r)
        else if b.toLower = 'x' then (16, r)
        else (8, b :: r)
      | '0' :: r => (8, r)
      | r => (10, r)
    match digitsIn base digits with
    | none => none
    | some v =>
      if digits.contains '_' && !separatorsOk body then none
      else if negative then (if v ≤ Nat.pow 2 63 then some (-(v : Int)) else none)
      else if v < Nat.pow 2 63 then some (v : Int)
      else none

def specialReal (cs : List Char) : Option Float :=
  let lower := String.ofList (cs.map Char.toLower)
  let (negative, body) := match cs.map Char.toLower with
    | '+' :: r => (false, String.ofList r)
    | '-' :: r => (true, String.ofList r)
    | r => (false, String.ofList r)
  if body = "inf" || body = "infinity" then
    some (if negative then -(1.0 / 0.0) else 1.0 / 0.0)
  else if lower = "nan" then some (0.0 / 0.0)
  else none

def mantissaSpan (hex : Bool) : List Char → Bool → List Char × List Char
  | [], _ => ([], [])
  | c :: rest, sawPoint =>
    if c.isDigit || c = '_' || (hex && 'a' ≤ c.toLower && c.toLower ≤ 'f') then
      let (m, r) := mantissaSpan hex rest sawPoint
      (c :: m, r)
    else if c = '.' && !sawPoint then
      let (m, r) := mantissaSpan hex rest true
      (c :: m, r)
    else ([], c :: rest)

def exponentValue (cs : List Char) : Nat :=
  cs.foldl (fun e c => if c = '_' then e else if e < 10000 then e * 10 + (c.toNat - 48) else e) 0

inductive RealError where
  | malformed
  | range
deriving DecidableEq, Repr

/-- Reads a real numeral, the whole text. -/
def parseReal (s : String) : Except RealError Float :=
  let cs := s.toList
  match specialReal cs with
  | some x => .ok x
  | none =>
    let (negative, body) := match cs with
      | '+' :: r => (false, r)
      | '-' :: r => (true, r)
      | r => (false, r)
    let (hex, digitsAt) := match body with
      | '0' :: x :: r@(_ :: _) => if x.toLower = 'x' then (true, r) else (false, body)
      | _ => (false, body)
    let (mantissa, rest) := mantissaSpan hex digitsAt false
    let digits := mantissa.filter (· ≠ '_')
    let intDigits := (digits.takeWhile (· ≠ '.'))
    let fracDigits := (digits.dropWhile (· ≠ '.')).drop 1
    let allDigits := intDigits ++ fracDigits
    if allDigits.isEmpty then .error .malformed
    else
      let expMark := if hex then 'p' else 'e'
      let exponent : Option (Int × List Char) := match rest with
        | [] => if hex then none else some (0, [])
        | c :: r =>
          if c.toLower ≠ expMark then (if hex then none else some (0, c :: r))
          else
            let (sign, r) : Int × List Char := match r with
              | '+' :: t => (1, t)
              | '-' :: t => (-1, t)
              | t => (1, t)
            match r with
            | d :: _ =>
              if d.isDigit then
                let expDigits := r.takeWhile fun c => c.isDigit || c = '_'
                some (sign * exponentValue expDigits, r.dropWhile fun c => c.isDigit || c = '_')
              else none
            | [] => none
      match exponent with
      | none => .error .malformed
      | some (e, trailing) =>
        if !trailing.isEmpty then .error .malformed
        else if cs.contains '_' && !separatorsOk cs then .error .malformed
        else
          let base := if hex then 16 else 10
          let m := (digitsIn base allDigits).getD 0
          let x := if hex then Decimal.ofBinary m (e - 4 * fracDigits.length)
            else Decimal.ofDecimal m (e - fracDigits.length)
          if x.isInf then .error .range
          else .ok (if negative then -x else x)

def readReal (s : String) : Option Float := (parseReal s).toOption

end DruidQuery.Text
