import DruidQuery.Json.Reader
import DruidQuery.Text.Numeral

namespace DruidQuery.Json.Reader

def digitValue (c : Char) : Option Nat := if '0' ≤ c && c ≤ '9' then some (c.toNat - 48) else none

def safeForTen : UInt64 := 0xFFFFFFFFFFFFFFFF / 10 - 1

def assertInteger : ReadM Unit := do
  let r ← get
  if r.bytes[r.head]? == some 46 then report "assertInteger" "can not decode float as int"

inductive DigitRun where
  | stop (pos : Nat) (value : UInt64)
  | finished (value : UInt64)
  | overflow
deriving DecidableEq, Repr

def digitRun (bytes : Array UInt8) (i : Nat) (v : UInt64) : DigitRun :=
  if h : i < bytes.size then
    let b := bytes[i]
    if b < 48 || b > 57 then .stop i v
    else
      let next := v * 10 + (b - 48).toUInt64
      if v > safeForTen && next < v then .overflow
      else digitRun bytes (i + 1) next
  else .finished v
termination_by bytes.size - i

def readUnsigned (c : Char) : ReadM UInt64 := do
  match digitValue c with
  | none =>
    report "readUint64" ("unexpected character: " ++ Text.replacement.toString); pure 0
  | some 0 => assertInteger; pure 0
  | some d =>
    let r ← get
    match digitRun r.bytes r.head d.toUInt64 with
    | .overflow => report "readUint64" "overflow"; pure 0
    | .stop i v => set { r with head := i }; assertInteger; pure v
    | .finished v => reachEnd; assertInteger; pure v

def readInt64 : ReadM Int := do
  let c ← nextToken
  if c == '-' then
    let v ← readUnsigned (← readByte)
    if v.toNat > Nat.pow 2 63 then
      report "ReadInt64" ("overflow: " ++ toString v.toNat); pure 0
    else pure (-(v.toNat : Int))
  else
    let v ← readUnsigned c
    if v.toNat ≥ Nat.pow 2 63 then
      report "ReadInt64" ("overflow: " ++ toString v.toNat); pure 0
    else pure v.toNat

inductive NumberByte where
  | digit (d : Nat)
  | stop
  | point
  | other
deriving DecidableEq, Repr

def numberByte (b : UInt8) : NumberByte :=
  if 48 ≤ b && b ≤ 57 then .digit (b - 48).toNat
  else if b == 44 || b == 93 || b == 125 || b == 32 || b == 9 || b == 10 then .stop
  else if b == 46 then .point
  else .other

inductive Width where
  | double
  | single
deriving DecidableEq, Repr

def Width.quickStep : Width → String
  | .double => "readFloat64"
  | .single => "readFloat32"

def Width.slowStep : Width → String
  | .double => "readFloat64SlowPath"
  | .single => "readFloat32SlowPath"

def Width.maxExact : Width → Nat
  | .double => Nat.pow 2 53 - 1
  | .single => Nat.pow 2 24 - 1

inductive QuickFloat where
  | value (x : Float) (pos : Nat)
  | slow
  | fail (message : String)
deriving Inhabited

def fractionRun (bytes : Array UInt8) (maxExact : Nat) (i v places : Nat) : QuickFloat :=
  if h : i < bytes.size then
    match numberByte bytes[i] with
    | .stop =>
      if places > 0 && places < 7 then .value (Decimal.nearest v (Nat.pow 10 places)) i else .slow
    | .other => .slow
    | .point => .slow
    | .digit d =>
      if v > safeForTen.toNat then .slow
      else if v * 10 + d > maxExact then .slow
      else fractionRun bytes maxExact (i + 1) (v * 10 + d) (places + 1)
  else .slow
termination_by bytes.size - i

def wholeRun (bytes : Array UInt8) (maxExact : Nat) (i v : Nat) : QuickFloat :=
  if h : i < bytes.size then
    match numberByte bytes[i] with
    | .other => .slow
    | .stop => .value (Decimal.nearest v 1) i
    | .point => fractionRun bytes maxExact (i + 1) v 0
    | .digit d =>
      if v > safeForTen.toNat then .slow else wholeRun bytes maxExact (i + 1) (v * 10 + d)
  else .slow
termination_by bytes.size - i

def quickFloat (bytes : Array UInt8) (maxExact head : Nat) : QuickFloat :=
  match bytes[head]? with
  | none => .slow
  | some b =>
    match numberByte b with
    | .other => .slow
    | .stop => .fail "empty number"
    | .point => .fail "leading dot is invalid"
    | .digit 0 =>
      match bytes[head + 1]? with
      | none => .slow
      | some b2 =>
        match numberByte b2 with
        | .digit _ => .fail "leading zero is invalid"
        | _ => wholeRun bytes maxExact (head + 1) 0
    | .digit d => wholeRun bytes maxExact (head + 1) d

def isNumberByte (b : UInt8) : Bool :=
  (48 ≤ b && b ≤ 57) || b == 43 || b == 45 || b == 46 || b == 101 || b == 69

def numberEnd (bytes : Array UInt8) (i : Nat) : Nat :=
  if h : i < bytes.size then
    if isNumberByte bytes[i] then numberEnd bytes (i + 1) else i
  else i
termination_by bytes.size - i

def readNumberText : ReadM String := do
  let r ← get
  let j := numberEnd r.bytes r.head
  let text := slice r.bytes r.head j
  if j < r.bytes.size then set { r with head := j } else reachEnd
  if (← hasFailed) then return ""
  if text.isEmpty then report "readNumberAsString" "invalid number"
  return text

def checkFloatText (s : String) : Option String :=
  let cs := s.toList
  match cs with
  | [] => some "empty number"
  | '-' :: _ => some "-- is not valid"
  | _ =>
    match cs.dropWhile (· ≠ '.') with
    | [] => none
    | [_] => some "dot can not be last character"
    | _ :: d :: _ => if d.isDigit then none else some "missing digit after dot"

def singleOverflow : Float := 3.4028235677973366e38

def floatTextError (w : Width) (s : String) : Option String :=
  let reason := match Text.parseReal s with
    | .error .malformed => some "invalid syntax"
    | .error .range => some "value out of range"
    | .ok x => if w == Width.single && x.abs ≥ singleOverflow then some "value out of range" else none
  reason.map fun why => "strconv.ParseFloat: parsing \"" ++ s ++ "\": " ++ why

def readFloatSlow (w : Width) : ReadM Float := do
  let text ← readNumberText
  if (← hasFailed) then return 0
  match checkFloatText text with
  | some msg => report w.slowStep msg; return 0
  | none =>
    match floatTextError w text with
    | some msg => failWith msg; return 0
    | none => return (Text.parseReal text).toOption.getD 0

def readPositive (w : Width) : ReadM Float := do
  let r ← get
  match quickFloat r.bytes w.maxExact r.head with
  | .value x j => set { r with head := j }; pure x
  | .fail msg => report w.quickStep msg; pure 0
  | .slow => readFloatSlow w

def readFloat (w : Width) : ReadM Float := do
  if (← nextToken) == '-' then return -(← readPositive w)
  unreadByte
  readPositive w

def readDouble : ReadM Float := readFloat .double

def digitSpan (cs : List Char) : List Char × List Char := (cs.takeWhile Char.isDigit, cs.dropWhile Char.isDigit)

def bigFloatError (s : String) : Option String :=
  let cs := s.toList
  let body := match cs with
    | '+' :: r => r
    | '-' :: r => r
    | r => r
  let (whole, rest) := digitSpan body
  let (fraction, rest) := match rest with
    | '.' :: r => digitSpan r
    | r => ([], r)
  if whole.isEmpty && fraction.isEmpty then some "number has no digits"
  else
    let exponent : Except String (List Char) := match rest with
      | c :: r =>
        if c = 'e' || c = 'E' then
          let (negative, r) := match r with
            | '+' :: t => (false, t)
            | '-' :: t => (true, t)
            | t => (false, t)
          let (digits, r) := digitSpan r
          let value := digits.foldl (fun v d => v * 10 + (d.toNat - 48)) 0
          if digits.isEmpty then .error "number has no digits"
          else if (negative && value > Nat.pow 2 63) || (!negative && value ≥ Nat.pow 2 63) then
            .error ("strconv.ParseInt: parsing \"" ++ (if negative then "-" else "") ++
              String.ofList digits ++ "\": value out of range")
          else .ok r
        else .ok (c :: r)
      | [] => .ok []
    match exponent with
    | .error m => some m
    | .ok [] => none
    | .ok (c :: _) => some ("expected end of string, found '" ++ c.toString ++ "'")

def readBigFloat : ReadM Unit := do
  let text ← readNumberText
  if (← hasFailed) then return
  match bigFloatError text with
  | some m => failWith m
  | none => pure ()

end DruidQuery.Json.Reader
