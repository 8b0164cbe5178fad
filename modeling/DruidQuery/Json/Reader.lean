import DruidQuery.Text.Utf8
import DruidQuery.Text.Case

namespace DruidQuery.Json

inductive Fault where
  | endOfInput
  | failure (message : String)
deriving DecidableEq, Repr

/-- The bytes being read, the position of the next one, and the first fault met. -/
structure Reader where
  bytes : Array UInt8
  head : Nat := 0
  fault : Option Fault := none

abbrev ReadM := StateM Reader

namespace Reader

def ofString (s : String) : Reader := { bytes := s.toUTF8.data }

def ofBytes (bytes : Array UInt8) : Reader := { bytes }

def failure? (r : Reader) : Option String :=
  match r.fault with
  | some (.failure m) => some m
  | _ => none

def failed (r : Reader) : Bool := r.failure?.isSome

def faulty (r : Reader) : Bool := r.fault.isSome

def slice (bytes : Array UInt8) (a b : Nat) : String := Text.decodeLossy (bytes.extract a b).toList

def charOf (b : UInt8) : Char := Char.ofNat b.toNat

def shown (c : Char) : String := if c.toNat < 0x80 then c.toString else Text.replacement.toString

def blankEnd (bytes : Array UInt8) (i : Nat) : Nat :=
  if h : i < bytes.size then
    let b := bytes[i]
    if b == 32 || b == 9 || b == 10 || b == 13 then blankEnd bytes (i + 1) else i
  else i
termination_by bytes.size - i

def hasFailed : ReadM Bool := return (← get).failed

def hasFault : ReadM Bool := return (← get).faulty

def reachEnd : ReadM Unit := modify fun r =>
  if r.fault.isNone then { r with head := r.bytes.size, fault := some .endOfInput } else r

def nextToken : ReadM Char := do
  let r ← get
  let i := blankEnd r.bytes r.head
  match r.bytes[i]? with
  | some b => set { r with head := i + 1 }; pure (charOf b)
  | none => reachEnd; pure '\x00'

def readByte : ReadM Char := do
  let r ← get
  match r.bytes[r.head]? with
  | some b => set { r with head := r.head + 1 }; pure (charOf b)
  | none => reachEnd; pure '\x00'

def unreadByte : ReadM Unit := modify fun r =>
  if r.fault.isNone then { r with head := r.head - 1 } else r

def report (step msg : String) : ReadM Unit := modify fun r =>
  if r.failed then r
  else
    let size := r.bytes.size
    let peekStart := r.head - 10
    let message := step ++ ": " ++ msg ++ ", error found in #" ++ toString (r.head - peekStart) ++
      " byte of ...|" ++ slice r.bytes peekStart (min (r.head + 10) size) ++
      "|..., bigger context ...|" ++ slice r.bytes (r.head - 50) (min (r.head + 50) size) ++ "|..."
    { r with fault := some (.failure message) }

def failWith (message : String) : ReadM Unit := modify fun r =>
  { r with fault := some (.failure message) }

def wrap (pre : String) : ReadM Unit := modify fun r =>
  match r.fault with
  | some (.failure m) => { r with fault := some (.failure (pre ++ m)) }
  | _ => r

def clearFault : ReadM Unit := modify fun r => { r with fault := none }

def expectBytes (step : String) (rest : List Char) : ReadM Unit := do
  let word := String.ofList rest
  let rec go : List Char → ReadM Unit
    | [] => pure ()
    | c :: cs => do
      if (← readByte) != c then report step ("expect " ++ word) else go cs
  go rest

def skipNull : ReadM Unit := expectBytes "skipThreeBytes" ['u', 'l', 'l']

def readNil : ReadM Bool := do
  if (← nextToken) == 'n' then skipNull; pure true
  else unreadByte; pure false

def readBool : ReadM Bool := do
  let c ← nextToken
  if c == 't' then expectBytes "skipThreeBytes" ['r', 'u', 'e']; pure true
  else if c == 'f' then expectBytes "skipFourBytes" ['a', 'l', 's', 'e']; pure false
  else report "ReadBool" ("expect t or f, but found " ++ shown c); pure false

def readObjectStart : ReadM Bool := do
  let c ← nextToken
  if c == '{' then
    if (← nextToken) == '}' then pure false else unreadByte; pure true
  else if c == 'n' then skipNull; pure false
  else report "readObjectStart" ("expect \x7b or n, but found " ++ shown c); pure false

def isObjectEnd : ReadM Bool := do
  let c ← nextToken
  if c == ',' then pure false
  else if c == '}' then pure true
  else report "isObjectEnd" ("object ended prematurely, unexpected char " ++ shown c); pure true

def hexValue (c : Char) : Option Nat :=
  if '0' ≤ c && c ≤ '9' then some (c.toNat - 48)
  else if 'a' ≤ c && c ≤ 'f' then some (c.toNat - 87)
  else if 'A' ≤ c && c ≤ 'F' then some (c.toNat - 55)
  else none

def readU4 : ReadM Nat := do
  let rec go : Nat → Nat → ReadM Nat
    | 0, v => pure v
    | n + 1, v => do
      let c ← readByte
      if (← hasFault) then pure v
      else match hexValue c with
        | some d => go n (v * 16 + d)
        | none => report "readU4" ("expects 0~9 or a~f, but found " ++ shown c); pure v
  go 4 0

def isSurrogate (n : Nat) : Bool := 0xD800 ≤ n && n < 0xE000

def pairSurrogates (hi lo : Nat) : Nat :=
  if 0xD800 ≤ hi && hi < 0xDC00 && 0xDC00 ≤ lo && lo < 0xE000 then
    0x10000 + (hi - 0xD800) * 0x400 + (lo - 0xDC00)
  else 0xFFFD

def escapedByte (c : Char) : Option UInt8 :=
  match c with
  | '"' => some 34
  | '\\' => some 92
  | '/' => some 47
  | 'b' => some 8
  | 'f' => some 12
  | 'n' => some 10
  | 'r' => some 13
  | 't' => some 9
  | _ => none

def appendEscape (c : Char) (acc : Array UInt8) : ReadM (Option (Array UInt8)) :=
  match escapedByte c with
  | some b => pure (some (acc.push b))
  | none => do report "readEscapedChar" "invalid escape char after \\"; pure none

def appendPoint (acc : Array UInt8) (n : Nat) : Array UInt8 := acc ++ (Text.encodePoint n).toArray

def readEscape (c : Char) (acc : Array UInt8) : ReadM (Option (Array UInt8)) := do
  if c != 'u' then return ← appendEscape c acc
  let r ← readU4
  if !isSurrogate r then return some (appendPoint acc r)
  let c ← readByte
  if (← hasFault) then return none
  if c != '\\' then
    unreadByte
    return some (appendPoint acc r)
  let c ← readByte
  if (← hasFault) then return none
  if c != 'u' then return ← appendEscape c (appendPoint acc r)
  let r2 ← readU4
  if (← hasFault) then return none
  let combined := pairSurrogates r r2
  if combined == 0xFFFD then return some (appendPoint (appendPoint acc r) r2)
  return some (appendPoint acc combined)

def readStringSlow : ReadM String := do
  let fuel := (← get).bytes.size + 2
  let rec go : Nat → Array UInt8 → ReadM String
    | 0, _ => do report "readStringSlowPath" "unexpected end of input"; pure ""
    | n + 1, acc => do
      if (← hasFault) then
        report "readStringSlowPath" "unexpected end of input"; return ""
      let c ← readByte
      if c == '"' then return Text.decodeLossy acc.toList
      if c == '\\' then
        let e ← readByte
        match ← readEscape e acc with
        | some acc => go n acc
        | none => go n #[]
      else go n (acc.push c.toNat.toUInt8)
  go fuel #[]

inductive StringScan where
  | closed (pos : Nat)
  | control (b : UInt8)
  | slow
deriving DecidableEq, Repr

def scanString (bytes : Array UInt8) (i : Nat) : StringScan :=
  if h : i < bytes.size then
    let b := bytes[i]
    if b == 34 then .closed i
    else if b == 92 then .slow
    else if b < 32 then .control b
    else scanString bytes (i + 1)
  else .slow
termination_by bytes.size - i

def readString : ReadM String := do
  let c ← nextToken
  if c == '"' then
    let r ← get
    match scanString r.bytes r.head with
    | .closed j =>
      set { r with head := j + 1 }
      pure (slice r.bytes r.head j)
    | .control b =>
      report "ReadString" ("invalid control character found: " ++ toString b.toNat); pure ""
    | .slow => readStringSlow
  else if c == 'n' then skipNull; pure ""
  else report "ReadString" ("expects \" or n, but found " ++ shown c); pure ""

def lowerByte (b : UInt8) : UInt8 := if 65 ≤ b && b ≤ 90 then b + 32 else b

inductive KeyScan where
  | closed (pos : Nat)
  | escape (pos : Nat)
  | unfinished
deriving DecidableEq, Repr

def scanKey (bytes : Array UInt8) (i : Nat) : KeyScan :=
  if h : i < bytes.size then
    let b := bytes[i]
    if b == 34 then .closed i
    else if b == 92 then .escape i
    else scanKey bytes (i + 1)
  else .unfinished
termination_by bytes.size - i

def lowerSlice (bytes : Array UInt8) (a b : Nat) : String :=
  Text.decodeLossy ((bytes.extract a b).toList.map lowerByte)

def readFieldKey : ReadM (Option String) := do
  let c ← nextToken
  if c != '"' then
    report "readFieldHash" ("expect \", but found " ++ shown c); return none
  let r ← get
  let start := r.head
  let key? ← match scanKey r.bytes start with
    | .closed j => do
      set { r with head := j + 1 }
      pure (some (lowerSlice r.bytes start j))
    | .escape j => do
      set { r with head := j }
      let rest ← readStringSlow
      pure (some (lowerSlice r.bytes start j ++ Text.lowerAsciiText rest))
    | .unfinished => do
      reachEnd
      report "readFieldHash" "incomplete field name"
      pure none
  match key? with
  | none => pure none
  | some key =>
    let c ← nextToken
    if c != ':' then
      report "readFieldHash" ("expect :, but found " ++ shown c); pure none
    else pure (some key)

end Reader

end DruidQuery.Json
