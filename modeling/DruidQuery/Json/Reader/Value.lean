import DruidQuery.Json.Reader.Number
import DruidQuery.Value

namespace DruidQuery.Json.Reader

def walkFuel : ReadM Nat := return (← get).bytes.size + 2

def afterCommas {α : Type} (each : α → ReadM α) : Nat → α → ReadM (Char × α)
  | 0, acc => return (← nextToken, acc)
  | n + 1, acc => do
    let c ← nextToken
    if c == ',' then afterCommas each n (← each acc) else return (c, acc)

def readArrayWith {α : Type} (each : α → ReadM α) (init : α) : ReadM α := do
  let c ← nextToken
  if c == '[' then
    if (← nextToken) == ']' then return init
    unreadByte
    let acc ← each init
    let (last, acc) ← afterCommas each (← walkFuel) acc
    if last != ']' then report "ReadArrayCB" ("expect ] in the end, but found " ++ shown last)
    return acc
  else if c == 'n' then skipNull; return init
  else report "ReadArrayCB" ("expect [ or n, but found " ++ shown c); return init

def readObjectWith {α : Type} (each : String → α → ReadM α) (init : α) : ReadM α := do
  let c ← nextToken
  if c == '{' then
    let c ← nextToken
    if c == '"' then
      unreadByte
      let member (acc : α) : ReadM α := do
        let name ← readString
        let c ← nextToken
        -- the missing colon is reported under the name of the plain object walk
        if c != ':' then
          report "ReadObject" ("expect : after object field, but found " ++ shown c)
        each name acc
      let acc ← member init
      let (last, acc) ← afterCommas member (← walkFuel) acc
      if last != '}' then report "ReadObjectCB" "object not ended with \x7d"
      return acc
    else if c == '}' then return init
    else report "ReadObjectCB" ("expect \" after \x7b, but found " ++ shown c); return init
  else if c == 'n' then skipNull; return init
  else report "ReadObjectCB" ("expect \x7b or n, but found " ++ shown c); return init

def mapMembers {α : Type} (each : String → α → ReadM α) : Nat → Char → α → ReadM α
  | 0, _, acc => pure acc
  | n + 1, before, acc => do
    let name ← readString
    if (← nextToken) != ':' then
      report "ReadMapCB" ("expect : after object field, but found " ++ shown before)
      return acc
    let acc ← each name acc
    let c ← nextToken
    if c == ',' then mapMembers each n ',' acc
    else
      if c != '}' then report "ReadMapCB" "object not ended with \x7d"
      return acc

def readMapWith {α : Type} (each : String → α → ReadM α) (init : α) : ReadM α := do
  let c ← nextToken
  if c == '{' then
    let c ← nextToken
    if c == '"' then
      unreadByte
      mapMembers each (← walkFuel) c init
    else if c == '}' then return init
    else report "ReadMapCB" ("expect \" after \x7b, but found " ++ shown c); return init
  else if c == 'n' then skipNull; return init
  else report "ReadMapCB" ("expect \x7b or n, but found " ++ shown c); return init

inductive ValueKind where
  | invalid
  | string
  | number
  | null
  | bool
  | array
  | object
deriving DecidableEq, Repr

def kindOf (c : Char) : ValueKind :=
  if c == '"' then .string
  else if c == '-' || ('0' ≤ c && c ≤ '9') then .number
  else if c == 't' || c == 'f' then .bool
  else if c == 'n' then .null
  else if c == '[' then .array
  else if c == '{' then .object
  else .invalid

def nextKind : ReadM ValueKind := do
  let c ← nextToken
  unreadByte
  return kindOf c

def readValue : Nat → ReadM Value
  | 0 => pure .null
  | fuel + 1 => do
    match ← nextKind with
    | .string => return .str (← readString)
    | .number => return .float (← readDouble)
    | .null => expectBytes "skipFourBytes" ['n', 'u', 'l', 'l']; return .null
    | .bool => return .bool (← readBool)
    | .array =>
      let items ← readArrayWith (fun acc => return acc.push (← readValue fuel)) #[]
      return .list items.toList
    | .object =>
      let entries ← readMapWith (fun name acc => return acc.push (name, ← readValue fuel)) #[]
      return Value.dictOf entries.toList
    | .invalid => report "Read" "unexpected value type: 0"; return .null

/-- Reads a dynamic value, nesting bounded by the input's length. -/
def readAny : ReadM Value := do readValue (← walkFuel)

def skipString : ReadM Unit := do
  let r ← get
  match scanString r.bytes r.head with
  | .closed j => set { r with head := j + 1 }
  | .control b => report "trySkipString" ("invalid control character found: " ++ toString b.toNat)
  | .slow => unreadByte; discard readString

inductive NumberSkip where
  | skipped (pos : Nat)
  | bad (message : String)
  | unsure
deriving DecidableEq, Repr

def numberSkip (bytes : Array UInt8) (head i : Nat) (dot : Bool) : NumberSkip :=
  if h : i < bytes.size then
    let b := bytes[i]
    if 48 ≤ b && b ≤ 57 then numberSkip bytes head (i + 1) dot
    else if b == 46 then
      if dot then .bad "more than one dot found in number"
      else match bytes[i + 1]? with
        | none => .unsure
        | some b2 =>
          if 48 ≤ b2 && b2 ≤ 57 then numberSkip bytes head (i + 1) true
          else .bad "missing digit after dot"
    else if b == 44 || b == 93 || b == 125 || b == 32 || b == 9 || b == 10 || b == 13 then
      if i == head then .unsure else .skipped i
    else .unsure
  else .unsure
termination_by bytes.size - i

def skipNumber : ReadM Unit := do
  let r ← get
  match numberSkip r.bytes r.head r.head false with
  | .skipped j => set { r with head := j }
  | .bad msg => report "validateNumber" msg
  | .unsure =>
    unreadByte
    if (← hasFailed) then return
    discard readDouble
    if (← hasFailed) then
      clearFault
      readBigFloat

def skipValue : Nat → ReadM Unit
  | 0 => pure ()
  | fuel + 1 => do
    let c ← nextToken
    if c == '"' then skipString
    else if c == 'n' then skipNull
    else if c == 't' then expectBytes "skipThreeBytes" ['r', 'u', 'e']
    else if c == 'f' then expectBytes "skipFourBytes" ['a', 'l', 's', 'e']
    else if c == '0' then unreadByte; discard (readFloat .single)
    else if c == '-' || ('1' ≤ c && c ≤ '9') then skipNumber
    else if c == '[' then unreadByte; readArrayWith (fun _ => skipValue fuel) ()
    else if c == '{' then unreadByte; readObjectWith (fun _ _ => skipValue fuel) ()
    else report "Skip" ("do not know how to skip: " ++ toString c.toNat)

def skip : ReadM Unit := do skipValue (← walkFuel)

end DruidQuery.Json.Reader
