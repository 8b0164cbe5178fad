import DruidQuery.Json.Reader.Value

namespace DruidQuery.Json.Reader

structure Member (α : Type) where
  key : String
  label : String
  read : α → ReadM α

def Member.readInto {α : Type} (m : Member α) (x : α) : ReadM α := do
  let x ← m.read x
  wrap (m.label ++ ": ")
  pure x

def quickNames {α : Type} (members : List (Member α)) : Bool :=
  members.length ≤ 10 && members.all fun m => Text.lowerText m.key == m.key

def readNamedMember {α : Type} (members : List (Member α)) (x : α) : ReadM α := do
  let name ← readString
  let found := members.find? fun m => Text.lowerText m.key == Text.lowerText name
  let c ← nextToken
  if c != ':' then report "ReadObject" ("expect : after object field, but found " ++ shown c)
  match found with
  | some m => m.readInto x
  | none => skip; pure x

def namedMembers {α : Type} (members : List (Member α)) : Nat → α → ReadM (Char × α)
  | 0, x => return (← nextToken, x)
  | n + 1, x => do
    let x ← readNamedMember members x
    let c ← nextToken
    if c == ',' then namedMembers members n x else return (c, x)

def quickMembers {α : Type} (members : List (Member α)) : Nat → α → ReadM α
  | 0, x => pure x
  | n + 1, x => do
    let key? ← readFieldKey
    let x ← match key?.bind fun key => members.find? (·.key == key) with
      | some m => m.readInto x
      | none => do skip; pure x
    if ← isObjectEnd then pure x else quickMembers members n x

/-- Reads a record named `typeName` into `x`. `null` and `{}` leave it as it is. -/
def readRecord {α : Type} (typeName : String) (members : List (Member α)) (x : α) : ReadM α := do
  if !(← readObjectStart) then return x
  let fuel ← walkFuel
  if quickNames members then
    let x ← quickMembers members fuel x
    wrap (typeName ++ ".")
    return x
  else
    let (last, x) ← namedMembers members fuel x
    wrap (typeName ++ ".")
    if last != '}' then report "struct Decode" ("expect \x7d, but found " ++ shown last)
    return x

def readOptional {α : Type} (zero : α) (read : α → ReadM α) (old : Option α) :
    ReadM (Option α) := do
  if ← readNil then return none
  return some (← read (old.getD zero))

def readUnlessNull {α : Type} (read : ReadM α) (old : α) : ReadM α := do
  if ← readNil then return old
  read

def grownRoom (room : Nat) : Nat :=
  if room = 0 then 1 else if room < 1024 then 2 * room else room + room / 4

def makeRoom {α : Type} (zero : α) (store : Array α) (i : Nat) : Array α :=
  if i < store.size then store
  else store.extract 0 i ++ Array.replicate (grownRoom store.size - i) zero

def readElement {α : Type} (zero : α) (read : α → ReadM α) (acc : Array α × Nat) :
    ReadM (Array α × Nat) := do
  let store := makeRoom zero acc.1 acc.2
  let x ← read (store.getD acc.2 zero)
  return (store.setIfInBounds acc.2 x, acc.2 + 1)

/-- Reads a list named `typeName` into the storage an earlier reading left: the list `old` and the
elements `spare` past its end. Gives the list and the elements past its new end. `null` is none
with no storage, `[]` an empty list with none; a value that is not a list keeps the old one. -/
def readSlice {α : Type} (typeName : String) (zero : α) (read : α → ReadM α)
    (old : Option (List α)) (spare : List α) : ReadM (Option (List α) × List α) := do
  let result ← (do
    let c ← nextToken
    if c == 'n' then skipNull; return (none, [])
    if c != '[' then
      report "decode slice" ("expect [ or n, but found " ++ shown c); return (old, spare)
    if (← nextToken) == ']' then return (some [], [])
    unreadByte
    let first ← readElement zero read ((old.getD [] ++ spare).toArray, 0)
    let (last, (store, n)) ← afterCommas (readElement zero read) (← walkFuel) first
    if last != ']' then report "decode slice" ("expect ], but found " ++ shown last)
    return (some (store.extract 0 n).toList, (store.extract n store.size).toList) :
      ReadM (Option (List α) × List α))
  wrap (typeName ++ ": ")
  return result

def readPlainSlice {α : Type} (typeName : String) (zero : α) (read : α → ReadM α)
    (old spare : List α) : ReadM (List α × List α) := do
  let (items, spare) ← readSlice typeName zero read (some old) spare
  return (items.getD [], spare)

def readStrings (old spare : List String) : ReadM (List String × List String) :=
  readPlainSlice "[]string" "" (fun _ => readString) old spare

def readDoubles (old spare : List Float) : ReadM (List Float × List Float) :=
  readPlainSlice "[]float64" 0 (readUnlessNull readDouble) old spare

def readFlag (old : Option Bool) : ReadM (Option Bool) :=
  readOptional false (readUnlessNull readBool) old

def readOptionalInt (old : Option Int) : ReadM (Option Int) :=
  readOptional 0 (readUnlessNull readInt64) old

def readOptionalRecord {α : Type} (typeName : String) (zero : α) (members : List (Member α))
    (old : Option α) : ReadM (Option α) :=
  readOptional zero (readRecord typeName members) old

def setEntry {β : Type} (entries : List (String × β)) (name : String) (v : β) : List (String × β) :=
  if entries.any (·.1 == name) then entries.map fun e => if e.1 == name then (name, v) else e
  else entries ++ [(name, v)]

def intEntries : Nat → List (String × Int) → ReadM (List (String × Int))
  | 0, acc => pure acc
  | n + 1, acc => do
    let name ← readString
    let c ← nextToken
    if c != ':' then
      report "ReadMapCB" ("expect : after object field, but found " ++ shown c); return acc
    let v ← readUnlessNull readInt64 0
    let acc := setEntry acc name v
    let c ← nextToken
    if c == ',' then intEntries n acc
    else
      if c != '}' then report "ReadMapCB" ("expect \x7d, but found " ++ shown c)
      return acc

def readIntDict (old : List (String × Int)) : ReadM (List (String × Int)) := do
  let c ← nextToken
  if c == 'n' then skipNull; return []
  if c != '{' then report "ReadMapCB" ("expect \x7b or n, but found " ++ shown c); return old
  if (← nextToken) == '}' then return old
  unreadByte
  intEntries (← walkFuel) old

def readWhole {α : Type} (read : ReadM α) (bytes : Array UInt8) : Except String α :=
  let whole : ReadM α := do
    let x ← read
    if (← nextToken) != '\x00' then report "Unmarshal" "there are bytes left after unmarshal"
    pure x
  let (x, r) := whole.run (Reader.ofBytes bytes)
  match r.failure? with
  | some m => .error m
  | none => .ok x

end DruidQuery.Json.Reader
