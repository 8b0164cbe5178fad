import DruidQuery.Yaml.Token

namespace DruidQuery.Yaml

structure SimpleKey where
  possible : Bool := false
  required : Bool := false
  tokenNumber : Nat := 0
  mark : Mark := {}
deriving Inhabited, Repr

/-- The state of the scanner. -/
structure Scanner where
  input : Array Char
  lead : Nat := 0
  checked : Nat := 0
  mark : Mark := {}
  queue : List Token := []
  parsed : Nat := 0
  available : Bool := false
  indent : Int := -1
  indents : List Int := []
  keyAllowed : Bool := false
  keys : Array SimpleKey := #[]
  keysByToken : List (Nat × Nat) := []
  flowLevel : Nat := 0
  started : Bool := false
  ended : Bool := false
  newlines : Nat := 0
deriving Inhabited

abbrev ScanM := StateT Scanner (Except YamlError)

namespace Scanner

def ofText (text : String) : Scanner := { input := text.toList.toArray }

def ahead (s : Scanner) (k : Nat) : Char := s.input.getD (s.mark.index + k) (Char.ofNat 0)

def fuel (s : Scanner) : Nat := s.input.size - s.mark.index + 2

def nextNumber (s : Scanner) : Nat := s.parsed + s.queue.length

def advance (s : Scanner) : Scanner :=
  { s with
    mark := { s.mark with index := s.mark.index + 1, column := s.mark.column + 1 },
    newlines := if isBlank (s.ahead 0) then s.newlines else 0 }

def advanceLine (s : Scanner) : Scanner :=
  let width := if s.ahead 0 = '\r' && s.ahead 1 = '\n' then 2 else 1
  if isBreak (s.ahead 0) then
    { s with mark := { index := s.mark.index + width, line := s.mark.line + 1, column := 0 },
             newlines := s.newlines + 1 }
  else s

end Scanner

def charsWithin : List Char → Nat → Nat
  | [], _ => 0
  | c :: rest, room => if c.utf8Size ≤ room then charsWithin rest (room - c.utf8Size) + 1 else 0

def chunkBytes : Nat := 512

def Scanner.nextChunk (s : Scanner) : Nat :=
  let room := if s.checked = 0 then chunkBytes - s.lead else chunkBytes
  charsWithin (s.input.extract s.checked (s.checked + room)).toList room

def readChunks (upto : Nat) : Nat → ScanM Unit
  | 0 => pure ()
  | n + 1 => do
    let s ← get
    if upto < s.checked || s.checked ≥ s.input.size then return
    let count := s.nextChunk
    if (s.input.extract s.checked (s.checked + count)).all isAllowedChar then
      set { s with checked := s.checked + count }
      readChunks upto n
    else throw (.failure "control characters are not allowed")

def cache (n : Nat) : ScanM Unit := do
  let s ← get
  if s.mark.index + n > s.checked then readChunks (s.mark.index + n - 1) (s.input.size + 1)

def peekChar (k : Nat) : ScanM Char := do
  cache (k + 1)
  return (← get).ahead k

def skipChar : ScanM Unit := do
  cache 1
  modify Scanner.advance

def skipLine : ScanM Unit := do
  cache 2
  modify Scanner.advanceLine

def readChar (acc : String) : ScanM String := do
  let c ← peekChar 0
  skipChar
  return acc.push c

def readLine (acc : String) : ScanM String := do
  let c ← peekChar 0
  if c = '\r' || c = '\n' || c.toNat = 0x85 then
    skipLine
    return acc.push '\n'
  else if c.toNat = 0x2028 || c.toNat = 0x2029 then
    skipLine
    return acc.push c
  else return acc

def scanError {α : Type} (context : Mark) (problem : String) : ScanM α := do
  throw (.located true context.line (← get).mark.line problem)

def pushToken (t : Token) : ScanM Unit := modify fun s => { s with queue := s.queue ++ [t] }

def insertToken (k : Nat) (t : Token) : ScanM Unit :=
  modify fun s => { s with queue := s.queue.take k ++ t :: s.queue.drop k }

def allowKey (b : Bool) : ScanM Unit := modify fun s => { s with keyAllowed := b }

def removeSimpleKey : ScanM Unit := do
  let s ← get
  match s.keys.back? with
  | none => pure ()
  | some k =>
    if k.possible then
      if k.required then scanError k.mark "could not find expected ':'"
      set { s with
        keys := s.keys.pop.push { k with possible := false },
        keysByToken := s.keysByToken.filter (·.1 ≠ k.tokenNumber) }

def saveSimpleKey : ScanM Unit := do
  let s ← get
  if s.keyAllowed then
    let key : SimpleKey :=
      { possible := true, required := s.flowLevel == 0 && s.indent == (s.mark.column : Int),
        tokenNumber := s.nextNumber, mark := s.mark }
    removeSimpleKey
    modify fun s => { s with
      keys := s.keys.pop.push key,
      keysByToken := (key.tokenNumber, s.keys.size - 1) :: s.keysByToken.filter (·.1 ≠ key.tokenNumber) }

def checkKey (k : SimpleKey) : ScanM (Bool × SimpleKey) := do
  if !k.possible then return (false, k)
  let s ← get
  if k.mark.line < s.mark.line || k.mark.index + 1024 < s.mark.index then
    if k.required then scanError k.mark "could not find expected ':'"
    return (false, { k with possible := false })
  return (true, k)

def increaseFlowLevel : ScanM Unit := do
  modify fun s => { s with keys := s.keys.push { mark := s.mark }, flowLevel := s.flowLevel + 1 }
  let s ← get
  if s.flowLevel > 10000 then scanError s.mark "exceeded max depth of 10000"

def decreaseFlowLevel : ScanM Unit := modify fun s =>
  if s.flowLevel > 0 then
    let last := (s.keys.back?.map (·.tokenNumber)).getD 0
    { s with flowLevel := s.flowLevel - 1, keys := s.keys.pop,
             keysByToken := s.keysByToken.filter (·.1 ≠ last) }
  else s

def rollIndent (column : Int) (number : Option Nat) (kind : TokenKind) (mark : Mark) :
    ScanM Unit := do
  let s ← get
  if s.flowLevel == 0 && s.indent < column then
    set { s with indents := s.indent :: s.indents, indent := column }
    if s.indents.length + 1 > 10000 then
      scanError ((s.keys.back?.map (·.mark)).getD s.mark) "exceeded max depth of 10000"
    let t : Token := { kind, start := mark, stop := mark }
    match number with
    | some n => insertToken (n - s.parsed) t
    | none => pushToken t

def unrollLoop (column : Int) (mark : Mark) : Nat → ScanM Unit
  | 0 => pure ()
  | n + 1 => do
    let s ← get
    if s.indent > column then
      match s.indents with
      | i :: rest =>
        let t : Token := { kind := .blockEnd, start := mark, stop := mark }
        set { s with indent := i, indents := rest, queue := s.queue ++ [t] }
        unrollLoop column mark n
      | [] => pure ()

def unrollIndent (column : Int) (scanMark : Mark) : ScanM Unit := do
  let s ← get
  if s.flowLevel == 0 then
    unrollLoop column { scanMark with index := scanMark.index - 1 } (s.indents.length + 1)

def skipToBreak : Nat → ScanM Unit
  | 0 => pure ()
  | n + 1 => do
    if !isBreakOrEnd (← peekChar 0) then
      skipChar
      skipToBreak n

def skipTo (seen : Nat) : Nat → ScanM Unit
  | 0 => pure ()
  | n + 1 => do
    let s ← get
    if s.mark.index < seen && !isEnd (s.ahead 0) then
      if isBreak (s.ahead 0) then skipLine else skipChar
      skipTo seen n

def nextContent (s : Scanner) (k : Nat) : Nat → Option Nat
  | 0 => none
  | n + 1 =>
    if k ≥ 512 then none
    else if isBlank (s.ahead k) || isBreak (s.ahead k) then nextContent s (k + 1) n
    else some k

def skipComments : Nat → ScanM Unit
  | 0 => pure ()
  | n + 1 => do
    skipToBreak (← get).fuel
    let s ← get
    match nextContent s 1 513 with
    | some k =>
      if s.ahead k = '#' then
        skipTo (s.mark.index + k) s.fuel
        skipComments n
    | none => pure ()

def scanToNextToken : Nat → ScanM Unit
  | 0 => pure ()
  | n + 1 => do
    let s ← get
    if s.mark.column == 0 && (s.ahead 0).toNat == 0xFEFF then skipChar
    let rec blanks : Nat → ScanM Unit
      | 0 => pure ()
      | m + 1 => do
        let s ← get
        let c := s.ahead 0
        if c = ' ' || ((s.flowLevel > 0 || !s.keyAllowed) && c = '\t') then
          skipChar
          blanks m
    blanks (← get).fuel
    if (← peekChar 0) = '#' then skipComments (← get).fuel
    if isBreak (← peekChar 0) then
      skipLine
      if (← get).flowLevel == 0 then allowKey true
      scanToNextToken n

def skipLineComment : ScanM Unit := do
  let s ← get
  if s.newlines == 0 then
    match (List.range 512).find? (fun k => !isBlank (s.ahead k)) with
    | some k =>
      if s.ahead k = '#' then
        skipTo (s.mark.index + k) s.fuel
        skipToBreak (← get).fuel
    | none => pure ()

end DruidQuery.Yaml
