import DruidQuery.Yaml.Token.Scalar
import DruidQuery.Yaml.Token.Tag

namespace DruidQuery.Yaml

def fetchStreamStart : ScanM Unit := do
  modify fun s => { s with indent := -1, keys := #[{}], keysByToken := [], keyAllowed := true,
                           started := true }
  let m := (← get).mark
  pushToken { kind := .streamStart, start := m, stop := m }

def fetchStreamEnd : ScanM Unit := do
  modify fun s =>
    if s.mark.column ≠ 0 then { s with mark := { s.mark with column := 0, line := s.mark.line + 1 } }
    else s
  unrollIndent (-1) (← get).mark
  removeSimpleKey
  allowKey false
  let m := (← get).mark
  pushToken { kind := .streamEnd, start := m, stop := m }

def fetchIndicator (kind : TokenKind) (width : Nat) : ScanM Unit := do
  let start := (← get).mark
  for _ in List.range width do skipChar
  pushToken { kind, start, stop := (← get).mark }

def fetchDirective : ScanM Unit := do
  unrollIndent (-1) (← get).mark
  removeSimpleKey
  allowKey false
  pushToken (← scanDirective)

def fetchDocumentIndicator (kind : TokenKind) : ScanM Unit := do
  unrollIndent (-1) (← get).mark
  removeSimpleKey
  allowKey false
  fetchIndicator kind 3

def fetchFlowCollectionStart (kind : TokenKind) : ScanM Unit := do
  saveSimpleKey
  increaseFlowLevel
  allowKey true
  fetchIndicator kind 1

def fetchFlowCollectionEnd (kind : TokenKind) : ScanM Unit := do
  removeSimpleKey
  decreaseFlowLevel
  allowKey false
  fetchIndicator kind 1

def fetchFlowEntry : ScanM Unit := do
  removeSimpleKey
  allowKey true
  fetchIndicator .flowEntry 1

def fetchBlockEntry : ScanM Unit := do
  let s ← get
  if s.flowLevel == 0 then
    if !s.keyAllowed then scanError s.mark "block sequence entries are not allowed in this context"
    rollIndent s.mark.column none .blockSequenceStart s.mark
  removeSimpleKey
  allowKey true
  fetchIndicator .blockEntry 1

def fetchKey : ScanM Unit := do
  let s ← get
  if s.flowLevel == 0 then
    if !s.keyAllowed then scanError s.mark "mapping keys are not allowed in this context"
    rollIndent s.mark.column none .blockMappingStart s.mark
  removeSimpleKey
  allowKey ((← get).flowLevel == 0)
  fetchIndicator .key 1

def fetchValue : ScanM Unit := do
  let s ← get
  let i := s.keys.size - 1
  let (valid, k) ← checkKey (s.keys.getD i {})
  modify fun s => { s with keys := s.keys.setIfInBounds i k }
  if valid then
    insertToken (k.tokenNumber - s.parsed) { kind := .key, start := k.mark, stop := k.mark }
    rollIndent k.mark.column (some k.tokenNumber) .blockMappingStart k.mark
    modify fun s => { s with
      keys := s.keys.setIfInBounds i { k with possible := false },
      keysByToken := s.keysByToken.filter (·.1 ≠ k.tokenNumber) }
    allowKey false
  else
    let s ← get
    if s.flowLevel == 0 then
      if !s.keyAllowed then scanError s.mark "mapping values are not allowed in this context"
      rollIndent s.mark.column none .blockMappingStart s.mark
    allowKey (s.flowLevel == 0)
  fetchIndicator .value 1

def fetchAnchor (kind : TokenKind) : ScanM Unit := do
  saveSimpleKey
  allowKey false
  pushToken (← scanAnchor kind)

def fetchTag : ScanM Unit := do
  saveSimpleKey
  allowKey false
  pushToken (← scanTag)

def fetchBlockScalar (literal : Bool) : ScanM Unit := do
  removeSimpleKey
  allowKey true
  pushToken (← scanBlockScalar literal)

def fetchFlowScalar (single : Bool) : ScanM Unit := do
  saveSimpleKey
  allowKey false
  pushToken (← scanFlowScalar single)

def fetchPlainScalar : ScanM Unit := do
  saveSimpleKey
  allowKey false
  pushToken (← scanPlainScalar)

def startsPlain (s : Scanner) : Bool :=
  let c := s.ahead 0
  let indicator := ['-', '?', ':', ',', '[', ']', '{', '}', '#', '&', '*', '!', '|', '>', '\'',
    '"', '%', '@', '`'].contains c
  !(isBlankOrEnd c || indicator) || (c = '-' && !isBlank (s.ahead 1)) ||
    (s.flowLevel == 0 && (c = '?' || c = ':') && !isBlankOrEnd (s.ahead 1))

def fetchContent : ScanM Unit := do
  let s ← get
  let c := s.ahead 0
  let next := s.ahead 1
  if c = '[' then fetchFlowCollectionStart .flowSequenceStart
  else if c = '{' then fetchFlowCollectionStart .flowMappingStart
  else if c = ']' then fetchFlowCollectionEnd .flowSequenceEnd
  else if c = '}' then fetchFlowCollectionEnd .flowMappingEnd
  else if c = ',' then fetchFlowEntry
  else if c = '-' && isBlankOrEnd next then fetchBlockEntry
  else if c = '?' && (s.flowLevel > 0 || isBlankOrEnd next) then fetchKey
  else if c = ':' && (s.flowLevel > 0 || isBlankOrEnd next) then fetchValue
  else if c = '*' then fetchAnchor .alias
  else if c = '&' then fetchAnchor .anchor
  else if c = '!' then fetchTag
  else if c = '|' && s.flowLevel == 0 then fetchBlockScalar true
  else if c = '>' && s.flowLevel == 0 then fetchBlockScalar false
  else if c = '\'' then fetchFlowScalar true
  else if c = '"' then fetchFlowScalar false
  else if startsPlain s then fetchPlainScalar
  else scanError s.mark "found character that cannot start any token"

def atDocumentMarker (s : Scanner) (c : Char) : Bool :=
  s.mark.column == 0 && s.ahead 0 = c && s.ahead 1 = c && s.ahead 2 = c && isBlankOrEnd (s.ahead 3)

/-- Scans the next token. A comment after a token on its line is skipped with it, but not after
`-`. -/
def fetchNextToken : ScanM Unit := do
  if !(← get).started then
    fetchStreamStart
    return
  cache 1
  let scanMark := (← get).mark
  scanToNextToken (← get).fuel
  unrollIndent ((← get).mark.column) scanMark
  cache 4
  let s ← get
  let c := s.ahead 0
  if isEnd c then fetchStreamEnd
  else if s.mark.column == 0 && c = '%' then fetchDirective
  else if atDocumentMarker s '-' then fetchDocumentIndicator .documentStart
  else if atDocumentMarker s '.' then fetchDocumentIndicator .documentEnd
  else
    fetchContent
    if ((← get).queue.getLast?.map (·.kind)) != some .blockEntry then skipLineComment

def queueReady : ScanM Bool := do
  let s ← get
  if s.queue.length < 3 then return false
  match s.keysByToken.lookup s.parsed with
  | none => return true
  | some i =>
    match s.keys[i]? with
    | none => return true
    | some k =>
      let (valid, k) ← checkKey k
      modify fun s => { s with keys := s.keys.setIfInBounds i k }
      return !valid

def fetchMoreTokens : Nat → ScanM Unit
  | 0 => throw (.failure "input too complex")
  | n + 1 => do
    if ← queueReady then
      modify fun s => { s with available := true }
    else
      fetchNextToken
      fetchMoreTokens n

def peekToken : ScanM Token := do
  let s ← get
  if !s.available then fetchMoreTokens (2 * s.input.size + 16)
  match (← get).queue.head? with
  | some t => return t
  | none => throw (.failure "input too complex")

def skipToken : ScanM Unit := modify fun s =>
  match s.queue with
  | t :: rest =>
    { s with available := false, parsed := s.parsed + 1, queue := rest,
             ended := t.kind == .streamEnd }
  | [] => s

end DruidQuery.Yaml
