import DruidQuery.Yaml.Event

namespace DruidQuery.Yaml

def Token.isOneOf (t : Token) (kinds : List TokenKind) : Bool := kinds.contains t.kind

def readDirectives : Nat → Bool → EventM Unit
  | 0, _ => throw (.failure "input too complex")
  | n + 1, versionSeen => do
    let t ← nextToken
    if t.kind == .versionDirective then
      if versionSeen then placeError "found duplicate %YAML directive" t.start
      if t.major ≠ 1 || t.minor ≠ 1 then placeError "found incompatible YAML document" t.start
      takeToken
      readDirectives n true
    else if t.kind == .tagDirective then
      if ((← get).handles.lookup t.value).isSome then
        placeError "found duplicate %TAG directive" t.start
      modify fun r => { r with handles := r.handles ++ [(t.value, t.suffix)] }
      takeToken
      readDirectives n versionSeen
    else
      modify fun r =>
        let defaults := [("!", "!"), ("!!", "tag:yaml.org,2002:")].filter fun (h, _) =>
          (r.handles.lookup h).isNone
        { r with handles := r.handles ++ defaults }

def skipDocumentEnds : Nat → EventM Token
  | 0 => throw (.failure "input too complex")
  | n + 1 => do
    let t ← nextToken
    if t.kind == .documentEnd then
      takeToken
      skipDocumentEnds n
    else return t

def streamStartEvent : EventM (Event × Mark) := do
  let t ← nextToken
  if t.kind != .streamStart then placeError "did not find expected <stream-start>" t.start
  goTo .implicitDocumentStart
  takeToken
  return (.streamStart, t.start)

def documentStartEvent (implicit : Bool) : EventM (Event × Mark) := do
  let fuel := (← get).tokens.fuel
  let t ← if implicit then nextToken else skipDocumentEnds fuel
  if implicit && !t.isOneOf [.versionDirective, .tagDirective, .documentStart, .streamEnd] then
    readDirectives fuel false
    pushProduction .documentEnd
    goTo .blockNode
    return (.documentStart, t.start)
  else if t.kind != .streamEnd then
    readDirectives fuel false
    let t3 ← nextToken
    if t3.kind != .documentStart then placeError "did not find expected <document start>" t3.start
    pushProduction .documentEnd
    goTo .documentContent
    takeToken
    return (.documentStart, t.start)
  else
    goTo .finished
    takeToken
    return (.streamEnd, t.start)

def documentContentEvent (node : EventM (Event × Mark)) : EventM (Event × Mark) := do
  let t ← nextToken
  if t.isOneOf [.versionDirective, .tagDirective, .documentStart, .documentEnd, .streamEnd] then
    popProduction
    return emptyScalar t.start
  else node

def documentEndEvent : EventM (Event × Mark) := do
  let t ← nextToken
  if t.kind == .documentEnd then takeToken
  modify fun r => { r with handles := [] }
  goTo .documentStart
  return (.documentEnd, t.start)

def resolveTag (start : Mark) (t : Token) : EventM String := do
  if t.value.isEmpty then return t.suffix
  match (← get).handles.lookup t.value with
  | some pre =>
    if (pre ++ t.suffix).isEmpty then grammarError start "found undefined tag handle" t.start
    return pre ++ t.suffix
  | none => grammarError start "found undefined tag handle" t.start

def nodeEvent (block indentless : Bool) : EventM (Event × Mark) := do
  let t ← nextToken
  if t.kind == .alias then
    popProduction
    takeToken
    return (.alias t.value, t.start)
  let start := t.start
  let (anchor, tagToken, t) ←
    if t.kind == .anchor then do
      takeToken
      let t2 ← nextToken
      if t2.kind == .tag then
        takeToken
        pure (some t.value, some t2, ← nextToken)
      else pure (some t.value, none, t2)
    else if t.kind == .tag then do
      takeToken
      let t2 ← nextToken
      if t2.kind == .anchor then
        takeToken
        pure (some t2.value, some t, ← nextToken)
      else pure (none, some t, t2)
    else pure (none, none, t)
  let tag ← match tagToken with
    | some tt => resolveTag start tt
    | none => pure ""
  if indentless && t.kind == .blockEntry then
    goTo .indentlessSequenceEntry
    return (.sequenceStart anchor tag, start)
  if t.kind == .scalar then
    popProduction
    takeToken
    return (.scalar anchor tag t.value t.style, start)
  if t.kind == .flowSequenceStart then
    goTo .flowSequenceFirstEntry
    return (.sequenceStart anchor tag, start)
  if t.kind == .flowMappingStart then
    goTo .flowMappingFirstKey
    return (.mappingStart anchor tag, start)
  if block && t.kind == .blockSequenceStart then
    goTo .blockSequenceFirstEntry
    return (.sequenceStart anchor tag, start)
  if block && t.kind == .blockMappingStart then
    goTo .blockMappingFirstKey
    return (.mappingStart anchor tag, start)
  if anchor.isSome || !tag.isEmpty then
    popProduction
    return (.scalar anchor tag "" .plain, start)
  grammarError start "did not find expected node content" t.start

def openCollection : EventM Unit := do
  pushStart (← nextToken).start
  takeToken

def blockSequenceEvent (first : Bool) : EventM (Event × Mark) := do
  if first then openCollection
  let t ← nextToken
  if t.kind == .blockEntry then
    takeToken
    let t2 ← nextToken
    if !t2.isOneOf [.blockEntry, .blockEnd] then
      pushProduction .blockSequenceEntry
      nodeEvent true false
    else
      goTo .blockSequenceEntry
      return emptyScalar t.stop
  else if t.kind == .blockEnd then
    popProduction
    discard popStart
    takeToken
    return (.sequenceEnd, t.start)
  else grammarError (← popStart) "did not find expected '-' indicator" t.start

def indentlessSequenceEvent : EventM (Event × Mark) := do
  let t ← nextToken
  if t.kind == .blockEntry then
    takeToken
    let t2 ← nextToken
    if !t2.isOneOf [.blockEntry, .key, .value, .blockEnd] then
      pushProduction .indentlessSequenceEntry
      nodeEvent true false
    else
      goTo .indentlessSequenceEntry
      return emptyScalar t.stop
  else
    popProduction
    return (.sequenceEnd, t.start)

def blockKeyEvent (first : Bool) : EventM (Event × Mark) := do
  if first then openCollection
  let t ← nextToken
  if t.kind == .key then
    takeToken
    let t2 ← nextToken
    if !t2.isOneOf [.key, .value, .blockEnd] then
      pushProduction .blockMappingValue
      nodeEvent true true
    else
      goTo .blockMappingValue
      return emptyScalar t.stop
  else if t.kind == .blockEnd then
    popProduction
    discard popStart
    takeToken
    return (.mappingEnd, t.start)
  else grammarError (← popStart) "did not find expected key" t.start

def blockValueEvent : EventM (Event × Mark) := do
  let t ← nextToken
  if t.kind == .value then
    takeToken
    let t2 ← nextToken
    if !t2.isOneOf [.key, .value, .blockEnd] then
      pushProduction .blockMappingKey
      nodeEvent true true
    else
      goTo .blockMappingKey
      return emptyScalar t.stop
  else
    goTo .blockMappingKey
    return emptyScalar t.start

def flowSequenceEvent (first : Bool) : EventM (Event × Mark) := do
  if first then openCollection
  let t ← nextToken
  let t ← if t.kind != .flowSequenceEnd && !first then
      if t.kind == .flowEntry then do
        takeToken
        nextToken
      else grammarError (← popStart) "did not find expected ',' or ']'" t.start
    else pure t
  if t.kind == .key then
    goTo .flowSequenceEntryMappingKey
    takeToken
    return (.mappingStart none "", t.start)
  else if t.kind != .flowSequenceEnd then
    pushProduction .flowSequenceEntry
    nodeEvent false false
  else
    popProduction
    discard popStart
    takeToken
    return (.sequenceEnd, t.start)

def pairKeyEvent : EventM (Event × Mark) := do
  let t ← nextToken
  if !t.isOneOf [.value, .flowEntry, .flowSequenceEnd] then
    pushProduction .flowSequenceEntryMappingValue
    nodeEvent false false
  else
    takeToken
    goTo .flowSequenceEntryMappingValue
    return emptyScalar t.stop

def pairValueEvent : EventM (Event × Mark) := do
  let t ← nextToken
  if t.kind == .value then
    takeToken
    let t2 ← nextToken
    if !t2.isOneOf [.flowEntry, .flowSequenceEnd] then
      pushProduction .flowSequenceEntryMappingEnd
      return ← nodeEvent false false
  goTo .flowSequenceEntryMappingEnd
  return emptyScalar t.start

def pairEndEvent : EventM (Event × Mark) := do
  let t ← nextToken
  goTo .flowSequenceEntry
  return (.mappingEnd, t.start)

def flowKeyEvent (first : Bool) : EventM (Event × Mark) := do
  if first then openCollection
  let t ← nextToken
  let t ← if t.kind != .flowMappingEnd && !first then
      if t.kind == .flowEntry then do
        takeToken
        nextToken
      else grammarError (← popStart) "did not find expected ',' or '\x7d'" t.start
    else pure t
  if t.kind == .key then
    takeToken
    let t2 ← nextToken
    if !t2.isOneOf [.value, .flowEntry, .flowMappingEnd] then
      pushProduction .flowMappingValue
      nodeEvent false false
    else
      goTo .flowMappingValue
      return emptyScalar t2.start
  else if t.kind != .flowMappingEnd then
    pushProduction .flowMappingEmptyValue
    nodeEvent false false
  else
    popProduction
    discard popStart
    takeToken
    return (.mappingEnd, t.start)

def flowValueEvent (empty : Bool) : EventM (Event × Mark) := do
  let t ← nextToken
  if empty then
    goTo .flowMappingKey
    return emptyScalar t.start
  if t.kind == .value then
    takeToken
    let t2 ← nextToken
    if !t2.isOneOf [.flowEntry, .flowMappingEnd] then
      pushProduction .flowMappingKey
      nodeEvent false false
    else
      goTo .flowMappingKey
      return emptyScalar t2.start
  else
    goTo .flowMappingKey
    return emptyScalar t.start

/-- The next event, with where it starts. -/
def nextEvent : EventM (Event × Mark) := do
  match (← get).production with
  | .streamStart => streamStartEvent
  | .implicitDocumentStart => documentStartEvent true
  | .documentStart => documentStartEvent false
  | .documentContent => documentContentEvent (nodeEvent true false)
  | .documentEnd => documentEndEvent
  | .blockNode => nodeEvent true false
  | .blockNodeOrIndentlessSequence => nodeEvent true true
  | .flowNode => nodeEvent false false
  | .blockSequenceFirstEntry => blockSequenceEvent true
  | .blockSequenceEntry => blockSequenceEvent false
  | .indentlessSequenceEntry => indentlessSequenceEvent
  | .blockMappingFirstKey => blockKeyEvent true
  | .blockMappingKey => blockKeyEvent false
  | .blockMappingValue => blockValueEvent
  | .flowSequenceFirstEntry => flowSequenceEvent true
  | .flowSequenceEntry => flowSequenceEvent false
  | .flowSequenceEntryMappingKey => pairKeyEvent
  | .flowSequenceEntryMappingValue => pairValueEvent
  | .flowSequenceEntryMappingEnd => pairEndEvent
  | .flowMappingFirstKey => flowKeyEvent true
  | .flowMappingKey => flowKeyEvent false
  | .flowMappingValue => flowValueEvent false
  | .flowMappingEmptyValue => flowValueEvent true
  | .finished => return (.streamEnd, (← get).tokens.mark)

end DruidQuery.Yaml
