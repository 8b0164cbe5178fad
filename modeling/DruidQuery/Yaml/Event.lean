import DruidQuery.Yaml.Token.Queue

namespace DruidQuery.Yaml

inductive Event where
  | streamStart
  | streamEnd
  | documentStart
  | documentEnd
  | alias (name : String)
  | scalar (anchor : Option String) (tag : String) (value : String) (style : ScalarStyle)
  | sequenceStart (anchor : Option String) (tag : String)
  | sequenceEnd
  | mappingStart (anchor : Option String) (tag : String)
  | mappingEnd
deriving Inhabited, Repr

inductive Production where
  | streamStart
  | implicitDocumentStart
  | documentStart
  | documentContent
  | documentEnd
  | blockNode
  | blockNodeOrIndentlessSequence
  | flowNode
  | blockSequenceFirstEntry
  | blockSequenceEntry
  | indentlessSequenceEntry
  | blockMappingFirstKey
  | blockMappingKey
  | blockMappingValue
  | flowSequenceFirstEntry
  | flowSequenceEntry
  | flowSequenceEntryMappingKey
  | flowSequenceEntryMappingValue
  | flowSequenceEntryMappingEnd
  | flowMappingFirstKey
  | flowMappingKey
  | flowMappingValue
  | flowMappingEmptyValue
  | finished
deriving DecidableEq, Repr, Inhabited

structure EventReader where
  tokens : Scanner
  production : Production := .streamStart
  pending : List Production := []
  starts : List Mark := []
  handles : List (String × String) := []
deriving Inhabited

abbrev EventM := StateT EventReader (Except YamlError)

def onTokens {α : Type} (step : ScanM α) : EventM α := fun r => do
  let (a, s) ← step.run r.tokens
  return (a, { r with tokens := s })

def nextToken : EventM Token := onTokens peekToken

def takeToken : EventM Unit := onTokens skipToken

def goTo (p : Production) : EventM Unit := modify fun r => { r with production := p }

def pushProduction (p : Production) : EventM Unit :=
  modify fun r => { r with pending := p :: r.pending }

def popProduction : EventM Unit := modify fun r =>
  match r.pending with
  | p :: rest => { r with production := p, pending := rest }
  | [] => r

def pushStart (m : Mark) : EventM Unit := modify fun r => { r with starts := m :: r.starts }

def popStart : EventM Mark := do
  let r ← get
  match r.starts with
  | m :: rest =>
    set { r with starts := rest }
    return m
  | [] => return {}

def grammarError {α : Type} (context : Mark) (problem : String) (found : Mark) : EventM α :=
  throw (.located false context.line found.line problem)

def placeError {α : Type} (problem : String) (found : Mark) : EventM α :=
  throw (.located false 0 found.line problem)

def emptyScalar (m : Mark) : Event × Mark := (.scalar none "" "" .plain, m)

end DruidQuery.Yaml
