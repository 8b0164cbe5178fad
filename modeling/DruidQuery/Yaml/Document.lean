import DruidQuery.Yaml.Event.Grammar
import DruidQuery.Yaml.Node
import DruidQuery.Yaml.Scalar

namespace DruidQuery.Yaml

structure Composer where
  events : EventReader
  lookahead : Option (Event × Mark) := none
  anchors : List (String × Nat) := []
  anchored : Array Node := #[]
deriving Inhabited

abbrev ComposeM := StateT Composer (Except YamlError)

def peekEvent : ComposeM (Event × Mark) := do
  let c ← get
  match c.lookahead with
  | some e => return e
  | none =>
    let (e, r) ← nextEvent.run c.events
    set { c with events := r, lookahead := some e }
    return e

def takeEvent : ComposeM (Event × Mark) := do
  let e ← peekEvent
  modify fun c => { c with lookahead := none }
  return e

def nodeTag (written default : String) (value : Option String) : String :=
  if written ≠ "" && written ≠ "!" then shortTag written
  else if default ≠ "" then default
  else match value with
    | some v => (resolvePlain true v).tag
    | none => ""

def reserveAnchor : Option String → ComposeM (Option Nat)
  | none => pure none
  | some name => do
    let c ← get
    let slot := c.anchored.size
    set { c with anchored := c.anchored.push default, anchors := (name, slot) :: c.anchors }
    return some slot

def fillAnchor (slot : Option Nat) (node : Node) : ComposeM Unit :=
  match slot with
  | some i => modify fun c => { c with anchored := c.anchored.setIfInBounds i node }
  | none => pure ()

def tooComplex : YamlError := .failure "input too complex"

mutual

def composeNode : Nat → ComposeM Node
  | 0 => throw tooComplex
  | n + 1 => do
    let (e, m) ← takeEvent
    let line := m.line + 1
    match e with
    | .alias name =>
      match (← get).anchors.lookup name with
      | some slot => return .alias name slot line
      | none => throw (.failure ("unknown anchor '" ++ name ++ "' referenced"))
    | .scalar anchor tag value style =>
      let default := if style == .plain then (if value == "<<" then "!!merge" else "") else "!!str"
      let node := Node.scalar value (nodeTag tag default (some value)) style line
      fillAnchor (← reserveAnchor anchor) node
      return node
    | .sequenceStart anchor tag =>
      let slot ← reserveAnchor anchor
      let node := Node.sequence (nodeTag tag "!!seq" none) (← composeItems n []) line
      fillAnchor slot node
      return node
    | .mappingStart anchor tag =>
      let slot ← reserveAnchor anchor
      let node := Node.mapping (nodeTag tag "!!map" none) (← composeEntries n []) line
      fillAnchor slot node
      return node
    | _ => throw (.failure "unexpected event")

def composeItems : Nat → List Node → ComposeM (List Node)
  | 0, _ => throw tooComplex
  | n + 1, acc => do
    match (← peekEvent).1 with
    | .sequenceEnd =>
      discard takeEvent
      return acc.reverse
    | _ =>
      let item ← composeNode n
      composeItems n (item :: acc)

def composeEntries : Nat → List (Node × Node) → ComposeM (List (Node × Node))
  | 0, _ => throw tooComplex
  | n + 1, acc => do
    match (← peekEvent).1 with
    | .mappingEnd =>
      discard takeEvent
      return acc.reverse
    | _ =>
      let key ← composeNode n
      let value ← composeNode n
      composeEntries n ((key, value) :: acc)

end

def composeFirst : ComposeM (Option Node) := do
  discard takeEvent
  match (← peekEvent).1 with
  | .streamEnd => return none
  | _ =>
    discard takeEvent
    let root ← composeNode (16 * (← get).events.tokens.input.size + 64)
    discard takeEvent
    return some root

/-- Reads the first document of a YAML text, or none when it has no document. -/
def Document.read (text : String) : Except YamlError (Option Document) :=
  let scanner : Scanner := match text.toList with
    | [] => { input := #['\n'] }
    | c :: rest =>
      if c.toNat = 0xFEFF then { input := rest.toArray, lead := 3 }
      else { input := (c :: rest).toArray }
  match composeFirst.run { events := { tokens := scanner } } with
  | .error e => .error e
  | .ok (none, _) => .ok none
  | .ok (some root, c) => .ok (some { root, anchored := c.anchored })

end DruidQuery.Yaml
