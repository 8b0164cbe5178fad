import DruidQuery.Config
import DruidQuery.Yaml.Document
import DruidQuery.Time.Duration
import DruidQuery.Text.Quote
import DruidQuery.Text.Utf8
import DruidQuery.Text.Base64
import DruidQuery.Value.Coerce

namespace DruidQuery

open Yaml

inductive ConfigError where
  | invalid (message : String)
  | unhashableKey (typeName : String)
deriving DecidableEq, Repr

def ConfigError.message : ConfigError → String
  | .invalid m => m
  | .unhashableKey t => "runtime error: hash of unhashable type " ++ t

structure Decoding where
  config : Config
  reports : List String := []
  merged : Option (List String) := none
  active : List Nat := []
  steps : Nat := 0
  aliasedSteps : Nat := 0

abbrev DecodeM := StateT Decoding (Except ConfigError)

def addReport (r : String) : DecodeM Unit := modify fun d => { d with reports := d.reports ++ [r] }

def failDecoding {α : Type} (problem : String) : DecodeM α :=
  throw (.invalid ("yaml: " ++ problem))

def mismatch (n : Node) (target : String) : String :=
  let shown :=
    if n.tag == "!!seq" || n.tag == "!!map" then ""
    else
      let bytes := n.text.toUTF8.data.toList
      if bytes.length > 10 then " `" ++ Text.decodeLossy (bytes.take 7) ++ "...`"
      else " `" ++ n.text ++ "`"
  "line " ++ toString n.line ++ ": cannot unmarshal " ++ n.tag ++ shown ++ " into " ++ target

def flagWord (s : String) : Option Bool :=
  if ["y", "Y", "yes", "Yes", "YES", "on", "On", "ON"].contains s then some true
  else if ["n", "N", "no", "No", "NO", "off", "Off", "OFF"].contains s then some false
  else none

def duplicateKeys (entries : List (Node × Node)) : List String :=
  let keys := entries.map (·.1)
  keys.zipIdx.flatMap fun (a, i) =>
    (keys.drop (i + 1)).filterMap fun b =>
      if a.sameKey b then
        some ("line " ++ toString b.line ++ ": mapping key " ++ Text.quote b.text ++
          " already defined at line " ++ toString a.line)
      else none

def reportMismatch (n : Node) (target : String) : DecodeM Unit :=
  match n with
  | .mapping _ entries _ =>
    let dups := duplicateKeys entries
    if dups.isEmpty then addReport (mismatch n target) else dups.forM addReport
  | _ => addReport (mismatch n target)

def decodedScalar (value tag : String) : DecodeM Scalar := do
  if tag == "!!str" then return .str value
  match resolveTagged tag value with
  | .error problem => failDecoding problem
  | .ok (resolvedTag, r) =>
    if resolvedTag == "!!binary" then
      match Text.decodeBase64 value with
      | some bytes => return .str (Text.decodeLossy bytes)
      | none => failDecoding "!!binary value contains invalid base64 data"
    else return r

def allowedAliasShare (steps : Nat) : Float :=
  if steps ≤ 400000 then 0.99
  else if steps ≥ 4000000 then 0.10
  else 0.99 - 0.89 * ((steps - 400000).toFloat / 3600000.0)

def countStep : DecodeM Unit := do
  modify fun d => { d with
    steps := d.steps + 1,
    aliasedSteps := if d.active.isEmpty then d.aliasedSteps else d.aliasedSteps + 1 }
  let d ← get
  if d.aliasedSteps > 100 && d.steps > 1000 &&
      d.aliasedSteps.toFloat / d.steps.toFloat > allowedAliasShare d.steps then
    failDecoding "document contains excessive aliasing"

def throughAlias {α : Type} (doc : Document) (n : Node) (k : Node → DecodeM α) : DecodeM α :=
  match n with
  | .alias name slot _ => do
    if (← get).active.contains slot then
      failDecoding ("anchor '" ++ name ++ "' value contains itself")
    modify fun d => { d with active := slot :: d.active }
    countStep
    let r ← k (doc.target n)
    modify fun d => { d with active := d.active.erase slot }
    return r
  | _ => k n

def decodeNode {α : Type} (doc : Document) (n : Node) (k : Node → DecodeM α) : DecodeM α := do
  countStep
  throughAlias doc n k

def textSetting (n : Node) (old : String) : DecodeM String :=
  match n with
  | .scalar v tag _ _ => do
    match ← decodedScalar v tag with
    | .null => return old
    | .str s => return s
    | _ => return v
  | _ => do
    reportMismatch n "string"
    return old

def flagSetting (n : Node) (old : Option Bool) : DecodeM (Option Bool) :=
  match n with
  | .scalar v tag _ _ => do
    match ← decodedScalar v tag with
    | .null => return none
    | .bool b => return some b
    | .str s =>
      match flagWord s with
      | some b => return some b
      | none =>
        reportMismatch n "bool"
        return old
    | _ =>
      reportMismatch n "bool"
      return old
  | _ => do
    reportMismatch n "bool"
    return old

def intSetting (n : Node) (old : Option Int) : DecodeM (Option Int) :=
  match n with
  | .scalar v tag _ _ => do
    match ← decodedScalar v tag with
    | .null => return none
    | .int (some i) => return some i
    | .float x =>
      if x ≤ 9223372036854775808.0 then return some (truncateFloat x)
      else
        reportMismatch n "int"
        return old
    | _ =>
      reportMismatch n "int"
      return old
  | _ => do
    reportMismatch n "int"
    return old

def durationSetting (n : Node) (old : Int64) : DecodeM Int64 :=
  match n with
  | .scalar v tag _ _ => do
    match ← decodedScalar v tag with
    | .null => return old
    | .str s =>
      match Time.parseDuration s with
      | some d => return d
      | none =>
        reportMismatch n "time.Duration"
        return old
    | _ =>
      reportMismatch n "time.Duration"
      return old
  | _ => do
    reportMismatch n "time.Duration"
    return old

def settingNames : List String :=
  ["dataSource", "queryType", "granularity", "timeZone", "useCache", "populateCache", "timeout",
    "priority", "logLevel"]

def applySetting (name : String) (n : Node) : DecodeM Unit := do
  let c := (← get).config
  let c ← match name with
    | "dataSource" => pure { c with dataSource := ← textSetting n c.dataSource }
    | "queryType" => pure { c with queryType := ← textSetting n c.queryType }
    | "granularity" => pure { c with granularity := ← textSetting n c.granularity }
    | "timeZone" => pure { c with timeZone := ← textSetting n c.timeZone }
    | "useCache" => pure { c with useCache := ← flagSetting n c.useCache }
    | "populateCache" => pure { c with populateCache := ← flagSetting n c.populateCache }
    | "timeout" => pure { c with timeout := ← durationSetting n c.timeout }
    | "priority" => pure { c with priority := ← intSetting n c.priority }
    | "logLevel" => pure { c with logLevel := ← textSetting n c.logLevel }
    | _ => pure c
  modify fun d => { d with config := c }

def keyName (doc : Document) (key : Node) : DecodeM (Option String) :=
  decodeNode doc key fun k =>
    match k with
    | .scalar v tag _ _ => do
      match ← decodedScalar v tag with
      | .null => return none
      | .str s => return some s
      | _ => return some v
    | _ => do
      reportMismatch k "string"
      return none

def isMergeKey : Node → Bool
  | .scalar "<<" tag _ _ => tag == "!!merge"
  | _ => false

def isTextKey (doc : Document) (key : Node) : Bool :=
  let t := (doc.target key).tag
  t == "!!str" || t == "!!merge"

def mapTypeName (doc : Document) (entries : List (Node × Node)) : String :=
  if entries.all (isTextKey doc ·.1) then "map[string]interface \x7b\x7d"
  else "map[interface \x7b\x7d]interface \x7b\x7d"

inductive KeyMember where
  | text (s : String)
  | other
  | failed
deriving DecidableEq, Repr

mutual

def walkValue (doc : Document) : Nat → Node → DecodeM Bool
  | 0, _ => failDecoding "input too complex"
  | n + 1, node =>
    decodeNode doc node fun node =>
      match node with
      | .scalar v tag _ _ => do
        discard (decodedScalar v tag)
        return true
      | .sequence _ items _ => do
        items.forM fun item => discard (walkValue doc n item)
        return true
      | .mapping _ entries _ => do
        let dups := duplicateKeys entries
        if !dups.isEmpty then
          dups.forM addReport
          return false
        for (key, value) in entries do
          if !isMergeKey key then
            if ← walkValue doc n key then discard (walkValue doc n value)
        return true
      | .alias _ _ _ => return true

def keyMember (doc : Document) : Nat → Node → DecodeM KeyMember
  | 0, _ => failDecoding "input too complex"
  | n + 1, key =>
    decodeNode doc key fun k =>
      match k with
      | .scalar v tag _ _ => do
        match ← decodedScalar v tag with
        | .str s => return .text s
        | .timestamp => return .text v
        | _ => return .other
      | .sequence _ items _ => do
        items.forM fun item => discard (walkValue doc n item)
        throw (.unhashableKey "[]interface \x7b\x7d")
      | .mapping _ entries _ => do
        let dups := duplicateKeys entries
        if !dups.isEmpty then
          dups.forM addReport
          return .failed
        for (key, value) in entries do
          if !isMergeKey key then
            if (← keyMember doc n key) != .failed then discard (walkValue doc n value)
        throw (.unhashableKey (mapTypeName doc entries))
      | .alias _ _ _ => return .other

end

def wantMap : String := "map merge requires map or sequence of maps as the value"

def setEntries (doc : Document) (entries : List (Node × Node)) : DecodeM (Option Node) := do
  let mut names := (← get).merged
  modify fun d => { d with merged := none }
  let mut mergeValue : Option Node := none
  let mut done : List String := []
  for (key, value) in entries do
    if isMergeKey key then
      mergeValue := some value
      continue
    let some name ← keyName doc key | continue
    if let some ns := names then
      if ns.contains name then continue
      names := some (name :: ns)
    if settingNames.contains name then
      if done.contains name then
        addReport ("line " ++ toString key.line ++ ": field " ++ name ++
          " already set in type config.Config")
        continue
      done := name :: done
      decodeNode doc value (applySetting name)
  modify fun d => { d with merged := names }
  return mergeValue

mutual

def decodeConfig (doc : Document) : Nat → Node → DecodeM Unit
  | 0, _ => failDecoding "input too complex"
  | n + 1, node =>
    decodeNode doc node fun node =>
      match node with
      | .mapping _ entries _ => do
        let dups := duplicateKeys entries
        if !dups.isEmpty then dups.forM addReport
        else
          match ← setEntries doc entries with
          | some m => mergeInto doc n entries m
          | none => pure ()
      | .scalar v tag _ _ => do
        match ← decodedScalar v tag with
        | .null => pure ()
        | _ => reportMismatch node "config.Config"
      | _ => reportMismatch node "config.Config"

def mergeInto (doc : Document) : Nat → List (Node × Node) → Node → DecodeM Unit
  | 0, _, _ => failDecoding "input too complex"
  | n + 1, entries, m => do
    let saved := (← get).merged
    if saved.isNone then
      let mut names : List String := []
      for (key, _) in entries do
        if let .text s ← keyMember doc n key then names := s :: names
      modify fun d => { d with merged := some names }
    match m with
    | .mapping _ _ _ => decodeConfig doc n m
    | .alias _ _ _ =>
      if !(doc.target m).isMapping then failDecoding wantMap
      decodeConfig doc n m
    | .sequence _ items _ =>
      for item in items do
        if !(doc.target item).isMapping then failDecoding wantMap
        decodeConfig doc n item
    | _ => failDecoding wantMap
    modify fun d => { d with merged := saved }

end

def Config.ofDocument (doc : Option Document) (bound : Nat) : Except ConfigError Config :=
  match doc with
  | none => .ok {}
  | some d =>
    -- the document itself is the first step, its root the second
    match (do countStep; decodeConfig d bound d.root).run { config := {} } with
    | .error m => .error m
    | .ok ((), st) =>
      if st.reports.isEmpty then .ok st.config
      else .error (.invalid ("yaml: unmarshal errors:\n  " ++ "\n  ".intercalate st.reports))

/-- Reads defaults from a YAML document. -/
def Config.parse (source : String) : Except ConfigError Config :=
  match Document.read source with
  | .error e => .error (.invalid ("parse config: " ++ e.message))
  | .ok doc =>
    match Config.ofDocument doc (2 * source.length + 16) with
    | .error (.invalid m) => .error (.invalid ("parse config: " ++ m))
    | .error e => .error e
    | .ok c =>
      if c.timeout < 0 then .error (.invalid "parse config: timeout must not be negative")
      else .ok c

end DruidQuery
