import DruidQuery.Value
import DruidQuery.Names
import DruidQuery.Script

namespace DruidQuery

/-- A post-aggregation record. An absent child is `none`. -/
structure PostAggregation where
  type : String
  name : String := ""
  fn : String := ""
  func : String := ""
  fieldName : String := ""
  fieldNames : List String := []
  function : String := ""
  value : Value := .null
  fields : List (Option PostAggregation) := []
  field : Option PostAggregation := none
  numBuckets : Int := 0
  bucketSize : Float := 0
  offset : Option Float := none
  breaks : List Float := []
  probability : Option Float := none
  probabilities : List Float := []
  fieldNamesSpare : List String := []
  fieldsSpare : List (Option PostAggregation) := []
  breaksSpare : List Float := []
  probabilitiesSpare : List Float := []
deriving Inhabited

namespace PostAggregation

def histogramTypes : List String :=
  ["equalBuckets", "buckets", "customBuckets", "min", "max", "quantile", "quantiles"]

def knownTypes : List String :=
  ["fieldAccess", "constant", "arithmetic", "javascript", "hyperUniqueCardinality",
    "thetaSketchEstimate", "thetaSketchSetOp"] ++ histogramTypes

def arithmeticFns : List String := ["+", "-", "*", "/", "quotient"]

def setOperations : List String := ["UNION", "INTERSECT", "NOT"]

def fieldAccess (fieldName : String) : PostAggregation := { type := "fieldAccess", fieldName }

def constant (value : Value) : PostAggregation := { type := "constant", value }

def hyperUnique (fieldName : String) : PostAggregation :=
  { type := "hyperUniqueCardinality", fieldName }

def operand : Value → PostAggregation
  | .str s => fieldAccess s
  | v => constant v

def arithmetic (fn : String) (left right : Option PostAggregation) : PostAggregation :=
  { type := "arithmetic", fn, fields := [left, right] }

def script (f : Script.Function) : PostAggregation :=
  { type := "javascript", fieldNames := f.params, function := f.source }

def ofScript (src : String) : Except Script.Error PostAggregation :=
  script <$> Script.parse src

def thetaSketch (name fn : String) (fieldNames : List String) : PostAggregation :=
  let setOp : PostAggregation :=
    { type := "thetaSketchSetOp", name := name ++ "_sketch", func := fn
      fields := fieldNames.map fun f => some (fieldAccess f) }
  { type := "thetaSketchEstimate", name, field := some setOp }

def named (p : PostAggregation) (name : String) : PostAggregation := { p with name := name }

def label (p : PostAggregation) : String :=
  if p.name.isEmpty then p.type else p.type ++ ":" ++ p.name

mutual

/-- The plain text: a field access is its column, a constant its value, arithmetic on two
operands `(a + b)`; anything else its label. -/
def text : PostAggregation → String
  | p@⟨type, _, fn, _, fieldName, _, _, value, fields, _, _, _, _, _, _, _, _, _, _, _⟩ =>
    if type = "fieldAccess" then fieldName
    else if type = "constant" then value.text
    else if type = "arithmetic" then
      match textOfList fields with
      | [a, b] => "(" ++ a ++ " " ++ fn ++ " " ++ b ++ ")"
      | _ => p.label
    else p.label

def textOfChild : Option PostAggregation → String
  | none => "<nil>"
  | some p => text p

def textOfList : List (Option PostAggregation) → List String
  | [] => []
  | c :: cs => textOfChild c :: textOfList cs

end

def addRequired (acc : List String) (name : String) : List String :=
  if name.isEmpty then acc else appendNew acc [name]

mutual

def requiredInto (acc : List String) : PostAggregation → List String
  | ⟨type, _, _, _, fieldName, fieldNames, _, _, fields, field, _, _, _, _, _, _, _, _, _, _⟩ =>
    let acc := if type = "fieldAccess" then addRequired acc fieldName
      else if type = "javascript" then fieldNames.foldl addRequired acc
      else acc
    requiredOfChild (requiredOfList acc fields) field

def requiredOfChild (acc : List String) : Option PostAggregation → List String
  | none => acc
  | some p => requiredInto acc p

def requiredOfList (acc : List String) : List (Option PostAggregation) → List String
  | [] => acc
  | c :: cs => requiredOfList (requiredOfChild acc c) cs

end

def requiredFields (p : PostAggregation) : List String := requiredInto [] p

def floatsJson? (xs : List Float) : Option Json := Json.list? Value.floatJson xs

mutual

def toJson : PostAggregation → Json
  | ⟨type, name, fn, func, fieldName, fieldNames, function, value, fields, field, numBuckets,
      bucketSize, offset, breaks, probability, probabilities, _, _, _, _⟩ =>
    .record [("type", some (.string type)),
      ("name", Json.text? name),
      ("fn", Json.text? fn),
      ("func", Json.text? func),
      ("fieldName", Json.text? fieldName),
      ("fieldNames", Json.list? Json.string fieldNames),
      ("function", Json.text? function),
      ("value", value.toJson?),
      ("fields", if fields.isEmpty then none else some (.array (childrenJson fields))),
      ("field", childJson? field),
      ("numBuckets", Json.int? numBuckets),
      ("bucketSize", floatJson? bucketSize),
      ("offset", offset.map Value.floatJson),
      ("breaks", floatsJson? breaks),
      ("probability", probability.map Value.floatJson),
      ("probabilities", floatsJson? probabilities)]

def childJson? : Option PostAggregation → Option Json
  | none => none
  | some p => some (toJson p)

def childrenJson : List (Option PostAggregation) → List Json
  | [] => []
  | none :: rest => .null :: childrenJson rest
  | some p :: rest => toJson p :: childrenJson rest

end

def json? : Option PostAggregation → Json
  | none => .null
  | some p => toJson p

end PostAggregation

end DruidQuery
