import DruidQuery.Filter.Json
import DruidQuery.Text.Case
import DruidQuery.Text.Classes

namespace DruidQuery

/-- An aggregation record. -/
structure Aggregation where
  type : String
  name : String := ""
  fieldName : String := ""
  fieldNames : Option (List String) := none
  fnAggregate : String := ""
  fnCombine : String := ""
  fnReset : String := ""
  byRow : Option Bool := none
  filter : Option Filter := none
  aggregator : Option Aggregation := none
  fieldNamesSpare : List String := []
deriving Inhabited

namespace Aggregation

def knownTypes : List String :=
  ["count", "longSum", "doubleSum", "min", "max", "javascript", "cardinality", "hyperUnique",
    "doubleFirst", "doubleLast", "longFirst", "longLast", "floatFirst", "floatLast",
    "stringFirst", "stringLast", "thetaSketch", "approxHistogramFold", "filtered"]

def columnTypes : List String :=
  ["count", "longSum", "doubleSum", "min", "max", "hyperUnique",
    "doubleFirst", "doubleLast", "longFirst", "longLast", "floatFirst", "floatLast",
    "stringFirst", "stringLast", "thetaSketch", "approxHistogramFold"]

def camelize (s : String) : String :=
  if !s.contains '_' then s
  else
    let step (acc : List Char × Bool × Bool) (c : Char) : List Char × Bool × Bool :=
      let (out, upper, first) := acc
      if c = '_' then (out, !first, false)
      else if upper then (Text.upperToAscii c :: out, false, false)
      else (c :: out, false, false)
    String.ofList (s.toList.foldl step ([], false, true)).1.reverse

def parseType (s : String) : Except String String :=
  let t := camelize (Text.trimSpace s)
  if knownTypes.contains t then .ok t
  else .error ("unknown aggregation type " ++ Text.quote s)

def ofType (type metric : String) : Aggregation := { type, name := metric, fieldName := metric }

def cardinality (name : String) (dimensions : Option (List String)) (byRow : Bool) : Aggregation :=
  { type := "cardinality", name, fieldNames := dimensions, byRow := some byRow }

def javascript (name : String) (columns : Option (List String)) (aggregate combine reset : String) :
    Aggregation :=
  { type := "javascript", name, fieldNames := columns, fnAggregate := aggregate,
    fnCombine := combine, fnReset := reset }

def thetaSketch (metric name : String) : Aggregation :=
  { type := "thetaSketch", name, fieldName := metric }

def filtered (metric name type : String) (f : Option Filter) : Aggregation :=
  { type := "filtered", filter := f, aggregator := some { type, name, fieldName := metric } }

def approxHistogramFold (metric : String) : Aggregation :=
  { type := "approxHistogramFold", name := "raw_" ++ metric, fieldName := metric }

def outputName : Aggregation → String
  | ⟨type, name, _, _, _, _, _, _, _, aggregator, _⟩ =>
    if name.isEmpty && type = "filtered" then
      match aggregator with
      | some inner => outputName inner
      | none => ""
    else name

def toJson : Aggregation → Json
  | ⟨type, name, fieldName, fieldNames, fnAggregate, fnCombine, fnReset, byRow, filter,
      aggregator, _⟩ =>
    .record [("type", some (.string type)),
      ("name", Json.text? name),
      ("fieldName", Json.text? fieldName),
      ("fieldNames", Json.list? Json.string (fieldNames.getD [])),
      ("fnAggregate", Json.text? fnAggregate),
      ("fnCombine", Json.text? fnCombine),
      ("fnReset", Json.text? fnReset),
      ("byRow", byRow.map Json.bool),
      ("filter", filter.map Filter.toJson),
      ("aggregator", match aggregator with
        | some inner => some (toJson inner)
        | none => none)]

def json? : Option Aggregation → Json
  | none => .null
  | some a => a.toJson

end Aggregation

end DruidQuery
