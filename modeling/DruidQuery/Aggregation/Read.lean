import DruidQuery.Aggregation.Basic
import DruidQuery.Filter.Read

namespace DruidQuery.Aggregation

open Json (ReadM)
open Json.Reader

def blank : Aggregation := { type := "" }

def members (child : Aggregation → ReadM Aggregation) : List (Member Aggregation) := [
  ⟨"type", "Type", fun a => return { a with type := ← readString }⟩,
  ⟨"name", "Name", fun a => return { a with name := ← readString }⟩,
  ⟨"fieldName", "FieldName", fun a => return { a with fieldName := ← readString }⟩,
  ⟨"fieldNames", "FieldNames", fun a => do
    let (fieldNames, fieldNamesSpare) ←
      readSlice "[]string" "" (fun _ => readString) a.fieldNames a.fieldNamesSpare
    return { a with fieldNames, fieldNamesSpare }⟩,
  ⟨"fnAggregate", "FnAggregate", fun a => return { a with fnAggregate := ← readString }⟩,
  ⟨"fnCombine", "FnCombine", fun a => return { a with fnCombine := ← readString }⟩,
  ⟨"fnReset", "FnReset", fun a => return { a with fnReset := ← readString }⟩,
  ⟨"byRow", "ByRow", fun a =>
    return { a with byRow := ← readOptional false (readUnlessNull readBool) a.byRow }⟩,
  ⟨"filter", "Filter", fun a =>
    return { a with filter := ← readOptional Filter.blank Filter.readJson a.filter }⟩,
  ⟨"aggregator", "Aggregator", fun a =>
    return { a with aggregator := ← readOptional blank child a.aggregator }⟩]

def readJsonNested : Nat → Aggregation → ReadM Aggregation
  | 0, a => pure a
  | fuel + 1, a => readRecord "aggregation.Aggregation" (members (readJsonNested fuel)) a

def readJson (a : Aggregation) : ReadM Aggregation := do readJsonNested (← walkFuel) a

end DruidQuery.Aggregation
