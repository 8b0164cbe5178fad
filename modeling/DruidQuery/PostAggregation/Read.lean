import DruidQuery.PostAggregation.Basic
import DruidQuery.Json.Reader.Record

namespace DruidQuery.PostAggregation

open Json (ReadM)
open Json.Reader

def blank : PostAggregation := { type := "" }

def members (child : PostAggregation → ReadM PostAggregation) : List (Member PostAggregation) := [
  ⟨"type", "Type", fun p => return { p with type := ← readString }⟩,
  ⟨"name", "Name", fun p => return { p with name := ← readString }⟩,
  ⟨"fn", "Fn", fun p => return { p with fn := ← readString }⟩,
  ⟨"func", "Func", fun p => return { p with func := ← readString }⟩,
  ⟨"fieldName", "FieldName", fun p => return { p with fieldName := ← readString }⟩,
  ⟨"fieldNames", "FieldNames", fun p => do
    let (fieldNames, fieldNamesSpare) ← readStrings p.fieldNames p.fieldNamesSpare
    return { p with fieldNames, fieldNamesSpare }⟩,
  ⟨"function", "Function", fun p => return { p with function := ← readString }⟩,
  ⟨"value", "Value", fun p => return { p with value := ← readAny }⟩,
  ⟨"fields", "Fields", fun p => do
    let (fields, fieldsSpare) ← readPlainSlice "[]*postagg.PostAggregation" none
      (readOptional blank child) p.fields p.fieldsSpare
    return { p with fields, fieldsSpare }⟩,
  ⟨"field", "Field", fun p => return { p with field := ← readOptional blank child p.field }⟩,
  ⟨"numBuckets", "NumBuckets", fun p =>
    return { p with numBuckets := ← readUnlessNull readInt64 p.numBuckets }⟩,
  ⟨"bucketSize", "BucketSize", fun p =>
    return { p with bucketSize := ← readUnlessNull readDouble p.bucketSize }⟩,
  ⟨"offset", "Offset", fun p =>
    return { p with offset := ← readOptional 0 (readUnlessNull readDouble) p.offset }⟩,
  ⟨"breaks", "Breaks", fun p => do
    let (breaks, breaksSpare) ← readDoubles p.breaks p.breaksSpare
    return { p with breaks, breaksSpare }⟩,
  ⟨"probability", "Probability", fun p =>
    return { p with probability := ← readOptional 0 (readUnlessNull readDouble) p.probability }⟩,
  ⟨"probabilities", "Probabilities", fun p => do
    let (probabilities, probabilitiesSpare) ← readDoubles p.probabilities p.probabilitiesSpare
    return { p with probabilities, probabilitiesSpare }⟩]

def readJsonNested : Nat → PostAggregation → ReadM PostAggregation
  | 0, p => pure p
  | fuel + 1, p => readRecord "postagg.PostAggregation" (members (readJsonNested fuel)) p

def readJson (p : PostAggregation) : ReadM PostAggregation := do readJsonNested (← walkFuel) p

end DruidQuery.PostAggregation
