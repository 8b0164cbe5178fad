import DruidQuery.Having.Basic
import DruidQuery.Json.Reader.Record

namespace DruidQuery.Having

open Json (ReadM)
open Json.Reader

def blank : Having := { type := "" }

def members (child : Having → ReadM Having) : List (Member Having) := [
  ⟨"type", "Type", fun h => return { h with type := ← readString }⟩,
  ⟨"aggregation", "Aggregation", fun h => return { h with aggregation := ← readString }⟩,
  ⟨"value", "Value", fun h => return { h with value := ← readAny }⟩,
  ⟨"havingSpec", "HavingSpec", fun h =>
    return { h with havingSpec := ← readOptional blank child h.havingSpec }⟩,
  ⟨"havingSpecs", "HavingSpecs", fun h => do
    let (havingSpecs, havingSpecsSpare) ← readPlainSlice "[]*having.Having" none
      (readOptional blank child) h.havingSpecs h.havingSpecsSpare
    return { h with havingSpecs, havingSpecsSpare }⟩]

def readJsonNested : Nat → Having → ReadM Having
  | 0, h => pure h
  | fuel + 1, h => readRecord "having.Having" (members (readJsonNested fuel)) h

def readJson (h : Having) : ReadM Having := do readJsonNested (← walkFuel) h

end DruidQuery.Having
