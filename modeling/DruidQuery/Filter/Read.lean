import DruidQuery.Filter.Basic
import DruidQuery.Json.Reader.Record

namespace DruidQuery.Filter

open Json (ReadM)
open Json.Reader

def Bound.members : List (Member Bound) := [
  ⟨"type", "Type", fun b => return { b with type := ← readString }⟩,
  ⟨"coords", "Coords", fun b => do
    let (coords, coordsSpare) ← readDoubles b.coords b.coordsSpare
    return { b with coords, coordsSpare }⟩,
  ⟨"radius", "Radius", fun b => return { b with radius := ← readUnlessNull readDouble b.radius }⟩,
  ⟨"minCoords", "MinCoords", fun b => do
    let (minCoords, minCoordsSpare) ← readDoubles b.minCoords b.minCoordsSpare
    return { b with minCoords, minCoordsSpare }⟩,
  ⟨"maxCoords", "MaxCoords", fun b => do
    let (maxCoords, maxCoordsSpare) ← readDoubles b.maxCoords b.maxCoordsSpare
    return { b with maxCoords, maxCoordsSpare }⟩]

def Bound.read (b : Bound) : ReadM Bound := readRecord "filter.Bound" Bound.members b

def blank : Filter := { type := "" }

def members (child : Filter → ReadM Filter) : List (Member Filter) := [
  ⟨"type", "Type", fun f => return { f with type := ← readString }⟩,
  ⟨"dimension", "Dimension", fun f => return { f with dimension := ← readString }⟩,
  ⟨"value", "Value", fun f => return { f with value := ← readAny }⟩,
  ⟨"pattern", "Pattern", fun f => return { f with pattern := ← readString }⟩,
  ⟨"function", "Function", fun f => return { f with function := ← readString }⟩,
  ⟨"bound", "Bound", fun f =>
    return { f with bound := ← readOptional { type := "" } Bound.read f.bound }⟩,
  ⟨"field", "Field", fun f => return { f with field := ← readOptional blank child f.field }⟩,
  ⟨"fields", "Fields", fun f => do
    let (fields, fieldsSpare) ←
      readPlainSlice "[]*filter.Filter" none (readOptional blank child) f.fields f.fieldsSpare
    return { f with fields, fieldsSpare }⟩]

def readJsonNested : Nat → Filter → ReadM Filter
  | 0, f => pure f
  | fuel + 1, f => readRecord "filter.Filter" (members (readJsonNested fuel)) f

def readJson (f : Filter) : ReadM Filter := do readJsonNested (← walkFuel) f

end DruidQuery.Filter
