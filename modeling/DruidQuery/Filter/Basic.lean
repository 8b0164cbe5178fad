import DruidQuery.Value
import DruidQuery.Names

namespace DruidQuery

structure Bound where
  type : String
  coords : List Float := []
  radius : Float := 0
  minCoords : List Float := []
  maxCoords : List Float := []
  coordsSpare : List Float := []
  minCoordsSpare : List Float := []
  maxCoordsSpare : List Float := []
deriving Inhabited

/-- A filter record. An absent child of `not` or of a list is `none`. -/
structure Filter where
  type : String
  dimension : String := ""
  value : Value := .null
  pattern : String := ""
  function : String := ""
  bound : Option Bound := none
  field : Option Filter := none
  fields : List (Option Filter) := []
  fieldsSpare : List (Option Filter) := []
deriving Inhabited

namespace Filter

def knownTypes : List String := ["selector", "not", "and", "or", "javascript", "regex", "spatial"]

def selector (dimension : String) (value : Value) : Filter :=
  { type := "selector", dimension, value }

def regex (dimension pattern : String) : Filter :=
  { type := "regex", dimension, pattern }

def javascript (dimension function : String) : Filter :=
  { type := "javascript", dimension, function }

def spatial (dimension : String) (bound : Bound) : Filter :=
  { type := "spatial", dimension, bound := some bound }

def negate (f : Option Filter) : Filter :=
  { type := "not", field := f }

def operandsOf (typ : String) (filters : List (Option Filter)) : List (Option Filter) :=
  filters.flatMap fun
    | none => []
    | some f => if f.type = typ then f.fields else [some f]

/-- The combination of filters under `and` or `or`, flattened. -/
def combine (typ : String) (filters : List (Option Filter)) : Filter :=
  { type := typ, fields := operandsOf typ filters }

def all (filters : List (Option Filter)) : Filter := combine "and" filters

def any (filters : List (Option Filter)) : Filter := combine "or" filters

def chain : Option Filter → Option Filter → Option Filter
  | none, next => next
  | prev, none => prev
  | prev, next => some (all [prev, next])

end Filter

def Bound.circle (coords : List Float) (radius : Float) : Bound :=
  { type := "radius", coords, radius }

def Bound.box (minCoords maxCoords : List Float) : Bound :=
  { type := "rectangular", minCoords, maxCoords }

mutual

def Filter.dimensionsInto (acc : List String) : Filter → List String
  | ⟨_, dimension, _, _, _, _, field, fields, _⟩ =>
    let acc := if dimension.isEmpty then acc else appendNew acc [dimension]
    Filter.dimensionsOfList (Filter.dimensionsOfChild acc field) fields

def Filter.dimensionsOfChild (acc : List String) : Option Filter → List String
  | none => acc
  | some f => f.dimensionsInto acc

def Filter.dimensionsOfList (acc : List String) : List (Option Filter) → List String
  | [] => acc
  | c :: cs => Filter.dimensionsOfList (Filter.dimensionsOfChild acc c) cs

end

def Filter.dimensions (f : Filter) : List String := f.dimensionsInto []

end DruidQuery
