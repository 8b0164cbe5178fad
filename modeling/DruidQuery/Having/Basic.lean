import DruidQuery.Value
import DruidQuery.Names

namespace DruidQuery

/-- A having spec record. An absent child is `none`. -/
structure Having where
  type : String
  aggregation : String := ""
  value : Value := .null
  havingSpec : Option Having := none
  havingSpecs : List (Option Having) := []
  havingSpecsSpare : List (Option Having) := []
deriving Inhabited

namespace Having

def knownTypes : List String := ["equalTo", "greaterThan", "lessThan", "not", "and", "or"]

def comparisonTypes : List String := ["equalTo", "greaterThan", "lessThan"]

def equalTo (aggregation : String) (value : Value) : Having :=
  { type := "equalTo", aggregation, value }

def greaterThan (aggregation : String) (value : Value) : Having :=
  { type := "greaterThan", aggregation, value }

def lessThan (aggregation : String) (value : Value) : Having :=
  { type := "lessThan", aggregation, value }

def negate (h : Option Having) : Having := { type := "not", havingSpec := h }

def notEqualTo (aggregation : String) (value : Value) : Having :=
  negate (some (equalTo aggregation value))

def operandsOf (typ : String) (specs : List (Option Having)) : List (Option Having) :=
  specs.flatMap fun
    | none => []
    | some h => if h.type = typ then h.havingSpecs else [some h]

def combine (typ : String) (specs : List (Option Having)) : Having :=
  { type := typ, havingSpecs := operandsOf typ specs }

def all (specs : List (Option Having)) : Having := combine "and" specs

def any (specs : List (Option Having)) : Having := combine "or" specs

def chain : Option Having → Option Having → Option Having
  | none, next => next
  | prev, none => prev
  | prev, next => some (all [prev, next])

mutual

def aggregationsInto (acc : List String) : Having → List String
  | ⟨_, aggregation, _, spec, specs, _⟩ =>
    let acc := if aggregation.isEmpty then acc else appendNew acc [aggregation]
    aggregationsOfList (aggregationsOfChild acc spec) specs

def aggregationsOfChild (acc : List String) : Option Having → List String
  | none => acc
  | some h => aggregationsInto acc h

def aggregationsOfList (acc : List String) : List (Option Having) → List String
  | [] => acc
  | c :: cs => aggregationsOfList (aggregationsOfChild acc c) cs

end

def aggregations (h : Having) : List String := aggregationsInto [] h

mutual

def toJson : Having → Json
  | ⟨type, aggregation, value, spec, specs, _⟩ =>
    .record [("type", some (.string type)),
      ("aggregation", Json.text? aggregation),
      ("value", value.toJson?),
      ("havingSpec", childJson? spec),
      ("havingSpecs", if specs.isEmpty then none else some (.array (childrenJson specs)))]

def childJson? : Option Having → Option Json
  | none => none
  | some h => some (toJson h)

def childrenJson : List (Option Having) → List Json
  | [] => []
  | none :: rest => .null :: childrenJson rest
  | some h :: rest => toJson h :: childrenJson rest

end

def json? : Option Having → Json
  | none => .null
  | some h => toJson h

end Having

end DruidQuery
