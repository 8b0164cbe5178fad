import DruidQuery.Filter.Basic

namespace DruidQuery

def Bound.toJson (b : Bound) : Json :=
  .record [("type", some (.string b.type)),
    ("coords", Json.list? Value.floatJson b.coords),
    ("radius", floatJson? b.radius),
    ("minCoords", Json.list? Value.floatJson b.minCoords),
    ("maxCoords", Json.list? Value.floatJson b.maxCoords)]

mutual

def Filter.toJson : Filter → Json
  | ⟨type, dimension, value, pattern, function, bound, field, fields, _⟩ =>
    .record [("type", some (.string type)),
      ("dimension", Json.text? dimension),
      ("value", value.toJson?),
      ("pattern", Json.text? pattern),
      ("function", Json.text? function),
      ("bound", bound.map Bound.toJson),
      ("field", Filter.childJson? field),
      ("fields", if fields.isEmpty then none else some (.array (Filter.childrenJson fields)))]

def Filter.childJson? : Option Filter → Option Json
  | none => none
  | some f => some f.toJson

def Filter.childrenJson : List (Option Filter) → List Json
  | [] => []
  | none :: rest => .null :: Filter.childrenJson rest
  | some f :: rest => f.toJson :: Filter.childrenJson rest

end

def Filter.json? : Option Filter → Json
  | none => .null
  | some f => f.toJson

end DruidQuery
