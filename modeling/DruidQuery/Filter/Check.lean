import DruidQuery.Filter.Basic
import DruidQuery.Finding
import DruidQuery.Script

namespace DruidQuery

def Bound.validate (b : Bound) : List Finding :=
  if b.type = "radius" then
    (if b.coords.isEmpty then [⟨"coords", "must be a list of coordinates"⟩] else []) ++
    (if b.radius ≤ 0 then [⟨"radius", "must be greater than 0"⟩] else [])
  else if b.type = "rectangular" then
    (if b.minCoords.isEmpty then [⟨"minCoords", "must be a list of coordinates"⟩] else []) ++
    (if b.maxCoords.isEmpty then [⟨"maxCoords", "must be a list of coordinates"⟩] else []) ++
    (if b.minCoords.length ≠ b.maxCoords.length then
      [⟨"maxCoords", "must have as many coordinates as minCoords"⟩] else [])
  else [⟨"type", Text.quote b.type ++ " is not a valid bound type"⟩]

def checkScript (field source : String) : List Finding :=
  if source.isEmpty then [⟨field, Finding.blank⟩]
  else match Script.parse source with
    | .ok _ => []
    | .error e => [⟨field, e.message⟩]

namespace Filter

def rules (fieldFindings : Option (List Finding)) (fieldsFindings : List (Option (List Finding))) :
    RuleTable Filter where
  discriminator := (·.type)
  rules := [
    { field := "type"
      check := fun f =>
        if knownTypes.contains f.type then []
        else [⟨"type", Text.quote f.type ++ " is not a valid filter type"⟩] },
    { field := "dimension", types := ["selector", "javascript", "regex", "spatial"]
      present := fun f => !f.dimension.isEmpty
      check := fun f => checkNotBlank "dimension" f.dimension },
    { field := "value", types := ["selector"]
      present := fun f => match f.value with | .null => false | _ => true },
    { field := "pattern", types := ["regex"]
      present := fun f => !f.pattern.isEmpty
      check := fun f => checkNotBlank "pattern" f.pattern },
    { field := "function", types := ["javascript"]
      present := fun f => !f.function.isEmpty
      check := fun f => checkScript "function" f.function },
    { field := "bound", types := ["spatial"]
      present := fun f => f.bound.isSome
      check := fun f => match f.bound with
        | none => [⟨"bound", Finding.blank⟩]
        | some b => qualify "bound" b.validate },
    { field := "field", types := ["not"]
      present := fun f => f.field.isSome
      check := fun _ => match fieldFindings with
        | none => [⟨"field", Finding.blank⟩]
        | some fs => qualify "field" fs },
    { field := "fields", types := ["and", "or"]
      present := fun f => !f.fields.isEmpty
      check := fun _ =>
        if fieldsFindings.isEmpty then [⟨"fields", "must be a list with at least one filter"⟩]
        else (fieldsFindings.zipIdx.flatMap fun (c, i) => match c with
          | none => [⟨indexPath "fields" i, Finding.blank⟩]
          | some fs => qualify (indexPath "fields" i) fs) }]

def table : RuleTable Filter := rules none []

mutual

/-- Every finding of a filter and its children. -/
def validate : Filter → List Finding
  | f@⟨_, _, _, _, _, _, field, fields, _⟩ => (rules (childFindings field) (listFindings fields)).validate f

def childFindings : Option Filter → Option (List Finding)
  | none => none
  | some f => some (validate f)

def listFindings : List (Option Filter) → List (Option (List Finding))
  | [] => []
  | c :: cs => childFindings c :: listFindings cs

end

end Filter

end DruidQuery
