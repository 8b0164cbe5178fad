import DruidQuery.Aggregation.Basic
import DruidQuery.Filter.Check

namespace DruidQuery.Aggregation

def scriptRule (field : String) (get : Aggregation → String) : Rule Aggregation where
  field := field
  types := ["javascript"]
  present := fun a => !(get a).isEmpty
  check := fun a =>
    if (get a).isEmpty then [⟨field, Finding.blank⟩]
    else match Script.parse (get a) with
      | .ok _ => []
      | .error e => [⟨field, e.message⟩]

def rules (innerFindings : Option (List Finding)) : RuleTable Aggregation where
  discriminator := (·.type)
  rules := [
    { field := "type"
      check := fun a =>
        if a.type.isEmpty then [⟨"type", Finding.blank⟩] else checkOneOf "type" a.type knownTypes },
    { field := "name", types := knownTypes.filter (· ≠ "filtered")
      check := fun a => checkNotBlank "name" a.name },
    { field := "fieldName", types := columnTypes
      present := fun a => !a.fieldName.isEmpty
      check := fun a => checkNotBlank "fieldName" a.fieldName },
    { field := "fieldNames", types := ["javascript", "cardinality"]
      present := fun a => a.fieldNames.isSome
      check := fun a =>
        let names := a.fieldNames.getD []
        if names.isEmpty then [⟨"fieldNames", "must be a list of field names"⟩]
        else names.zipIdx.filterMap fun (n, i) =>
          if n.isEmpty then some ⟨indexPath "fieldNames" i, Finding.blank⟩ else none },
    scriptRule "fnAggregate" (·.fnAggregate),
    scriptRule "fnCombine" (·.fnCombine),
    scriptRule "fnReset" (·.fnReset),
    { field := "byRow", types := ["cardinality"]
      present := fun a => a.byRow.isSome },
    { field := "filter", types := ["filtered"]
      present := fun a => a.filter.isSome
      check := fun a => match a.filter with
        | none => [⟨"filter", Finding.blank⟩]
        | some f => qualify "filter" f.validate },
    { field := "aggregator", types := ["filtered"]
      present := fun a => a.aggregator.isSome
      check := fun _ => match innerFindings with
        | none => [⟨"aggregator", Finding.blank⟩]
        | some fs => qualify "aggregator" fs }]

def table : RuleTable Aggregation := rules none

/-- Every finding of an aggregation and its inner aggregators. -/
def validate : Aggregation → List Finding
  | a@⟨_, _, _, _, _, _, _, _, _, aggregator, _⟩ =>
    let inner := match aggregator with
      | some b => some (validate b)
      | none => none
    (rules inner).validate a

end DruidQuery.Aggregation
