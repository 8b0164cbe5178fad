import DruidQuery.PostAggregation.Basic
import DruidQuery.Finding

namespace DruidQuery.PostAggregation

def checkProbability (field : String) (p : Float) : List Finding :=
  if p < 0 || p > 1 then [⟨field, "must be between 0 and 1"⟩] else []

def operandFindings (field : String) (children : List (Option (List Finding))) : List Finding :=
  children.zipIdx.flatMap fun (c, i) => match c with
    | none => [⟨indexPath field i, Finding.blank⟩]
    | some fs => qualify (indexPath field i) fs

def rules (fieldFindings : Option (List Finding)) (fieldsFindings : List (Option (List Finding))) :
    RuleTable PostAggregation where
  discriminator := (·.type)
  rules := [
    { field := "type"
      check := fun p =>
        if p.type.isEmpty then [⟨"type", Finding.blank⟩] else checkOneOf "type" p.type knownTypes },
    { field := "fn", types := ["arithmetic"]
      present := fun p => !p.fn.isEmpty
      check := fun p => checkNotBlank "fn" p.fn ++ checkOneOf "fn" p.fn arithmeticFns },
    { field := "func", types := ["thetaSketchSetOp"]
      present := fun p => !p.func.isEmpty
      check := fun p => checkNotBlank "func" p.func ++ checkOneOf "func" p.func setOperations },
    { field := "fieldName", types := ["fieldAccess", "hyperUniqueCardinality"] ++ histogramTypes
      present := fun p => !p.fieldName.isEmpty
      check := fun p => checkNotBlank "fieldName" p.fieldName },
    { field := "fieldNames", types := ["javascript"]
      present := fun p => !p.fieldNames.isEmpty
      check := fun p =>
        if p.fieldNames.isEmpty then [⟨"fieldNames", "must be a list with at least one field name"⟩]
        else [] },
    { field := "function", types := ["javascript"]
      present := fun p => !p.function.isEmpty
      check := fun p => match Script.parse p.function with
        | .ok _ => []
        | .error e => [⟨"function", e.message⟩] },
    { field := "value", types := ["constant"]
      present := fun p => match p.value with | .null => false | _ => true
      check := fun p => match p.value with | .null => [⟨"value", Finding.required⟩] | _ => [] },
    { field := "fields", types := ["arithmetic", "thetaSketchSetOp"]
      present := fun p => !p.fields.isEmpty
      check := fun p =>
        (if p.type = "arithmetic" && p.fields.length ≠ 2 then
          [⟨"fields", "must contain exactly two operands"⟩]
        else if p.fields.isEmpty then [⟨"fields", "must be a list with at least one field"⟩]
        else []) ++ operandFindings "fields" fieldsFindings },
    { field := "field", types := ["thetaSketchEstimate"]
      present := fun p => p.field.isSome
      check := fun p => match p.field, fieldFindings with
        | some child, some fs =>
          (if child.type ≠ "thetaSketchSetOp" && child.type ≠ "fieldAccess" then
            [⟨"field", "must be a thetaSketchSetOp or fieldAccess"⟩] else []) ++ qualify "field" fs
        | _, _ => [⟨"field", Finding.blank⟩] },
    { field := "numBuckets", types := ["equalBuckets"]
      present := fun p => p.numBuckets ≠ 0
      check := fun p => if p.numBuckets ≤ 0 then [⟨"numBuckets", "must be greater than 0"⟩] else [] },
    { field := "bucketSize", types := ["buckets"]
      present := fun p => p.bucketSize != 0
      check := fun p => if p.bucketSize ≤ 0 then [⟨"bucketSize", "must be greater than 0"⟩] else [] },
    { field := "offset", types := ["buckets"]
      present := fun p => p.offset.isSome },
    { field := "breaks", types := ["customBuckets"]
      present := fun p => !p.breaks.isEmpty
      check := fun p =>
        if p.breaks.isEmpty then [⟨"breaks", "must be a list with at least one break"⟩] else [] },
    { field := "probability", types := ["quantile"]
      present := fun p => p.probability.isSome
      check := fun p => match p.probability with
        | none => [⟨"probability", Finding.required⟩]
        | some x => checkProbability "probability" x },
    { field := "probabilities", types := ["quantiles"]
      present := fun p => !p.probabilities.isEmpty
      check := fun p =>
        (if p.probabilities.isEmpty then
          [⟨"probabilities", "must be a list with at least one probability"⟩] else []) ++
        p.probabilities.zipIdx.flatMap fun (x, i) => checkProbability (indexPath "probabilities" i) x }]

def table : RuleTable PostAggregation := rules none []

mutual

def validate : PostAggregation → List Finding
  | p@⟨_, _, _, _, _, _, _, _, fields, field, _, _, _, _, _, _, _, _, _, _⟩ =>
    (rules (childFindings field) (listFindings fields)).validate p

def childFindings : Option PostAggregation → Option (List Finding)
  | none => none
  | some p => some (validate p)

def listFindings : List (Option PostAggregation) → List (Option (List Finding))
  | [] => []
  | c :: cs => childFindings c :: listFindings cs

end

end DruidQuery.PostAggregation
