import DruidQuery.Having.Basic
import DruidQuery.Finding

namespace DruidQuery.Having

def rules (specFindings : Option (List Finding)) (specsFindings : List (Option (List Finding))) :
    RuleTable Having where
  discriminator := (·.type)
  rules := [
    { field := "type", check := fun h => checkOneOf "type" h.type knownTypes },
    { field := "aggregation", types := comparisonTypes
      present := fun h => !h.aggregation.isEmpty
      check := fun h => checkNotBlank "aggregation" h.aggregation },
    { field := "value", types := comparisonTypes
      present := fun h => match h.value with | .null => false | _ => true
      check := fun h => match h.value with | .null => [⟨"value", Finding.required⟩] | _ => [] },
    { field := "havingSpec", types := ["not"]
      present := fun h => h.havingSpec.isSome
      check := fun _ => match specFindings with
        | none => [⟨"havingSpec", Finding.blank⟩]
        | some fs => qualify "havingSpec" fs },
    { field := "havingSpecs", types := ["and", "or"]
      present := fun h => !h.havingSpecs.isEmpty
      check := fun _ =>
        if specsFindings.isEmpty then [⟨"havingSpecs", "must be a list with at least one having spec"⟩]
        else specsFindings.zipIdx.flatMap fun (c, i) => match c with
          | none => [⟨indexPath "havingSpecs" i, Finding.blank⟩]
          | some fs => qualify (indexPath "havingSpecs" i) fs }]

def table : RuleTable Having := rules none []

mutual

def validate : Having → List Finding
  | h@⟨_, _, _, spec, specs, _⟩ => (rules (childFindings spec) (listFindings specs)).validate h

def childFindings : Option Having → Option (List Finding)
  | none => none
  | some h => some (validate h)

def listFindings : List (Option Having) → List (Option (List Finding))
  | [] => []
  | c :: cs => childFindings c :: listFindings cs

end

end DruidQuery.Having
