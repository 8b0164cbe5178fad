import DruidQuery.PostAggregation.Basic
import DruidQuery.Value.Coerce

namespace DruidQuery.PostAggregation

inductive HistogramError where
  | unknown (strategy : String)
  | badOption (strategy option : String) (cause : CastError)

def HistogramError.message : HistogramError → String
  | .unknown strategy => "no such histogram type: " ++ strategy
  | .badOption strategy option cause => strategy ++ " histogram: " ++ option ++ ": " ++ cause.message

def histogramStrategies : List String :=
  ["buckets", "customBuckets", "equalBuckets", "max", "min", "quantile", "quantiles"]

def isHistogram (type : String) : Bool := histogramStrategies.contains type

def lowerFirst (s : String) : String :=
  match s.toList with
  | c :: rest => String.ofList (c.toLower :: rest)
  | [] => s

def option? (options : List (String × Value)) (key : String) : Option Value :=
  (options.find? (·.1 == key)).map (·.2)

def optionOr (options : List (String × Value)) (key : String) (default : Value) : Value :=
  match option? options key with
  | some .null | none => default
  | some v => v

/-- Builds a histogram of a column. -/
def histogram (strategy name fieldName : String) (options : List (String × Value)) :
    Except HistogramError PostAggregation :=
  let type := lowerFirst strategy
  let base : PostAggregation := { type, name, fieldName }
  let read {α : Type} (option : String) (x : Except CastError α) : Except HistogramError α :=
    x.mapError (.badOption type option)
  match type with
  | "equalBuckets" => do
    let n ← read "numBuckets" (optionOr options "numBuckets" (.int 10)).toInt
    pure { base with numBuckets := n }
  | "buckets" => do
    let size ← read "bucketSize" (optionOr options "bucketSize" (.int 1)).toFloat
    let offset ← match option? options "offset" with
      | none => pure none
      | some v => some <$> read "offset" v.toFloat
    pure { base with bucketSize := size, offset }
  | "customBuckets" => do
    let breaks ← read "breaks" ((option? options "breaks").getD .null).toFloats
    pure { base with breaks }
  | "min" | "max" => pure base
  | "quantile" => do
    let p ← read "probability" (optionOr options "probability" (.float 0.5)).toFloat
    pure { base with probability := some p }
  | "quantiles" => do
    let ps ← read "probabilities" ((option? options "probabilities").getD .null).toFloats
    pure { base with probabilities := ps }
  | _ => .error (.unknown strategy)

end DruidQuery.PostAggregation
