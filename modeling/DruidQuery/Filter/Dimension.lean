import DruidQuery.Filter.Basic
import DruidQuery.Script

namespace DruidQuery.Filter

def eq (dimension : String) (value : Value) : Filter := selector dimension value

def neq (dimension : String) (value : Value) : Filter := negate (some (eq dimension value))

def matchValue (dimension : String) : Value → Filter
  | .pattern source => regex dimension source
  | v => selector dimension v

def expandValues : List Value → List Value
  | [.list items] => items
  | values => values

def isIn (dimension : String) (values : List Value) : Filter :=
  match expandValues values with
  | [v] => matchValue dimension v
  | vs => { type := "or", fields := vs.map fun v => some (matchValue dimension v) }

def notIn (dimension : String) (values : List Value) : Filter :=
  match expandValues values with
  | [v] => negate (some (matchValue dimension v))
  | vs => { type := "and", fields := vs.map fun v => some (negate (some (matchValue dimension v))) }

def compare (dimension op : String) (value : Value) : Filter :=
  javascript dimension (Script.comparison dimension op value)

def inCircle (dimension : String) (centre : List Float) (radius : Float) : Filter :=
  spatial dimension (Bound.circle centre radius)

def inRectangle (dimension : String) (minCoords maxCoords : List Float) : Filter :=
  spatial dimension (Bound.box minCoords maxCoords)

inductive MapError where
  | unsupportedMode (mode : String)
  | emptyValues (key : String)
deriving DecidableEq, Repr

def MapError.message : MapError → String
  | .unsupportedMode mode => "unsupported filter mode: " ++ Text.quote mode
  | .emptyValues key => "empty value list: " ++ key

/-- The filter of a dictionary: per key in sorted order, membership of the dimension in the value
(`in`, the default) or its absence (`nin`), all holding. An empty dictionary has none; a key whose
value is an empty list is an error. -/
def ofMap (entries : List (String × Value)) (mode : String) : Except MapError (Option Filter) := do
  let build ← match mode with
    | "" | "in" => pure isIn
    | "nin" => pure notIn
    | _ => throw (.unsupportedMode mode)
  let sorted := entries.mergeSort fun a b => decide (a.1 ≤ b.1)
  sorted.foldlM (fun acc (k, v) =>
    if (expandValues [v]).isEmpty then throw (.emptyValues k)
    else pure (chain acc (some (build k [v])))) none

end DruidQuery.Filter
