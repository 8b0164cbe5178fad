import DruidQuery.Filter.Dimension
import DruidQuery.Expr.Error

namespace DruidQuery.Filter

open Expr

def grammar : String := "filter"

def flipOp : String → String
  | ">" => "<"
  | ">=" => "<="
  | "<" => ">"
  | "<=" => ">="
  | op => op

def readMembership (left right : Node) (negated : Bool) : Except Error Filter := do
  let some dim := left.path? | throw (unsupported grammar left "left side of in must be a dimension")
  let .array items := right | throw (unsupported grammar right "right side of in must be a list")
  let values ← items.mapM fun item => match item.literal? with
    | some v => pure v
    | none => throw (unsupported grammar item "list elements must be literals")
  pure (if negated then notIn dim values else isIn dim values)

def readComparison (n left right : Node) (op : String) : Except Error (String × Value × String) :=
  match left.path? with
  | some dim => match right.literal? with
    | some v => .ok (dim, v, op)
    | none => .error (unsupported grammar right ("right side of " ++ op ++ " must be a literal"))
  | none => match right.path? with
    | some dim => match left.literal? with
      | some v => .ok (dim, v, flipOp op)
      | none => .error (unsupported grammar left ("left side of " ++ op ++ " must be a literal"))
    | none => .error (unsupported grammar n "comparison must reference a dimension")

def dimensionAndText (fn : String) (args : List Node) : Except Error (String × String) :=
  match args with
  | [a, b] => match a.path? with
    | some dim => match b.string? with
      | some s => .ok (dim, s)
      | none => .error (invalidArgument grammar fn "second argument must be a string")
    | none => .error (invalidArgument grammar fn "first argument must be a dimension")
  | _ => .error (invalidArgument grammar fn ("expects 2 arguments, got " ++ toString args.length))

def numbers? : Node → Option (List Float)
  | .array items => items.mapM Node.number?
  | _ => none

def readCall (n : Node) : Except Error Filter := do
  let some (name, args) := n.callParts? | throw (unsupported grammar n "call target must be a name")
  if name = "regex" || name = "regexp" then
    let (dim, s) ← dimensionAndText name args
    pure (regex dim s)
  else if name = "js" || name = "javascript" then
    let (dim, s) ← dimensionAndText name args
    pure (javascript dim s)
  else if name = "in_circ" || name = "in_rec" then
    let [a, b, c] := args
      | throw (invalidArgument grammar name ("expects 3 arguments, got " ++ toString args.length))
    let some dim := a.path? | throw (invalidArgument grammar name "first argument must be a dimension")
    if name = "in_circ" then
      let some coords := numbers? b
        | throw (invalidArgument grammar name "coordinates must be a list of numbers")
      let some radius := c.number? | throw (invalidArgument grammar name "radius must be a number")
      pure (inCircle dim coords radius)
    else
      match numbers? b, numbers? c with
      | some lo, some hi => pure (inRectangle dim lo hi)
      | _, _ => throw (invalidArgument grammar name "coordinates must be lists of numbers")
  else throw (unsupported grammar n ("unknown function " ++ Text.quote name))

def ofNode : Node → Except Error Filter
  | .unary op operand =>
    if canonicalOp op != "!" then
      .error (unsupported grammar (.unary op operand) ("unary operator " ++ Text.quote op))
    else match operand with
      | .binary "in" l r => readMembership l r true
      | _ => (fun f => negate (some f)) <$> ofNode operand
  | n@(.binary op left right) =>
    let op' := canonicalOp op
    if op' = "&&" || op' = "||" then do
      let l ← ofNode left
      let r ← ofNode right
      pure (if op' = "&&" then all [some l, some r] else any [some l, some r])
    else if op' = "in" then readMembership left right false
    else if op' = "matches" then
      match left.path? with
      | none => .error (unsupported grammar left "left side of matches must be a dimension")
      | some dim => match right.string? with
        | some p => .ok (regex dim p)
        | none => .error (unsupported grammar right "right side of matches must be a string")
    else if ["==", "!=", ">", ">=", "<", "<="].contains op' then do
      let (dim, v, o) ← readComparison n left right op'
      pure (if o = "==" then eq dim v else if o = "!=" then neq dim v else compare dim o v)
    else .error (unsupported grammar n ("operator " ++ Text.quote op))
  | n@(.call ..) => readCall n
  | n => .error (unsupported grammar n "expression is not a condition")

/-- Reads a filter from text. -/
def parse (src : String) : Except Error Filter := do
  let node ← read grammar src
  (ofNode node).mapError (Error.withExpression src)

end DruidQuery.Filter
