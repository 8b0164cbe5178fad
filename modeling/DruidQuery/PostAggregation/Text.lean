import DruidQuery.PostAggregation.Basic
import DruidQuery.Expr.Error

namespace DruidQuery.PostAggregation

open Expr

def grammar : String := "postagg"

def textArgument (fn : String) : List Node → Except Error String
  | [arg] =>
    match arg.path? with
    | some name => .ok name
    | none => match arg.literal? with
      | some (.str s) => .ok s
      | _ => .error (invalidArgument grammar fn "argument must be a string")
  | args => .error (invalidArgument grammar fn ("expected 1 argument, got " ++ toString args.length))

def readCall (n : Node) : Except Error PostAggregation :=
  match n.callParts? with
  | none => .error (unsupported grammar n "unknown function")
  | some (name, args) =>
    if name = "js" || name = "javascript" then do
      let src ← textArgument name args
      match ofScript src with
      | .ok p => pure p
      | .error e => .error (invalidArgument grammar name e.message)
    else if name = "hyper_unique" || name = "hyperUniqueCardinality" then
      hyperUnique <$> textArgument name args
    else .error (unsupported grammar n ("unknown function " ++ Text.quote name))

def ofNode : Node → Except Error PostAggregation
  | n@(.binary op left right) =>
    if ["+", "-", "*", "/"].contains op then do
      let l ← ofNode left
      let r ← ofNode right
      pure (arithmetic op (some l) (some r))
    else .error (unsupported grammar n ("operator " ++ Text.quote op))
  | n =>
    match n.path? with
    | some name => .ok (fieldAccess name)
    | none =>
      match n.literal? with
      | some (.int i) => .ok (constant (.int i))
      | some (.float x) => .ok (constant (.float x))
      | some (.str s) => .ok (fieldAccess s)
      | some v => .error (unsupported grammar n ("literal " ++ v.text ++ " is not an operand"))
      | none =>
        match n with
        | .call _ _ => readCall n
        | _ => .error (unsupported grammar n "expression is not arithmetic")

/-- Reads a post-aggregation from text. -/
def parse (src : String) : Except Error PostAggregation := do
  let node ← read grammar src
  (ofNode node).mapError (Error.withExpression src)

end DruidQuery.PostAggregation
