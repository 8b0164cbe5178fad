import DruidQuery.Having.Basic
import DruidQuery.Expr.Error

namespace DruidQuery.Having

open Expr

def grammar : String := "having"

def readComparison (n left right : Node) (op : String) : Except Error Having := do
  let (name, valueNode, op) ← match left.path? with
    | some name => pure (name, right, op)
    | none => match right.path? with
      | some name => pure (name, left, if op = ">" then "<" else if op = "<" then ">" else op)
      | none => throw (unsupported grammar n "comparison must reference an aggregation")
  let some value := valueNode.literal?
    | throw (unsupported grammar valueNode "comparison operand must be a literal")
  pure (if op = "==" then equalTo name value
    else if op = "!=" then notEqualTo name value
    else if op = ">" then greaterThan name value
    else lessThan name value)

def ofNode : Node → Except Error Having
  | .unary op operand =>
    if canonicalOp op != "!" then
      .error (unsupported grammar (.unary op operand) ("unary operator " ++ Text.quote op))
    else (fun h => negate (some h)) <$> ofNode operand
  | n@(.binary op left right) =>
    let op' := canonicalOp op
    if op' = "&&" || op' = "||" then do
      let l ← ofNode left
      let r ← ofNode right
      pure (if op' = "&&" then all [some l, some r] else any [some l, some r])
    else if ["==", "!=", ">", "<"].contains op' then readComparison n left right op'
    else .error (unsupported grammar n ("operator " ++ Text.quote op))
  | n => .error (unsupported grammar n "expression is not a condition")

/-- Reads a having spec from text. -/
def parse (src : String) : Except Error Having := do
  let node ← read grammar src
  (ofNode node).mapError (Error.withExpression src)

end DruidQuery.Having
