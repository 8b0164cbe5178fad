import DruidQuery.Expr.Parser
import DruidQuery.Value

namespace DruidQuery.Expr

inductive ErrorKind where
  | parseFailure
  | unsupported
  | invalidArgument
deriving DecidableEq, Repr, Inhabited

def ErrorKind.tag : ErrorKind → String
  | .parseFailure => "SYNTAX_ERROR"
  | .unsupported => "UNSUPPORTED"
  | .invalidArgument => "INVALID_ARGUMENT"

structure Error where
  kind : ErrorKind
  grammar : String
  message : String
  node : String := ""
  expression : String := ""
deriving DecidableEq, Repr, Inhabited

/-- The text of an error:
`[TAG] message in <grammar> expression (found <node>)` and a line `Expression: <source>`. -/
def Error.render (e : Error) : String :=
  "[" ++ e.kind.tag ++ "] " ++ e.message ++
  (if e.grammar.isEmpty then "" else " in " ++ e.grammar ++ " expression") ++
  (if e.node.isEmpty then "" else " (found " ++ e.node ++ ")") ++
  (if e.expression.isEmpty then "" else "\nExpression: " ++ e.expression)

inductive Sentinel where
  | parseFailure
  | unsupported
deriving DecidableEq, Repr

def Error.is (e : Error) : Sentinel → Bool
  | .parseFailure => e.kind == .parseFailure
  | .unsupported => e.kind == .unsupported || e.kind == .invalidArgument

def Error.withExpression (src : String) (e : Error) : Error :=
  if e.expression.isEmpty then { e with expression := src } else e

def unsupported (grammar : String) (n : Node) (message : String) : Error :=
  { kind := .unsupported, grammar, message, node := n.kindName }

def invalidArgument (grammar fn message : String) : Error :=
  { kind := .invalidArgument, grammar, message := fn ++ "(): " ++ message }

def read (grammar src : String) : Except Error Node :=
  if Text.isBlank src then .error { kind := .parseFailure, grammar, message := "empty expression" }
  else match parse src with
    | .ok n => .ok n
    | .error e => .error { kind := .parseFailure, grammar, message := e.render src, expression := src }

def canonicalOp : String → String
  | "and" => "&&"
  | "or" => "||"
  | "not" => "!"
  | op => op

namespace Node

def path? : Node → Option String
  | .identifier name => some name
  | .chain inner => inner.path?
  | .member target (.string p) _ => (target.path?).map (· ++ "." ++ p)
  | _ => none

def literal? : Node → Option Value
  | .integer n => some (.int n)
  | .float x => some (.float x)
  | .string s => some (.str s)
  | .bool b => some (.bool b)
  | .nil => some .null
  | .unary op operand =>
    match op, operand.literal? with
    | "-", some (.int n) => some (.int (-n))
    | "-", some (.float x) => some (.float (-x))
    | "+", some (.int n) => some (.int n)
    | "+", some (.float x) => some (.float x)
    | _, _ => none
  | _ => none

def number? (n : Node) : Option Float :=
  match n.literal? with
  | some (.int i) => some (Float.ofInt i)
  | some (.float x) => some x
  | _ => none

def string? : Node → Option String
  | .string s => some s
  | _ => none

def callParts? : Node → Option (String × List Node)
  | .call callee args => (callee.path?).map (·, args)
  | _ => none

end Node

end DruidQuery.Expr
