import DruidQuery.Text.Quote

namespace DruidQuery.Expr

inductive TokenKind where
  | eof
  | identifier
  | number
  | string
  | operator
  | bracket
deriving DecidableEq, Repr, Inhabited

def TokenKind.name : TokenKind → String
  | .eof => "EOF"
  | .identifier => "Identifier"
  | .number => "Number"
  | .string => "String"
  | .operator => "Operator"
  | .bracket => "Bracket"

structure Span where
  start : Nat
  stop : Nat
deriving DecidableEq, Repr, Inhabited

structure Token where
  kind : TokenKind
  text : String
  span : Span
deriving DecidableEq, Repr, Inhabited

def Token.is (t : Token) (k : TokenKind) (s : String) : Bool :=
  t.kind == k && t.text == s

def Token.describe (t : Token) : String :=
  if t.text.isEmpty then t.kind.name else t.kind.name ++ "(" ++ Text.quote t.text ++ ")"

end DruidQuery.Expr
