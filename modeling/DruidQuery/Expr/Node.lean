
namespace DruidQuery.Expr

/-- A syntax tree. -/
inductive Node where
  | identifier (name : String)
  | integer (n : Int)
  | float (x : Float)
  | string (s : String)
  | bool (b : Bool)
  | nil
  | unary (op : String) (operand : Node)
  | binary (op : String) (left right : Node)
  | array (items : List Node)
  | map (entries : List Node)
  | pair (key value : Node)
  | call (callee : Node) (args : List Node)
  | builtin (name : String) (args : List Node)
  | member (target property : Node) (optional : Bool)
  | chain (inner : Node)
  | slice (target : Node) (lower upper : Option Node)
  | conditional (test yes no : Node)
  | declaration (name : String) (value body : Node)
  | closure (body : Node)
  | pointer (name : String)
deriving Inhabited

def Node.kindName : Node → String
  | .identifier _ => "*ast.IdentifierNode"
  | .integer _ => "*ast.IntegerNode"
  | .float _ => "*ast.FloatNode"
  | .string _ => "*ast.StringNode"
  | .bool _ => "*ast.BoolNode"
  | .nil => "*ast.NilNode"
  | .unary .. => "*ast.UnaryNode"
  | .binary .. => "*ast.BinaryNode"
  | .array _ => "*ast.ArrayNode"
  | .map _ => "*ast.MapNode"
  | .pair .. => "*ast.PairNode"
  | .call .. => "*ast.CallNode"
  | .builtin .. => "*ast.BuiltinNode"
  | .member .. => "*ast.MemberNode"
  | .chain _ => "*ast.ChainNode"
  | .slice .. => "*ast.SliceNode"
  | .conditional .. => "*ast.ConditionalNode"
  | .declaration .. => "*ast.VariableDeclaratorNode"
  | .closure _ => "*ast.ClosureNode"
  | .pointer _ => "*ast.PointerNode"

end DruidQuery.Expr
