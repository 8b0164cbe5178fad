import DruidQuery.Yaml.Token

namespace DruidQuery.Yaml

inductive Node where
  | scalar (value : String) (tag : String) (style : ScalarStyle) (line : Nat)
  | sequence (tag : String) (items : List Node) (line : Nat)
  | mapping (tag : String) (entries : List (Node × Node)) (line : Nat)
  | alias (name : String) (slot : Nat) (line : Nat)
deriving Inhabited, Repr

namespace Node

def line : Node → Nat
  | .scalar _ _ _ l => l
  | .sequence _ _ l => l
  | .mapping _ _ l => l
  | .alias _ _ l => l

def tag : Node → String
  | .scalar _ t _ _ => t
  | .sequence t _ _ => t
  | .mapping t _ _ => t
  | .alias _ _ _ => ""

def text : Node → String
  | .scalar v _ _ _ => v
  | .alias name _ _ => name
  | _ => ""

def sameKey : Node → Node → Bool
  | .scalar a _ _ _, .scalar b _ _ _ => a == b
  | .alias a _ _, .alias b _ _ => a == b
  | .sequence _ _ _, .sequence _ _ _ => true
  | .mapping _ _ _, .mapping _ _ _ => true
  | _, _ => false

def isMapping : Node → Bool
  | .mapping _ _ _ => true
  | _ => false

end Node

structure Document where
  root : Node
  anchored : Array Node
deriving Inhabited

def Document.target (doc : Document) : Node → Node
  | .alias _ slot _ => doc.anchored.getD slot default
  | n => n

end DruidQuery.Yaml
