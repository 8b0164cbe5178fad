import DruidQuery.Decimal.Layout
import DruidQuery.Json.Tree

namespace DruidQuery

/-- A dynamic value. -/
inductive Value where
  | null
  | bool (b : Bool)
  | int (n : Int)
  | float (x : Float)
  | str (s : String)
  | list (items : List Value)
  | dict (entries : List (String × Value))
  | pattern (source : String)
deriving Inhabited

namespace Value

def dictOf (entries : List (String × Value)) : Value :=
  let distinct := entries.foldl (fun acc e => acc.filter (·.1 != e.1) ++ [e]) []
  dict (distinct.mergeSort fun a b => decide (a.1 ≤ b.1))

mutual

def text : Value → String
  | null => "<nil>"
  | bool b => if b then "true" else "false"
  | int n => toString n
  | float x => Decimal.Layout.general.render x
  | str s => s
  | list items => "[" ++ textItems items ++ "]"
  | dict entries => "map[" ++ textEntries entries ++ "]"
  | pattern source => source

def textItems : List Value → String
  | [] => ""
  | [v] => text v
  | v :: rest => text v ++ " " ++ textItems rest

def textEntries : List (String × Value) → String
  | [] => ""
  | [(k, v)] => k ++ ":" ++ text v
  | (k, v) :: rest => k ++ ":" ++ text v ++ " " ++ textEntries rest

end

def kindName : Value → String
  | null => "<nil>"
  | bool _ => "bool"
  | int _ => "int"
  | float _ => "float64"
  | str _ => "string"
  | list _ => "[]interface \x7b\x7d"
  | dict _ => "map[string]interface \x7b\x7d"
  | pattern _ => "*regexp.Regexp"

mutual

def typed : Value → String
  | str s => Text.quote s
  | list items => "[]interface \x7b\x7d\x7b" ++ typedItems items ++ "\x7d"
  | dict entries => "map[string]interface \x7b\x7d\x7b" ++ typedEntries entries ++ "\x7d"
  | pattern source => "&regexp.Regexp\x7bexpr:" ++ Text.quote source ++ "\x7d"
  | v => text v

def typedItem : Value → String
  | null => "interface \x7b\x7d(nil)"
  | v => typed v

def typedItems : List Value → String
  | [] => ""
  | [v] => typedItem v
  | v :: rest => typedItem v ++ ", " ++ typedItems rest

def typedEntries : List (String × Value) → String
  | [] => ""
  | [(k, v)] => Text.quote k ++ ":" ++ typedItem v
  | (k, v) :: rest => Text.quote k ++ ":" ++ typedItem v ++ ", " ++ typedEntries rest

end

def floatJson (x : Float) : Json := .number (Decimal.Layout.json.render x)

mutual

def toJson : Value → Json
  | null => .null
  | bool b => .bool b
  | int n => .int n
  | float x => floatJson x
  | str s => .string s
  | list items => .array (itemsJson items)
  | dict entries => .dict (entriesJson entries)
  | pattern source => .string source

def itemsJson : List Value → List Json
  | [] => []
  | v :: rest => toJson v :: itemsJson rest

def entriesJson : List (String × Value) → List (String × Json)
  | [] => []
  | (k, v) :: rest => (k, toJson v) :: entriesJson rest

end

def toJson? : Value → Option Json
  | null => none
  | v => some v.toJson

end Value

def floatJson? (x : Float) : Option Json := if x == 0 then none else some (Value.floatJson x)

end DruidQuery
