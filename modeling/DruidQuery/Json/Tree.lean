import DruidQuery.Text.Quote

namespace DruidQuery

/-- A JSON document to be written. -/
inductive Json where
  | null
  | bool (b : Bool)
  | number (text : String)
  | string (s : String)
  | array (items : List Json)
  | object (fields : List (String × Json))
  | dict (entries : List (String × Json))
  | verbatim (text : String)
deriving Inhabited

namespace Json

def dictOf (entries : List (String × Json)) : Json :=
  dict (entries.mergeSort fun a b => decide (a.1 ≤ b.1))

def int (n : Int) : Json := number (toString n)

def record (fields : List (String × Option Json)) : Json :=
  object (fields.filterMap fun (k, v) => v.map (k, ·))

def text? (s : String) : Option Json := if s.isEmpty then none else some (string s)

def list? {α : Type} (f : α → Json) (xs : List α) : Option Json :=
  if xs.isEmpty then none else some (array (xs.map f))

def int? (n : Int) : Option Json := if n = 0 then none else some (int n)

mutual

def compact : Json → String
  | null => "null"
  | bool b => if b then "true" else "false"
  | number t => t
  | string s => Text.jsonString s
  | array items => "[" ++ compactItems items ++ "]"
  | object fields => "\x7b" ++ compactFields fields ++ "\x7d"
  | dict entries => "\x7b" ++ compactFields entries ++ "\x7d"
  | verbatim t => t

def compactItems : List Json → String
  | [] => ""
  | [j] => compact j
  | j :: rest => compact j ++ "," ++ compactItems rest

def compactFields : List (String × Json) → String
  | [] => ""
  | [(k, j)] => Text.jsonString k ++ ":" ++ compact j
  | (k, j) :: rest => Text.jsonString k ++ ":" ++ compact j ++ "," ++ compactFields rest

end

def newline (n : Nat) : String := "\n" ++ String.ofList (List.replicate n ' ')

mutual

def indented (d : Nat) : Json → String
  | array [] => "[]"
  | array items => "[" ++ newline (d + 2) ++ indentedItems (d + 2) items ++ newline d ++ "]"
  | object fields => "\x7b" ++ newline (d + 2) ++ indentedFields (d + 2) fields ++ newline d ++ "\x7d"
  | dict entries => "\x7b" ++ newline (d + 2) ++ indentedEntries (d + 2) entries ++ newline d ++ "\x7d"
  | j => compact j

def indentedItems (d : Nat) : List Json → String
  | [] => ""
  | [j] => indented d j
  | j :: rest => indented d j ++ "," ++ newline d ++ indentedItems d rest

def indentedFields (d : Nat) : List (String × Json) → String
  | [] => ""
  | [(k, j)] => Text.jsonString k ++ ": " ++ indented d j
  | (k, j) :: rest =>
    Text.jsonString k ++ ": " ++ indented d j ++ "," ++ newline d ++ indentedFields d rest

def indentedEntries (d : Nat) : List (String × Json) → String
  | [] => ""
  | [(k, j)] => Text.jsonString k ++ ": " ++ indented 0 j
  | (k, j) :: rest =>
    Text.jsonString k ++ ": " ++ indented 0 j ++ "," ++ newline d ++ indentedEntries d rest

end

def pretty (j : Json) : String := indented 0 j

end Json

end DruidQuery
