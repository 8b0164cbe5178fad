
namespace DruidQuery.Expr

structure SyntaxError where
  message : String
  position : Nat
deriving DecidableEq, Repr, Inhabited

def lineColumn (src : List Char) (position : Nat) : Nat × Nat :=
  (src.take position).foldl
    (fun (lc : Nat × Nat) c => if c = '\n' then (lc.1 + 1, 0) else (lc.1, lc.2 + 1)) (1, 0)

def caretLine (line : List Char) (column : Nat) : Option String :=
  let before := line.take column
  let under := (line.drop column).head?
  if before.any (fun c => c.utf8Size > 1) || under.any (fun c => c.utf8Size > 1) then none
  else some (String.ofList (List.replicate before.length '.') ++ "^")

def SyntaxError.render (e : SyntaxError) (src : String) : String :=
  let (line, column) := lineColumn src.toList e.position
  let text := ((src.splitOn "\n").getD (line - 1) "").toList.map fun c => if c = '\t' then ' ' else c
  let snippet := "\n | " ++ String.ofList text ++
    match caretLine text column with
    | some caret => "\n | " ++ caret
    | none => ""
  e.message ++ " (" ++ toString line ++ ":" ++ toString (column + 1) ++ ")" ++ snippet

end DruidQuery.Expr
