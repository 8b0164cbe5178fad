
namespace DruidQuery.Table

def columnWidth (heading : String) (rows : List (List String)) (i : Nat) : Nat :=
  let cells := rows.filterMap (·[i]?)
  max 4 ((heading :: cells).foldl (fun w s => max w s.utf8ByteSize) 0)

def widths (headings : List String) (rows : List (List String)) : List Nat :=
  headings.zipIdx.map fun (h, i) => columnWidth h rows i

def border (ws : List Nat) : String :=
  ws.foldl (fun acc w => acc ++ String.ofList (List.replicate (w + 2) '-') ++ "+") "+" ++ "\n"

def pad (w : Nat) (s : String) : String :=
  s ++ String.ofList (List.replicate (w - s.length) ' ')

def row (ws : List Nat) (cells : List String) : String :=
  ws.zipIdx.foldl (fun acc (w, i) => acc ++ " " ++ pad w (cells.getD i "") ++ " |") "|" ++ "\n"

/-- The table of some headings and rows. -/
def render (headings : List String) (rows : List (List String)) : String :=
  if headings.isEmpty then ""
  else
    let ws := widths headings rows
    border ws ++ row ws headings ++ border ws ++ String.join (rows.map (row ws)) ++ border ws ++
      "(" ++ toString rows.length ++ " rows)\n"

end DruidQuery.Table
