
namespace DruidQuery

def appendNew (acc names : List String) : List String :=
  names.foldl (fun acc n => if acc.contains n then acc else acc ++ [n]) acc

def distinctNames (names : List String) : List String := appendNew [] names

end DruidQuery
