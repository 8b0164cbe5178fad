import DruidQuery.Value
import DruidQuery.Text.Numeral

namespace DruidQuery

structure CastError where
  value : Value
  target : String

def CastError.message (e : CastError) : String :=
  "unable to cast " ++ e.value.typed ++ " of type " ++ e.value.kindName ++ " to " ++ e.target

def trimZeroFraction (s : String) : String :=
  let rec scan (sawZero : Bool) : List Char → Option (List Char)
    | [] => none
    | '.' :: rest => if sawZero then some rest else scan sawZero rest
    | '0' :: rest => scan true rest
    | _ => none
  match scan false s.toList.reverse with
  | some rest => String.ofList rest.reverse
  | none => s

def truncateFloat (x : Float) : Int :=
  if x.abs < 9223372036854775808.0 then
    let n := x.abs.floor.toUInt64.toNat
    if x < 0 then -(n : Int) else n
  else -(Int.pow 2 63)

namespace Value

def toInt : Value → Except CastError Int
  | null => .ok 0
  | bool b => .ok (if b then 1 else 0)
  | int n => .ok n
  | float x => .ok (truncateFloat x)
  | str s => match Text.readInteger (trimZeroFraction s) with
    | some n => .ok n
    | none => .error ⟨str s, "int64"⟩
  | v => .error ⟨v, "int"⟩

def toFloat : Value → Except CastError Float
  | null => .ok 0
  | bool b => .ok (if b then 1 else 0)
  | int n => .ok (Float.ofInt n)
  | float x => .ok x
  | str s => match Text.readReal s with
    | some x => .ok x
    | none => .error ⟨str s, "float64"⟩
  | v => .error ⟨v, "float64"⟩

def toFloats : Value → Except CastError (List Float)
  | null => .ok []
  | list items => items.mapM toFloat
  | v => .error ⟨v, "[]interface\x7b\x7d"⟩

end Value

end DruidQuery
