import DruidQuery.Text.Numeral
import DruidQuery.Time.Civil

namespace DruidQuery.Yaml

inductive Scalar where
  | null
  | bool (b : Bool)
  | int (n : Option Int)
  | float (x : Float)
  | timestamp
  | str (text : String)
deriving Inhabited

def Scalar.tag : Scalar → String
  | .null => "!!null"
  | .bool _ => "!!bool"
  | .int _ => "!!int"
  | .float _ => "!!float"
  | .timestamp => "!!timestamp"
  | .str _ => "!!str"

def Scalar.isNull : Scalar → Bool
  | .null => true
  | _ => false

def digitRun (cs : List Char) : List Char × List Char := (cs.takeWhile Char.isDigit, cs.dropWhile Char.isDigit)

def shortNumber (cs : List Char) : Option (Nat × List Char) :=
  let (ds, rest) := digitRun cs
  if ds.isEmpty || ds.length > 2 then
    if ds.length > 2 then some (ds.take 2 |>.foldl (fun v c => v * 10 + (c.toNat - 48)) 0, cs.drop 2)
    else none
  else some (ds.foldl (fun v c => v * 10 + (c.toNat - 48)) 0, rest)

def timeOfDay (cs : List Char) : Option (List Char) := do
  let (h, r) ← shortNumber cs
  let r ← match r with | ':' :: r => some r | _ => none
  let (m, r) ← shortNumber r
  let r ← match r with | ':' :: r => some r | _ => none
  let (s, r) ← shortNumber r
  if h ≥ 24 || m ≥ 60 || s ≥ 60 then none
  else
    match r with
    | c :: d :: rest =>
      if (c = '.' || c = ',') && d.isDigit then some (rest.dropWhile Char.isDigit) else some r
    | _ => some r

def isZone (cs : List Char) : Bool :=
  match cs with
  | ['Z'] => true
  | [s, h1, h2, ':', m1, m2] =>
    (s = '+' || s = '-') && h1.isDigit && h2.isDigit && m1.isDigit && m2.isDigit &&
      (h1.toNat - 48) * 10 + (h2.toNat - 48) ≤ 24 && (m1.toNat - 48) * 10 + (m2.toNat - 48) ≤ 60
  | _ => false

def isTimestamp (cs : List Char) : Bool :=
  let (year, rest) := digitRun cs
  if year.length != 4 then false
  else
    let y : Int := year.foldl (fun v c => v * 10 + (c.toNat - 48)) 0
    match rest with
    | '-' :: r =>
      match shortNumber r with
      | some (month, '-' :: r) =>
        match shortNumber r with
        | some (day, r) =>
          if month < 1 || month > 12 || day < 1 || day > Time.daysIn month y then false
          else
            match r with
            | [] => true
            | c :: r =>
              if c = 'T' || c = 't' then ((timeOfDay r).map isZone).getD false
              else if c = ' ' then (timeOfDay r) == some []
              else false
        | none => false
      | _ => false
    | _ => false

def isYamlFloat (cs : List Char) : Bool :=
  let cs := match cs with
    | '+' :: r => r
    | '-' :: r => r
    | r => r
  let (whole, rest) := digitRun cs
  let mantissaRest : Option (List Char) := match rest with
    | '.' :: r =>
      let (frac, r) := digitRun r
      if whole.isEmpty && frac.isEmpty then none else some r
    | r => if whole.isEmpty then none else some r
  match mantissaRest with
  | none => false
  | some [] => true
  | some (e :: r) =>
    if e = 'e' || e = 'E' then
      let r := match r with
        | '+' :: t => t
        | '-' :: t => t
        | t => t
      let (ds, rest) := digitRun r
      !ds.isEmpty && rest.isEmpty
    else false

def integerOf (s : String) : Option Int := Text.readInteger s

def isWideUnsigned (s : String) : Bool :=
  let value := match s.toList with
    | '0' :: b :: r =>
      if b = 'x' || b = 'X' then Text.digitsIn 16 r
      else if b = 'o' || b = 'O' then Text.digitsIn 8 r
      else if b = 'b' || b = 'B' then Text.digitsIn 2 r
      else Text.digitsIn 8 (b :: r)
    | cs => Text.digitsIn 10 cs
  match value with
  | some v => Nat.pow 2 63 ≤ v && v < Nat.pow 2 64
  | none => false

def finiteFloat (s : String) : Option Float :=
  match Text.parseReal s with
  | .ok x => if x.isNaN || x.isInf then none else some x
  | .error _ => none

/-- What a scalar's text stands for; a date counts only when `timestamps` is set. -/
def resolvePlain (timestamps : Bool) (s : String) : Scalar :=
  if ["", "~", "null", "Null", "NULL"].contains s then .null
  else if ["true", "True", "TRUE"].contains s then .bool true
  else if ["false", "False", "FALSE"].contains s then .bool false
  else if [".nan", ".NaN", ".NAN"].contains s then .float (0.0 / 0.0)
  else if [".inf", ".Inf", ".INF", "+.inf", "+.Inf", "+.INF"].contains s then .float (1.0 / 0.0)
  else if ["-.inf", "-.Inf", "-.INF"].contains s then .float (-(1.0 / 0.0))
  else
    match s.toList with
    | '.' :: _ =>
      match finiteFloat s with
      | some x => .float x
      | none => .str s
    | c :: _ =>
      if c.isDigit || c = '+' || c = '-' then
        if timestamps && isTimestamp s.toList then .timestamp
        else
          let plain := String.ofList (s.toList.filter (· ≠ '_'))
          match integerOf plain with
          | some n => .int (some n)
          | none =>
            if isWideUnsigned plain then .int none
            else if isYamlFloat plain.toList then
              match finiteFloat plain with
              | some x => .float x
              | none => .str s
            else .str s
      else .str s
    | [] => .null

def shortTag (tag : String) : String :=
  let standard := "tag:yaml.org,2002:"
  if tag.startsWith standard then "!!" ++ String.ofList (tag.toList.drop standard.length) else tag

def isResolvableTag (tag : String) : Bool :=
  ["", "!!str", "!!bool", "!!int", "!!float", "!!null", "!!timestamp"].contains tag

def resolveTagged (tag value : String) : Except String (String × Scalar) :=
  if !isResolvableTag tag then .ok (tag, .str value)
  else
    let r := if tag == "!!str" then Scalar.str value
      else resolvePlain (tag == "" || tag == "!!timestamp") value
    if tag == "" || tag == r.tag || tag == "!!str" then .ok (r.tag, r)
    else
      match tag, r with
      | "!!float", .int (some n) => .ok ("!!float", .float (Float.ofInt n))
      | _, _ => .error ("cannot decode " ++ r.tag ++ " `" ++ value ++ "` as a " ++ tag)

end DruidQuery.Yaml
