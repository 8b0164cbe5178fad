import DruidQuery.Decimal.Shortest

namespace DruidQuery.Decimal

structure Layout where
  positionalFrom : Int
  positionalUntil : Int

def Layout.json : Layout := ⟨-6, 21⟩

def Layout.general : Layout := ⟨-4, 6⟩

def Layout.positional : Layout := ⟨-400, 400⟩

def twoDigits (n : Nat) : String :=
  if n < 10 then "0" ++ toString n else toString n

def Digits.positional (d : Digits) : String :=
  let s := toString d.digits
  let point : Int := (s.length : Int) + d.exponent
  if d.exponent ≥ 0 then s ++ String.ofList (List.replicate d.exponent.toNat '0')
  else if point > 0 then
    String.ofList (s.toList.take point.toNat) ++ "." ++ String.ofList (s.toList.drop point.toNat)
  else "0." ++ String.ofList (List.replicate (-point).toNat '0') ++ s

def Digits.leading (d : Digits) : Int :=
  ((toString d.digits).length : Int) + d.exponent - 1

def Digits.scientific (d : Digits) : String :=
  let s := (toString d.digits).toList
  let t := d.leading
  let mantissa := match s with
    | [] => "0"
    | [c] => c.toString
    | c :: rest => c.toString ++ "." ++ String.ofList rest
  mantissa ++ "e" ++ (if t < 0 then "-" else "+") ++ twoDigits t.natAbs

/-- The text of a finite double in a layout: its shortest digits, a minus sign when the sign bit
is set (also for zero), positional or with an exponent as the layout says. -/
def Layout.render (layout : Layout) (x : Float) : String :=
  let d := shortest x
  let sign := if (Binary.ofFloat x).negative then "-" else ""
  if d.digits = 0 then sign ++ "0"
  else if layout.positionalFrom ≤ d.leading && d.leading < layout.positionalUntil then
    sign ++ d.positional
  else sign ++ d.scientific

end DruidQuery.Decimal
