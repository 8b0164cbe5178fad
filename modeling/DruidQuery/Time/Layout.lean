import DruidQuery.Time.Moment

namespace DruidQuery.Time

inductive Piece where
  | literal (c : Char)
  | year
  | month
  | day
  | hour
  | minute
  | second
  | fraction
  | zone (colon : Bool)
  | offset
deriving DecidableEq, Repr

abbrev Layout := List Piece

structure Reading where
  year : Int := 0
  month : Nat := 1
  day : Nat := 1
  hour : Nat := 0
  minute : Nat := 0
  second : Nat := 0
  nanos : Fin 1000000000 := 0
  offset : Option Int := none

def digitAt (cs : List Char) (i : Nat) : Option Nat :=
  match cs[i]? with
  | some c => if c.isDigit then some (c.toNat - 48) else none
  | none => none

def twoDigits (cs : List Char) : Option (Nat × List Char) := do
  let a ← digitAt cs 0
  let b ← digitAt cs 1
  pure (a * 10 + b, cs.drop 2)

def oneOrTwoDigits (cs : List Char) : Option (Nat × List Char) := do
  let a ← digitAt cs 0
  match digitAt cs 1 with
  | some b => pure (a * 10 + b, cs.drop 2)
  | none => pure (a, cs.drop 1)

def fractionNanos (digits : List Char) : Nat :=
  let kept := digits.take 9
  let v := kept.foldl (fun acc c => acc * 10 + (c.toNat - 48)) 0
  v * Nat.pow 10 (9 - kept.length)

def fractionAt (cs : List Char) : Option (Fin 1000000000 × List Char) :=
  match cs with
  | sep :: d :: rest =>
    if (sep = '.' || sep = ',') && d.isDigit then
      let digits := d :: rest.takeWhile Char.isDigit
      some (Fin.ofNat 1000000000 (fractionNanos digits), cs.drop (1 + digits.length))
    else none
  | _ => none

def offsetAt (colon : Bool) (cs : List Char) : Option (Int × List Char) := do
  let len := if colon then 6 else 5
  if cs.length < len then none
  if colon && cs[3]? != some ':' then none
  let sign ← cs.head?
  let (h, _) ← twoDigits (cs.drop 1)
  let (m, _) ← twoDigits (cs.drop (if colon then 4 else 3))
  if h > 24 || m > 60 then none
  let size : Int := (h * 60 + m) * 60
  if sign = '+' then pure (size, cs.drop len)
  else if sign = '-' then pure (-size, cs.drop len)
  else none

def readPieces : Layout → List Char → Reading → Option Reading
  | [], [], r => some r
  | [], _ :: _, _ => none
  | p :: rest, cs, r =>
    match p with
    | .literal c =>
      if cs.head? = some c then readPieces rest (cs.drop 1) r else none
    | .year =>
      match digitAt cs 0, digitAt cs 1, digitAt cs 2, digitAt cs 3 with
      | some a, some b, some c, some d =>
        readPieces rest (cs.drop 4) { r with year := ((a * 1000 + b * 100 + c * 10 + d : Nat) : Int) }
      | _, _, _, _ => none
    | .month => do
      let (m, cs) ← twoDigits cs
      if m < 1 || m > 12 then none
      readPieces rest cs { r with month := m }
    | .day => do
      let (d, cs) ← twoDigits cs
      readPieces rest cs { r with day := d }
    | .hour => do
      let (h, cs) ← oneOrTwoDigits cs
      if h ≥ 24 then none
      readPieces rest cs { r with hour := h }
    | .minute => do
      let (m, cs) ← twoDigits cs
      if m ≥ 60 then none
      readPieces rest cs { r with minute := m }
    | .second => do
      let (s, cs) ← twoDigits cs
      if s ≥ 60 then none
      let r := { r with second := s }
      let nextField := rest.find? fun q => match q with
        | .literal _ => false
        | _ => true
      if nextField = some .fraction then readPieces rest cs r
      else match fractionAt cs with
        | some (n, cs) => readPieces rest cs { r with nanos := n }
        | none => readPieces rest cs r
    | .fraction =>
      match fractionAt cs with
      | some (n, cs) => readPieces rest cs { r with nanos := n }
      | none => readPieces rest cs r
    | .zone colon =>
      if cs.head? = some 'Z' then readPieces rest (cs.drop 1) { r with offset := some 0 }
      else do
        let (o, cs) ← offsetAt colon cs
        readPieces rest cs { r with offset := some o }
    | .offset => do
      let (o, cs) ← offsetAt true cs
      readPieces rest cs { r with offset := some o }

/-- Reads a moment in a layout; the day must exist in its month. -/
def Layout.read (layout : Layout) (s : String) : Option Moment := do
  let r ← readPieces layout s.toList {}
  if r.day < 1 || r.day > daysIn r.month r.year then none
  let c : Civil :=
    { year := r.year, month := r.month, day := r.day
      hour := r.hour, minute := r.minute, second := r.second }
  pure (Moment.ofCivil c r.nanos (r.offset.getD 0))

def padded (width : Nat) (n : Int) : String :=
  let digits := toString n.natAbs
  let body := String.ofList (List.replicate (width - digits.length) '0') ++ digits
  if n < 0 then "-" ++ body else body

def offsetText (colon : Bool) (offset : Int) : String :=
  let minutes := offset.natAbs / 60
  (if offset.tdiv 60 < 0 then "-" else "+") ++ padded 2 (minutes / 60) ++ (if colon then ":" else "") ++
    padded 2 (minutes % 60)

def fractionText (nanos : Nat) : String :=
  if nanos = 0 then ""
  else
    let digits := (padded 9 nanos).toList
    "." ++ String.ofList (digits.reverse.dropWhile (· = '0')).reverse

def Layout.write (layout : Layout) (m : Moment) : String :=
  let c := m.civil
  String.join (layout.map fun
    | .literal ch => ch.toString
    | .year => padded 4 c.year
    | .month => padded 2 c.month
    | .day => padded 2 c.day
    | .hour => padded 2 c.hour
    | .minute => padded 2 c.minute
    | .second => padded 2 c.second
    | .fraction => fractionText m.nanos.val
    | .zone colon => if m.offset = 0 then "Z" else offsetText colon m.offset
    | .offset => offsetText true m.offset)

end DruidQuery.Time
