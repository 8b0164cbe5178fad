import DruidQuery.Time.Iso

namespace DruidQuery

open Time

inductive IntervalError where
  | shape
  | date
  | order (start stop : Moment)
deriving DecidableEq, Repr

def IntervalError.message : IntervalError → String
  | .shape => "must consist of two ISO8601 dates separated by /"
  | .date => "must consist of valid ISO8601 dates"
  | .order _ _ => "first date needs to be < second date"

/-- Reads an interval. -/
def parseInterval (s : String) : Except IntervalError (Moment × Moment) :=
  match s.splitOn "/" with
  | [a, b] =>
    match parseIso a, parseIso b with
    | .ok start, .ok stop =>
      if start.totalNanos < stop.totalNanos then .ok (start, stop) else .error (.order start stop)
    | _, _ => .error .date
  | _ => .error .shape

def formatInterval (start stop : Moment) : String := formatIso start ++ "/" ++ formatIso stop

/-- Reads two dates and writes them as an interval; the error names the date that failed. -/
def normalizeInterval (start stop : String) : Except String String :=
  match parseIso start, parseIso stop with
  | .error e, _ => .error ("interval start: " ++ e.message)
  | .ok _, .error e => .error ("interval end: " ++ e.message)
  | .ok a, .ok b => .ok (formatInterval a b)

end DruidQuery
