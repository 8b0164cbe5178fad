import DruidQuery.Finding
import DruidQuery.Json.Tree

namespace DruidQuery

structure Granularity where
  simple : String := ""
  type : String := ""
  period : String := ""
  duration : Int := 0
  timeZone : String := ""
  origin : String := ""
deriving Inhabited

namespace Granularity

def simpleNames : List String :=
  ["all", "none", "minute", "fifteen_minute", "thirty_minute", "hour", "day"]

def isSimple (name : String) : Bool := simpleNames.contains name

def ofName (name timeZone : String) : Granularity :=
  if isSimple name then { simple := name }
  else { type := "period", period := name, timeZone := if timeZone.isEmpty then "UTC" else timeZone }

def objectJson (g : Granularity) : Json :=
  .record [("type", Json.text? g.type), ("period", Json.text? g.period),
    ("duration", Json.int? g.duration), ("timeZone", Json.text? g.timeZone),
    ("origin", Json.text? g.origin)]

def toJson (g : Granularity) : Json :=
  if g.simple.isEmpty then .verbatim g.objectJson.compact else .string g.simple

def text (g : Granularity) : String :=
  if g.simple.isEmpty then g.type ++ ":" ++ g.period else g.simple

def validate (g : Granularity) : List Finding :=
  if !g.simple.isEmpty then
    if isSimple g.simple then []
    else [⟨"", "must be one of [" ++ ", ".intercalate simpleNames ++ "]"⟩]
  else if g.type = "period" then checkNotBlank "period" g.period
  else if g.type = "duration" then
    if g.duration ≤ 0 then [⟨"duration", "must be greater than 0"⟩] else []
  else if g.type.isEmpty then [⟨"type", Finding.blank⟩]
  else [⟨"type", "must be one of [period, duration]"⟩]

end Granularity

end DruidQuery
