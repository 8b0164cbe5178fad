import DruidQuery.Text.Case
import DruidQuery.Text.Classes

namespace DruidQuery

/-- A log level. -/
inductive LogLevel where
  | debug
  | info
  | warn
  | error
  | off
deriving DecidableEq, Repr, Inhabited

namespace LogLevel

def rank : LogLevel → Int
  | debug => 0
  | info => 1
  | warn => 2
  | error => 3
  | off => 4

def ofRank? (n : Int) : Option LogLevel :=
  [debug, info, warn, error, off].find? (·.rank == n)

def name : LogLevel → String
  | debug => "DEBUG"
  | info => "INFO"
  | warn => "WARN"
  | error => "ERROR"
  | off => "OFF"

def rankName (n : Int) : String := ((ofRank? n).map name).getD "UNKNOWN"

def parse (s : String) : LogLevel :=
  match Text.upperText (Text.trimSpace s) with
  | "DEBUG" => debug
  | "WARN" => warn
  | "WARNING" => warn
  | "ERROR" => error
  | "OFF" => off
  | "NONE" => off
  | _ => info

end LogLevel

end DruidQuery
