
namespace DruidQuery

/-- Defaults for building a query. The timeout is a duration; zero leaves it unset. -/
structure Config where
  dataSource : String := ""
  queryType : String := "timeseries"
  granularity : String := ""
  timeZone : String := "UTC"
  useCache : Option Bool := none
  populateCache : Option Bool := none
  timeout : Int64 := 0
  priority : Option Int := none
  logLevel : String := "WARN"
deriving DecidableEq, Repr, Inhabited

end DruidQuery
