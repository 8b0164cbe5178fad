import DruidQuery.Builder

namespace DruidQuery

open Time

/-- A call of a builder method with its arguments. The aggregation methods of a fixed type
(`count`, `longSum` and its alias `sum`, up to `stringLast`) are `simple` with that type, adding a
post-aggregation is `postAggregationWith "longSum"`, and a method given a callback is called with
what the callback returns. -/
inductive Call where
  | queryType (t : String)
  | timeseries
  | groupBy (dimensions : List String)
  | topN (dimension metric : String) (threshold : Int)
  | search (what : String) (dimensions : List String) (limit : Int)
  | metadata
  | select (dimensions metrics : List String) (threshold : Int)
  | timeBoundary (bound : String)
  | dataSourceMetadata
  | dataSource (source : String)
  | interval (start stop : Moment)
  | intervalText (start stop : String)
  | intervals (pairs : List (String × String))
  | last (d : Int64)
  | granularity (name timeZone : String)
  | useCache (v : Bool)
  | populateCache (v : Bool)
  | timeout (d : Int64)
  | priority (p : Int)
  | queryId (id : String)
  | filter (f : Option Filter)
  | filterExpr (src : String)
  | filterMap (entries : List (String × Value)) (mode : String)
  | having (h : Option Having)
  | havingExpr (src : String)
  | limit (n : Int) (columns : List (Option Column))
  | simple (type : String) (metrics : List String)
  | aggregate (typeName : String) (metrics : List String)
  | cardinality (name : String) (dimensions : Option (List String)) (byRow : Bool)
  | javascript (name : String) (columns : Option (List String)) (aggregate combine reset : String)
  | thetaSketch (metric name : String)
  | filtered (metric name type : String) (f : Option Filter)
  | histogram (metric strategy : String) (options : List (String × Value))
  | histograms (metrics : List String)
  | postAggregationWith (type : String) (p : Option PostAggregation)
  | postAggregationExpr (name src : String)
  | postAggregationScript (name src : String)
  | thetaSketchPostAggregation (name fn : String) (fields : List String)
  | validate
  | json

inductive Reply where
  | done
  | failed (e : BuildError)
  | findings (fs : List Finding)
  | text (s : String)

namespace Builder

def attempt (b : Builder) : Except BuildError Builder → Builder × Reply
  | .ok b' => (b', .done)
  | .error e => (b, .failed e)

def settle : Builder × Option BuildError → Builder × Reply
  | (b, none) => (b, .done)
  | (b, some e) => (b, .failed e)

/-- Performs a call. -/
def perform (b : Builder) : Call → Builder × Reply
  | .queryType t => (b.queryType t, .done)
  | .timeseries => (b.timeseries, .done)
  | .groupBy dimensions => (b.groupBy dimensions, .done)
  | .topN dimension metric threshold => (b.topN dimension metric threshold, .done)
  | .search what dimensions limit => (b.search what dimensions limit, .done)
  | .metadata => (b.metadata, .done)
  | .select dimensions metrics threshold => (b.select dimensions metrics threshold, .done)
  | .timeBoundary bound => (b.timeBoundary bound, .done)
  | .dataSourceMetadata => (b.dataSourceMetadata, .done)
  | .dataSource source => (b.dataSource source, .done)
  | .interval start stop => (b.interval start stop, .done)
  | .intervalText start stop => b.attempt (b.intervalText start stop)
  | .intervals pairs => b.attempt (b.intervals pairs)
  | .last d => (b.last d, .done)
  | .granularity name timeZone => (b.granularity name timeZone, .done)
  | .useCache v => (b.useCache v, .done)
  | .populateCache v => (b.populateCache v, .done)
  | .timeout d => (b.timeout d, .done)
  | .priority p => (b.priority p, .done)
  | .queryId id => (b.queryId id, .done)
  | .filter f => (b.filter f, .done)
  | .filterExpr src => b.attempt (b.filterExpr src)
  | .filterMap entries mode => b.attempt (b.filterMap entries mode)
  | .having h => (b.having h, .done)
  | .havingExpr src => b.attempt (b.havingExpr src)
  | .limit n columns => (b.limit n columns, .done)
  | .simple type metrics => (b.simple type metrics, .done)
  | .aggregate typeName metrics => b.attempt (b.aggregate typeName metrics)
  | .cardinality name dimensions byRow => (b.cardinality name dimensions byRow, .done)
  | .javascript name columns aggregate combine reset =>
    (b.javascript name columns aggregate combine reset, .done)
  | .thetaSketch metric name => (b.thetaSketch metric name, .done)
  | .filtered metric name type f => (b.filtered metric name type f, .done)
  | .histogram metric strategy options => b.attempt (b.histogram metric strategy options)
  | .histograms metrics => settle (b.histograms metrics)
  | .postAggregationWith type p => (b.postAggregationWith type p, .done)
  | .postAggregationExpr name src => b.attempt (b.postAggregationExpr name src)
  | .postAggregationScript name src => b.attempt (b.postAggregationScript name src)
  | .thetaSketchPostAggregation name fn fields =>
    (b.thetaSketchPostAggregation name fn fields, .done)
  | .validate => (b.validate.2, .findings b.validate.1)
  | .json => (b, .text b.json)

def run (b : Builder) (calls : List Call) : Builder :=
  calls.foldl (fun b c => (b.perform c).1) b

end Builder

end DruidQuery
