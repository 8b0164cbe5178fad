import DruidQuery.Query.Check
import DruidQuery.Filter.Text
import DruidQuery.Filter.Dimension
import DruidQuery.Having.Text
import DruidQuery.PostAggregation.Text
import DruidQuery.PostAggregation.Histogram
import DruidQuery.Config
import DruidQuery.Log
import DruidQuery.Time.Duration

namespace DruidQuery

open Time

inductive BuildError where
  | interval (message : String)
  | expression (e : Expr.Error)
  | aggregationType (message : String)
  | histogram (e : PostAggregation.HistogramError)
  | script (name : String) (e : Script.Error)
  | filterMap (e : Filter.MapError)

def BuildError.message : BuildError → String
  | .interval m => m
  | .expression e => e.render
  | .aggregationType m => m
  | .histogram e => e.message
  | .script name e => "post-aggregation " ++ name ++ ": " ++ e.message
  | .filterMap e => e.message

/-- A query being built, the builder's clock, whether it logs, and its log so far. -/
structure Builder where
  query : Query
  clock : Moment
  logging : Bool := true
  log : List String := []

/-- A choice made when a builder is created. -/
inductive BuilderOption where
  | clock (now : Moment)
  | config (c : Config)
  | queryTimeout (d : Int64)
  | logLevel (rank : Int)
  | discardLog

namespace Builder

def record (b : Builder) (line : String) : Builder :=
  if b.logging then { b with log := b.log ++ [line] } else b

def setLevel (b : Builder) (rank : Int) : Builder := b.record ("SETLEVEL " ++ LogLevel.rankName rank)

def edit (b : Builder) (f : Query → Query) : Builder := { b with query := f b.query }

def editContext (b : Builder) (f : Context → Context) : Builder :=
  b.edit fun q => { q with context := some (f (q.context.getD {})) }

def queryType (b : Builder) (t : String) : Builder := b.edit fun q => { q with queryType := t }

def timeseries (b : Builder) : Builder := b.queryType "timeseries"

def groupBy (b : Builder) (dimensions : List String) : Builder :=
  (b.queryType "groupBy").edit fun q =>
    { q with dimensions := dimensions.map fun d => some (Dimension.ofName d) }

def topN (b : Builder) (dimension metric : String) (threshold : Int) : Builder :=
  (b.queryType "topN").edit fun q => { q with dimension, metric, threshold }

def search (b : Builder) (what : String) (dimensions : List String) (limit : Int) : Builder :=
  (b.queryType "search").edit fun q =>
    let q := if dimensions.isEmpty then q else { q with searchDimensions := dimensions }
    let q := if limit > 0 then { q with limit } else q
    { q with sort := some { type := "lexicographic" },
             searchQuery := some { type := "insensitive_contains", value := what } }

def useCache (b : Builder) (v : Bool) : Builder := b.editContext fun c => { c with useCache := some v }

def populateCache (b : Builder) (v : Bool) : Builder :=
  b.editContext fun c => { c with populateCache := some v }

def metadata (b : Builder) : Builder :=
  ((b.queryType "segmentMetadata").useCache false).populateCache false

def select (b : Builder) (dimensions metrics : List String) (threshold : Int) : Builder :=
  (b.queryType "select").edit fun q =>
    { q with dimensions := dimensions.map fun d => some (Dimension.ofName d), metrics,
             pagingSpec := some { threshold } }

def timeBoundary (b : Builder) (bound : String) : Builder :=
  (b.queryType "timeBoundary").edit fun q => { q with bound }

def dataSourceMetadata (b : Builder) : Builder := b.queryType "dataSourceMetadata"

def lastSegment (source : String) : String :=
  match source.splitOn "/" with
  | [] => source
  | parts => parts.getLast?.getD source

def dataSource (b : Builder) (source : String) : Builder :=
  b.edit fun q => { q with dataSource := lastSegment source }

def interval (b : Builder) (start stop : Moment) : Builder :=
  b.edit fun q => { q with intervals := [formatInterval start stop] }

def intervals (b : Builder) (pairs : List (String × String)) : Except BuildError Builder := do
  let texts ← pairs.mapM fun (s, e) => (normalizeInterval s e).mapError BuildError.interval
  return b.edit fun q => { q with intervals := texts }

def intervalText (b : Builder) (start stop : String) : Except BuildError Builder :=
  b.intervals [(start, stop)]

def last (b : Builder) (d : Int64) : Builder := b.interval (b.clock.add (-d).toInt) b.clock

def granularity (b : Builder) (name timeZone : String) : Builder :=
  b.edit fun q => { q with granularity := some (Granularity.ofName name timeZone) }

def timeout (b : Builder) (d : Int64) : Builder :=
  b.editContext fun c => { c with timeout := some (d.toInt.tdiv 1000000) }

def priority (b : Builder) (p : Int) : Builder := b.editContext fun c => { c with priority := some p }

def queryId (b : Builder) (id : String) : Builder := b.editContext fun c => { c with queryId := id }

def filter (b : Builder) (f : Option Filter) : Builder :=
  b.edit fun q => { q with filter := Filter.chain q.filter f }

def filterExpr (b : Builder) (src : String) : Except BuildError Builder :=
  match Filter.parse src with
  | .ok f => .ok (b.filter (some f))
  | .error e => .error (.expression e)

def filterMap (b : Builder) (entries : List (String × Value)) (mode : String) :
    Except BuildError Builder :=
  match Filter.ofMap entries mode with
  | .ok f => .ok (b.filter f)
  | .error e => .error (.filterMap e)

def having (b : Builder) (h : Option Having) : Builder :=
  b.edit fun q => { q with having := Having.chain q.having h }

def havingExpr (b : Builder) (src : String) : Except BuildError Builder :=
  match Having.parse src with
  | .ok h => .ok (b.having (some h))
  | .error e => .error (.expression e)

def limit (b : Builder) (n : Int) (columns : List (Option Column)) : Builder :=
  b.edit fun q => { q with limitSpec := some (LimitSpec.ofColumns n columns) }

def add (b : Builder) (a : Aggregation) : Builder × Bool :=
  let name := a.outputName
  if b.query.containsAggregation name then
    (b.record ("DEBUG skip duplicate aggregation " ++ name ++ " (" ++ a.type ++ ")"), false)
  else (b.edit fun q => { q with aggregations := q.aggregations ++ [some a] }, true)

def simple (b : Builder) (type : String) (metrics : List String) : Builder :=
  metrics.foldl (fun b m => if m.isEmpty then b else (b.add (Aggregation.ofType type m)).1) b

def aggregate (b : Builder) (typeName : String) (metrics : List String) :
    Except BuildError Builder :=
  match Aggregation.parseType typeName with
  | .ok t => .ok (b.simple t metrics)
  | .error m => .error (.aggregationType m)

def cardinality (b : Builder) (name : String) (dimensions : Option (List String)) (byRow : Bool) :
    Builder :=
  (b.add (Aggregation.cardinality name dimensions byRow)).1

def javascript (b : Builder) (name : String) (columns : Option (List String))
    (aggregate combine reset : String) : Builder :=
  (b.add (Aggregation.javascript name columns aggregate combine reset)).1

def thetaSketch (b : Builder) (metric name : String) : Builder :=
  (b.add (Aggregation.thetaSketch metric name)).1

def filtered (b : Builder) (metric name type : String) (f : Option Filter) : Builder :=
  (b.add (Aggregation.filtered metric name type f)).1

def appendPostAggregation (b : Builder) (p : PostAggregation) : Builder :=
  b.edit fun q => { q with postAggregations := q.postAggregations ++ [some p] }

def histogram (b : Builder) (metric strategy : String) (options : List (String × Value)) :
    Except BuildError Builder :=
  let strategy := if strategy.isEmpty then "equalBuckets" else strategy
  let fold := Aggregation.approxHistogramFold metric
  match PostAggregation.histogram strategy metric fold.name options with
  | .ok p => .ok ((b.add fold).1.appendPostAggregation p)
  | .error e => .error (.histogram e)

def histograms (b : Builder) : List String → Builder × Option BuildError
  | [] => (b, none)
  | m :: ms =>
    match b.histogram m "equalBuckets" [] with
    | .ok b => b.histograms ms
    | .error e => (b, some e)

def postAggregationWith (b : Builder) (type : String) (p : Option PostAggregation) : Builder :=
  match p with
  | none => b
  | some p =>
    p.requiredFields.foldl (fun b name =>
      let (b, added) := b.add (Aggregation.ofType type name)
      if added then
        b.record ("DEBUG post-aggregation " ++ p.name ++ " requires " ++ name ++ ", registered " ++ type)
      else b) (b.appendPostAggregation p)

def postAggregation (b : Builder) (p : Option PostAggregation) : Builder :=
  b.postAggregationWith "longSum" p

def postAggregationExpr (b : Builder) (name src : String) : Except BuildError Builder :=
  match PostAggregation.parse src with
  | .ok p => .ok (b.postAggregation (some (p.named name)))
  | .error e => .error (.expression e)

def postAggregationScript (b : Builder) (name src : String) : Except BuildError Builder :=
  match PostAggregation.ofScript src with
  | .ok p => .ok (b.postAggregation (some (p.named name)))
  | .error e => .error (.script name e)

def thetaSketchPostAggregation (b : Builder) (name fn : String) (fields : List String) : Builder :=
  b.appendPostAggregation (PostAggregation.thetaSketch name fn fields)

def validate (b : Builder) : List Finding × Builder :=
  let findings := Query.validate b.query
  (findings,
    if findings.isEmpty then b else b.record ("WARN query validation failed: " ++ findingsText findings))

def json (b : Builder) : String := (Query.toJson b.query).compact

def applyConfig (b : Builder) (c : Config) : Builder :=
  let b := if c.logLevel.isEmpty then b else b.setLevel (LogLevel.parse c.logLevel).rank
  let b := if c.dataSource.isEmpty then b else b.dataSource c.dataSource
  let b := if c.queryType.isEmpty then b else b.queryType c.queryType
  let b := if c.granularity.isEmpty then b else b.granularity c.granularity c.timeZone
  let b := match c.useCache with | some v => b.useCache v | none => b
  let b := match c.populateCache with | some v => b.populateCache v | none => b
  let b := if c.timeout > 0 then b.timeout c.timeout else b
  match c.priority with
  | some p => b.priority p
  | none => b

def applyOption (acc : Builder × Option Config) : BuilderOption → Builder × Option Config
  | .clock now => ({ acc.1 with clock := now }, acc.2)
  | .config c => (acc.1, some c)
  | .queryTimeout d => (acc.1.timeout d, acc.2)
  | .logLevel rank => (acc.1.setLevel rank, acc.2)
  | .discardLog => ({ acc.1 with logging := false }, acc.2)

/-- A builder of a `timeseries` query with a clock and options. Defaults apply after the options;
a query still without interval covers the clock's UTC day up to the clock. -/
def create (clock : Moment) (options : List BuilderOption) : Builder :=
  let (b, config) := options.foldl applyOption ({ query := Query.ofType "timeseries", clock }, none)
  let b := match config with
    | some c => b.applyConfig c
    | none => b
  if b.query.intervals.isEmpty then
    let now := b.clock.toUtc
    b.interval now.startOfDay now
  else b

def takeLog (b : Builder) : List String × Builder := (b.log, { b with log := [] })

end Builder

end DruidQuery
