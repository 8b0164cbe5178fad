import DruidQuery.Query.Basic
import DruidQuery.Query.Interval
import DruidQuery.Aggregation.Check
import DruidQuery.Having.Check
import DruidQuery.PostAggregation.Check

namespace DruidQuery.Query

def granularityTypes : List String := ["timeseries", "search", "groupBy", "select", "topN"]

def aggregatingTypes : List String := ["timeseries", "groupBy", "topN"]

def checkIntervals (intervals : List String) : List Finding :=
  if intervals.isEmpty then [⟨"intervals", "must be a list with at least one interval"⟩]
  else intervals.zipIdx.filterMap fun (s, i) =>
    match parseInterval s with
    | .ok _ => none
    | .error e => some ⟨indexPath "intervals" i, e.message⟩

def checkPostAggregations (ps : List (Option PostAggregation)) : List Finding :=
  ps.zipIdx.flatMap fun (p, i) =>
    let path := indexPath "postAggregations" i
    match p with
    | none => [⟨path, Finding.blank⟩]
    | some p =>
      (if Text.isBlank p.name then [⟨joinPath path "name", Finding.blank⟩] else []) ++
      qualify path p.validate

def table : RuleTable Query where
  discriminator := (·.queryType)
  rules := [
    { field := "queryType"
      check := fun q =>
        if q.queryType.isEmpty then [⟨"queryType", Finding.blank⟩]
        else checkOneOf "queryType" q.queryType knownTypes },
    { field := "dataSource"
      check := fun q => checkNotBlank "dataSource" q.dataSource },
    { field := "intervals"
      check := fun q => checkIntervals q.intervals },
    { field := "granularity", types := granularityTypes
      present := fun q => q.granularity.isSome
      check := fun q => match q.granularity with
        | none => [⟨"granularity", Finding.blank⟩]
        | some g => qualify "granularity" g.validate },
    { field := "dimensions", types := ["groupBy", "select"]
      present := fun q => !q.dimensions.isEmpty
      check := fun q =>
        if q.dimensions.isEmpty then [⟨"dimensions", "must be a list with at least one dimension"⟩]
        else q.dimensions.zipIdx.flatMap fun (d, i) => match d with
          | none => [⟨indexPath "dimensions" i, Finding.blank⟩]
          | some d => qualify (indexPath "dimensions" i) d.validate },
    { field := "aggregations", types := aggregatingTypes
      present := fun q => !q.aggregations.isEmpty
      check := fun q =>
        if q.aggregations.isEmpty then
          [⟨"aggregations", "must be a list with at least one aggregator"⟩]
        else q.aggregations.zipIdx.flatMap fun (a, i) => match a with
          | none => []
          | some a => qualify (indexPath "aggregations" i) a.validate },
    { field := "postAggregations", types := aggregatingTypes
      present := fun q => !q.postAggregations.isEmpty
      check := fun q => checkPostAggregations q.postAggregations },
    { field := "filter", types := granularityTypes
      present := fun q => q.filter.isSome
      check := fun q => match q.filter with
        | none => []
        | some f => qualify "filter" f.validate },
    { field := "having", types := ["groupBy"]
      present := fun q => q.having.isSome
      check := fun q => match q.having with
        | none => []
        | some h => qualify "having" h.validate },
    { field := "limitSpec", types := ["groupBy"]
      present := fun q => q.limitSpec.isSome
      check := fun q => match q.limitSpec with
        | none => []
        | some l => qualify "limitSpec" l.validate },
    { field := "limit", types := ["search"]
      present := fun q => q.limit ≠ 0
      check := fun q => if q.limit < 0 then [⟨"limit", "must be greater than 0"⟩] else [] },
    { field := "searchDimensions", types := ["search"]
      present := fun q => !q.searchDimensions.isEmpty },
    { field := "query", types := ["search"]
      present := fun q => q.searchQuery.isSome
      check := fun q => match q.searchQuery with
        | none => [⟨"query", Finding.blank⟩]
        | some s =>
          if s.type = "insensitive_contains" || s.type = "contains" then []
          else [⟨"query.type", "must be one of [insensitive_contains, contains]"⟩] },
    { field := "sort", types := ["search"]
      present := fun q => q.sort.isSome },
    { field := "bound", types := ["timeBoundary"]
      present := fun q => !q.bound.isEmpty
      check := fun q => checkOneOf "bound" q.bound ["maxTime", "minTime"] },
    { field := "toInclude", types := ["segmentMetadata"]
      present := fun q => q.toInclude.isSome },
    { field := "merge", types := ["segmentMetadata"]
      present := fun q => q.merge.isSome },
    { field := "metrics", types := ["select"]
      present := fun q => !q.metrics.isEmpty },
    { field := "pagingSpec", types := ["select"]
      present := fun q => q.pagingSpec.isSome
      check := fun q => match q.pagingSpec with
        | none => [⟨"pagingSpec", Finding.blank⟩]
        | some p =>
          if p.threshold ≤ 0 then [⟨"pagingSpec.threshold", "must be greater than 0"⟩] else [] },
    { field := "dimension", types := ["topN"]
      present := fun q => !q.dimension.isEmpty
      check := fun q => checkNotBlank "dimension" q.dimension },
    { field := "metric", types := ["topN"]
      present := fun q => !q.metric.isEmpty
      check := fun q => checkNotBlank "metric" q.metric },
    { field := "threshold", types := ["topN"]
      present := fun q => q.threshold ≠ 0
      check := fun q => if q.threshold ≤ 0 then [⟨"threshold", "must be greater than 0"⟩] else [] },
    { field := "context"
      check := fun q => match q.context with
        | none => []
        | some c => qualify "context" c.validate }]

/-- Every finding of a query. -/
def validate (q : Query) : List Finding := table.validate q

def isValid (q : Query) : Bool := q.validate.isEmpty

end DruidQuery.Query
