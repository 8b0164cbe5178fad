import DruidQuery.Query.Basic
import DruidQuery.Aggregation.Read
import DruidQuery.Having.Read
import DruidQuery.PostAggregation.Read

namespace DruidQuery

open Json (ReadM)
open Json.Reader

def Granularity.members : List (Member Granularity) := [
  ⟨"type", "Type", fun g => return { g with type := ← readString }⟩,
  ⟨"period", "Period", fun g => return { g with period := ← readString }⟩,
  ⟨"duration", "Duration", fun g => return { g with duration := ← readUnlessNull readInt64 g.duration }⟩,
  ⟨"timeZone", "TimeZone", fun g => return { g with timeZone := ← readString }⟩,
  ⟨"origin", "Origin", fun g => return { g with origin := ← readString }⟩]

def Granularity.ofBytes (bytes : Array UInt8) : Except String Granularity :=
  match readWhole readString bytes with
  | .ok s => .ok { simple := s }
  | .error _ =>
    match readWhole (readRecord "query.granularityObject" Granularity.members {}) bytes with
    | .ok g => .ok { g with simple := "" }
    | .error m => .error ("granularity must be a string or an object: " ++ m)

def readGranularity (old : Option Granularity) : ReadM (Option Granularity) := do
  if ← readNil then return none
  discard nextToken
  unreadByte
  let start := (← get).head
  skip
  let r ← get
  match Granularity.ofBytes (r.bytes.extract start r.head) with
  | .ok g => return some g
  | .error m => report "unmarshalerDecoder" m; return some (old.getD {})

def Dimension.members : List (Member Dimension) := [
  ⟨"type", "Type", fun d => return { d with type := ← readString }⟩,
  ⟨"dimension", "Dimension", fun d => return { d with dimension := ← readString }⟩,
  ⟨"outputName", "OutputName", fun d => return { d with outputName := ← readString }⟩]

def Column.members : List (Member Column) := [
  ⟨"dimension", "Dimension", fun c => return { c with dimension := ← readString }⟩,
  ⟨"direction", "Direction", fun c => return { c with direction := ← readString }⟩]

def LimitSpec.members : List (Member LimitSpec) := [
  ⟨"type", "Type", fun l => return { l with type := ← readString }⟩,
  ⟨"limit", "Limit", fun l => return { l with limit := ← readUnlessNull readInt64 l.limit }⟩,
  ⟨"columns", "Columns", fun l => do
    let (columns, columnsSpare) ← readPlainSlice "[]*query.Column" none
      (readOptional {} (readRecord "query.Column" Column.members)) l.columns l.columnsSpare
    return { l with columns, columnsSpare }⟩]

def SearchQuery.members : List (Member SearchQuery) := [
  ⟨"type", "Type", fun s => return { s with type := ← readString }⟩,
  ⟨"value", "Value", fun s => return { s with value := ← readString }⟩,
  ⟨"caseSensitive", "CaseSensitive", fun s =>
    return { s with caseSensitive := ← readFlag s.caseSensitive }⟩]

def SearchSort.members : List (Member SearchSort) := [
  ⟨"type", "Type", fun s => return { s with type := ← readString }⟩]

def PagingSpec.members : List (Member PagingSpec) := [
  ⟨"pagingIdentifiers", "PagingIdentifiers", fun p =>
    return { p with pagingIdentifiers := ← readIntDict p.pagingIdentifiers }⟩,
  ⟨"threshold", "Threshold", fun p =>
    return { p with threshold := ← readUnlessNull readInt64 p.threshold }⟩]

def ToInclude.members : List (Member ToInclude) := [
  ⟨"type", "Type", fun t => return { t with type := ← readString }⟩,
  ⟨"columns", "Columns", fun t => do
    let (columns, columnsSpare) ← readStrings t.columns t.columnsSpare
    return { t with columns, columnsSpare }⟩]

def Context.members : List (Member Context) := [
  ⟨"timeout", "Timeout", fun c => return { c with timeout := ← readOptionalInt c.timeout }⟩,
  ⟨"priority", "Priority", fun c => return { c with priority := ← readOptionalInt c.priority }⟩,
  ⟨"queryId", "QueryID", fun c => return { c with queryId := ← readString }⟩,
  ⟨"useCache", "UseCache", fun c => return { c with useCache := ← readFlag c.useCache }⟩,
  ⟨"populateCache", "PopulateCache", fun c =>
    return { c with populateCache := ← readFlag c.populateCache }⟩,
  ⟨"bySegment", "BySegment", fun c => return { c with bySegment := ← readFlag c.bySegment }⟩,
  ⟨"finalize", "Finalize", fun c => return { c with finalize := ← readFlag c.finalize }⟩]

namespace Query

def members : List (Member Query) := [
  ⟨"queryType", "QueryType", fun q => return { q with queryType := ← readString }⟩,
  ⟨"dataSource", "DataSource", fun q => return { q with dataSource := ← readString }⟩,
  ⟨"intervals", "Intervals", fun q => do
    let (intervals, intervalsSpare) ← readStrings q.intervals q.intervalsSpare
    return { q with intervals, intervalsSpare }⟩,
  ⟨"granularity", "Granularity", fun q =>
    return { q with granularity := ← readGranularity q.granularity }⟩,
  ⟨"dimensions", "Dimensions", fun q => do
    let (dimensions, dimensionsSpare) ← readPlainSlice "[]*query.Dimension" none
      (readOptionalRecord "query.Dimension" {} Dimension.members) q.dimensions q.dimensionsSpare
    return { q with dimensions, dimensionsSpare }⟩,
  ⟨"aggregations", "Aggregations", fun q => do
    let (aggregations, aggregationsSpare) ← readPlainSlice "[]*aggregation.Aggregation" none
      (readOptional Aggregation.blank Aggregation.readJson) q.aggregations q.aggregationsSpare
    return { q with aggregations, aggregationsSpare }⟩,
  ⟨"postAggregations", "PostAggregations", fun q => do
    let (postAggregations, postAggregationsSpare) ←
      readPlainSlice "[]*postagg.PostAggregation" none
        (readOptional PostAggregation.blank PostAggregation.readJson) q.postAggregations
        q.postAggregationsSpare
    return { q with postAggregations, postAggregationsSpare }⟩,
  ⟨"filter", "Filter", fun q =>
    return { q with filter := ← readOptional Filter.blank Filter.readJson q.filter }⟩,
  ⟨"having", "Having", fun q =>
    return { q with having := ← readOptional Having.blank Having.readJson q.having }⟩,
  ⟨"limitSpec", "LimitSpec", fun q =>
    return { q with limitSpec := ← readOptionalRecord "query.LimitSpec" {} LimitSpec.members q.limitSpec }⟩,
  ⟨"limit", "Limit", fun q => return { q with limit := ← readUnlessNull readInt64 q.limit }⟩,
  ⟨"searchDimensions", "SearchDimensions", fun q => do
    let (searchDimensions, searchDimensionsSpare) ←
      readStrings q.searchDimensions q.searchDimensionsSpare
    return { q with searchDimensions, searchDimensionsSpare }⟩,
  ⟨"query", "SearchQuery", fun q =>
    return { q with
      searchQuery := ← readOptionalRecord "query.SearchQuery" {} SearchQuery.members q.searchQuery }⟩,
  ⟨"sort", "Sort", fun q =>
    return { q with sort := ← readOptionalRecord "query.SearchSort" {} SearchSort.members q.sort }⟩,
  ⟨"bound", "Bound", fun q => return { q with bound := ← readString }⟩,
  ⟨"toInclude", "ToInclude", fun q =>
    return { q with toInclude := ← readOptionalRecord "query.ToInclude" {} ToInclude.members q.toInclude }⟩,
  ⟨"merge", "Merge", fun q => return { q with merge := ← readFlag q.merge }⟩,
  ⟨"metrics", "Metrics", fun q => do
    let (metrics, metricsSpare) ← readStrings q.metrics q.metricsSpare
    return { q with metrics, metricsSpare }⟩,
  ⟨"pagingSpec", "PagingSpec", fun q =>
    return { q with
      pagingSpec := ← readOptionalRecord "query.PagingSpec" {} PagingSpec.members q.pagingSpec }⟩,
  ⟨"dimension", "Dimension", fun q => return { q with dimension := ← readString }⟩,
  ⟨"metric", "Metric", fun q => return { q with metric := ← readString }⟩,
  ⟨"threshold", "Threshold", fun q =>
    return { q with threshold := ← readUnlessNull readInt64 q.threshold }⟩,
  ⟨"context", "Context", fun q =>
    return { q with context := ← readOptionalRecord "query.Context" {} Context.members q.context }⟩]

def ofBytes (bytes : Array UInt8) : Except String Query :=
  readWhole (readRecord "query.Query" members {}) bytes

/-- Reads a query from a whole text. -/
def ofText (text : String) : Except String Query := ofBytes text.toUTF8.data

end Query

end DruidQuery
