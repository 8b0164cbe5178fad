import DruidQuery.Aggregation.Basic
import DruidQuery.Having.Basic
import DruidQuery.PostAggregation.Basic
import DruidQuery.Query.Granularity
import DruidQuery.Query.Parts

namespace DruidQuery

/-- A query document. An absent element of a list is `none`. -/
structure Query where
  queryType : String := ""
  dataSource : String := ""
  intervals : List String := []
  granularity : Option Granularity := none
  dimensions : List (Option Dimension) := []
  aggregations : List (Option Aggregation) := []
  postAggregations : List (Option PostAggregation) := []
  filter : Option Filter := none
  having : Option Having := none
  limitSpec : Option LimitSpec := none
  limit : Int := 0
  searchDimensions : List String := []
  searchQuery : Option SearchQuery := none
  sort : Option SearchSort := none
  bound : String := ""
  toInclude : Option ToInclude := none
  merge : Option Bool := none
  metrics : List String := []
  pagingSpec : Option PagingSpec := none
  dimension : String := ""
  metric : String := ""
  threshold : Int := 0
  context : Option Context := none
  intervalsSpare : List String := []
  dimensionsSpare : List (Option Dimension) := []
  aggregationsSpare : List (Option Aggregation) := []
  postAggregationsSpare : List (Option PostAggregation) := []
  searchDimensionsSpare : List String := []
  metricsSpare : List String := []
deriving Inhabited

namespace Query

def knownTypes : List String :=
  ["timeseries", "search", "timeBoundary", "groupBy", "segmentMetadata", "select", "topN",
    "dataSourceMetadata"]

def ofType (type : String) : Query := { queryType := type }

def optionsJson? {α : Type} (f : α → Json) (xs : List (Option α)) : Option Json :=
  if xs.isEmpty then none else some (.array (xs.map fun x => (x.map f).getD .null))

def toJson (q : Query) : Json :=
  .record [("queryType", some (.string q.queryType)),
    ("dataSource", Json.text? q.dataSource),
    ("intervals", Json.list? Json.string q.intervals),
    ("granularity", q.granularity.map Granularity.toJson),
    ("dimensions", optionsJson? Dimension.toJson q.dimensions),
    ("aggregations", optionsJson? Aggregation.toJson q.aggregations),
    ("postAggregations", optionsJson? PostAggregation.toJson q.postAggregations),
    ("filter", q.filter.map Filter.toJson),
    ("having", q.having.map Having.toJson),
    ("limitSpec", q.limitSpec.map LimitSpec.toJson),
    ("limit", Json.int? q.limit),
    ("searchDimensions", Json.list? Json.string q.searchDimensions),
    ("query", q.searchQuery.map SearchQuery.toJson),
    ("sort", q.sort.map SearchSort.toJson),
    ("bound", Json.text? q.bound),
    ("toInclude", q.toInclude.map ToInclude.toJson),
    ("merge", q.merge.map Json.bool),
    ("metrics", Json.list? Json.string q.metrics),
    ("pagingSpec", q.pagingSpec.map PagingSpec.toJson),
    ("dimension", Json.text? q.dimension),
    ("metric", Json.text? q.metric),
    ("threshold", Json.int? q.threshold),
    ("context", match q.context with
      | some c => if c.isZero then none else some c.toJson
      | none => none)]

def containsAggregation (q : Query) (name : String) : Bool :=
  q.aggregations.any fun a => (a.map Aggregation.outputName).getD "" == name

def aggregationNames (q : Query) : List String :=
  q.aggregations.map fun a => (a.map Aggregation.outputName).getD ""

def typesOfAggregation : Option Aggregation → List String
  | none => []
  | some ⟨type, _, _, _, _, _, _, _, _, aggregator, _⟩ => type :: typesOfAggregation aggregator

def columnsOfAggregation : Option Aggregation → List String
  | none => []
  | some ⟨_, _, fieldName, fieldNames, _, _, _, _, _, aggregator, _⟩ =>
    fieldName :: fieldNames.getD [] ++ columnsOfAggregation aggregator

def aggregationTypes (q : Query) : List String :=
  distinctNames ((q.aggregations.flatMap typesOfAggregation).filter (!·.isEmpty))

def aggregationFieldNames (q : Query) : List String :=
  distinctNames ((q.aggregations.flatMap columnsOfAggregation).filter (!·.isEmpty))

end Query

end DruidQuery
