import DruidQuery.Finding
import DruidQuery.Json.Tree
import DruidQuery.Text.Case

namespace DruidQuery

structure Dimension where
  type : String := ""
  dimension : String := ""
  outputName : String := ""
deriving Inhabited

namespace Dimension

def ofName (name : String) : Dimension := { type := "default", dimension := name, outputName := name }

def toJson (d : Dimension) : Json :=
  .record [("type", some (.string d.type)), ("dimension", some (.string d.dimension)),
    ("outputName", Json.text? d.outputName)]

def validate (d : Dimension) : List Finding :=
  checkNotBlank "dimension" d.dimension ++
  (if d.type.isEmpty || d.type = "default" then [] else [⟨"type", "must be one of [default]"⟩])

end Dimension

structure Column where
  dimension : String := ""
  direction : String := ""
deriving Inhabited

namespace Column

def ascending (dimension : String) : Column := { dimension, direction := "ASCENDING" }

def descending (dimension : String) : Column := { dimension, direction := "DESCENDING" }

def toJson (c : Column) : Json :=
  .object [("dimension", .string c.dimension), ("direction", .string c.direction)]

end Column

structure LimitSpec where
  type : String := ""
  limit : Int := 0
  columns : List (Option Column) := []
  columnsSpare : List (Option Column) := []
deriving Inhabited

namespace LimitSpec

def ofColumns (limit : Int) (columns : List (Option Column)) : LimitSpec :=
  { type := "default", limit, columns }

def toJson (l : LimitSpec) : Json :=
  .record [("type", some (.string l.type)), ("limit", Json.int? l.limit),
    ("columns", if l.columns.isEmpty then none
      else some (.array (l.columns.map fun c => (c.map Column.toJson).getD .null)))]

def validate (l : LimitSpec) : List Finding :=
  (if l.type = "default" then [] else [⟨"type", "must be one of [default]"⟩]) ++
  (if l.limit ≤ 0 then [⟨"limit", "must be greater than 0"⟩] else []) ++
  l.columns.zipIdx.flatMap fun (c, i) =>
    let field := indexPath "columns" i
    match c with
    | none => [⟨field, Finding.blank⟩]
    | some c =>
      checkNotBlank (field ++ ".dimension") c.dimension ++
      (let d := Text.upperText c.direction
       if d = "ASCENDING" || d = "DESCENDING" then []
       else [⟨field ++ ".direction", "must be one of [ASCENDING, DESCENDING]"⟩])

end LimitSpec

structure SearchQuery where
  type : String := ""
  value : String := ""
  caseSensitive : Option Bool := none
deriving Inhabited

def SearchQuery.toJson (s : SearchQuery) : Json :=
  .record [("type", some (.string s.type)), ("value", Json.text? s.value),
    ("caseSensitive", s.caseSensitive.map Json.bool)]

structure SearchSort where
  type : String := ""
deriving Inhabited

def SearchSort.toJson (s : SearchSort) : Json := .object [("type", .string s.type)]

structure PagingSpec where
  pagingIdentifiers : List (String × Int) := []
  threshold : Int := 0
deriving Inhabited

def PagingSpec.toJson (p : PagingSpec) : Json :=
  .record [("pagingIdentifiers", if p.pagingIdentifiers.isEmpty then none
      else some (Json.dictOf (p.pagingIdentifiers.map fun (k, v) => (k, Json.int v)))),
    ("threshold", some (Json.int p.threshold))]

structure ToInclude where
  type : String := ""
  columns : List String := []
  columnsSpare : List String := []
deriving Inhabited

def ToInclude.toJson (t : ToInclude) : Json :=
  .record [("type", some (.string t.type)), ("columns", Json.list? Json.string t.columns)]

structure Context where
  timeout : Option Int := none
  priority : Option Int := none
  queryId : String := ""
  useCache : Option Bool := none
  populateCache : Option Bool := none
  bySegment : Option Bool := none
  finalize : Option Bool := none
deriving Inhabited

namespace Context

def isZero (c : Context) : Bool :=
  c.timeout.isNone && c.priority.isNone && c.queryId.isEmpty && c.useCache.isNone &&
    c.populateCache.isNone && c.bySegment.isNone && c.finalize.isNone

def toJson (c : Context) : Json :=
  .record [("timeout", c.timeout.map Json.int), ("priority", c.priority.map Json.int),
    ("queryId", Json.text? c.queryId), ("useCache", c.useCache.map Json.bool),
    ("populateCache", c.populateCache.map Json.bool), ("bySegment", c.bySegment.map Json.bool),
    ("finalize", c.finalize.map Json.bool)]

def validate (c : Context) : List Finding :=
  match c.timeout with
  | some t => if t < 0 then [⟨"timeout", "must not be negative"⟩] else []
  | none => []

end Context

end DruidQuery
