import DruidQuery.Text.Classes
import DruidQuery.Text.Quote
import DruidQuery.Decimal.Shortest
import DruidQuery.Decimal.Layout
import DruidQuery.Decimal.Nearest
import DruidQuery.Json.Tree
import DruidQuery.Value
import DruidQuery.Expr.Token
import DruidQuery.Expr.Location
import DruidQuery.Expr.Lexer
import DruidQuery.Expr.Node
import DruidQuery.Expr.Parser
import DruidQuery.Expr.Error
import DruidQuery.Finding
import DruidQuery.Script
import DruidQuery.Filter.Basic
import DruidQuery.Filter.Dimension
import DruidQuery.Filter.Json
import DruidQuery.Filter.Check
import DruidQuery.Filter.Text
import DruidQuery.Json.Doc
import DruidQuery.Names
import DruidQuery.Having.Basic
import DruidQuery.Having.Check
import DruidQuery.Having.Text
import DruidQuery.Text.Numeral
import DruidQuery.Value.Coerce
import DruidQuery.PostAggregation.Basic
import DruidQuery.PostAggregation.Histogram
import DruidQuery.PostAggregation.Check
import DruidQuery.PostAggregation.Text
import DruidQuery.Text.Case
import DruidQuery.Text.Utf8
import DruidQuery.Json.Reader
import DruidQuery.Json.Reader.Number
import DruidQuery.Json.Reader.Value
import DruidQuery.Json.Reader.Record
import DruidQuery.Aggregation.Basic
import DruidQuery.Aggregation.Check
import DruidQuery.Query.Granularity
import DruidQuery.Query.Parts
import DruidQuery.Query.Basic
import DruidQuery.Time.Civil
import DruidQuery.Time.Moment
import DruidQuery.Time.Layout
import DruidQuery.Time.Iso
import DruidQuery.Query.Interval
import DruidQuery.Query.Check
import DruidQuery.Filter.Read
import DruidQuery.Having.Read
import DruidQuery.PostAggregation.Read
import DruidQuery.Aggregation.Read
import DruidQuery.Query.Read
import DruidQuery.Log
import DruidQuery.Config
import DruidQuery.Builder
import DruidQuery.Builder.Call
import DruidQuery.Time.Duration
import DruidQuery.Config.Parse
import DruidQuery.Text.Table
import DruidQuery.Text.Base64
import DruidQuery.Yaml.Token
import DruidQuery.Yaml.Token.Cursor
import DruidQuery.Yaml.Token.Scalar
import DruidQuery.Yaml.Token.Tag
import DruidQuery.Yaml.Token.Queue
import DruidQuery.Yaml.Event
import DruidQuery.Yaml.Event.Grammar
import DruidQuery.Yaml.Scalar
import DruidQuery.Yaml.Node
import DruidQuery.Yaml.Document
import DruidQuery.Proofs.Steps
import DruidQuery.Proofs.Registration
import DruidQuery.Proofs.Clauses
import DruidQuery.Proofs.Branching
import DruidQuery.Proofs.RuleTable
import DruidQuery.Proofs.TableReports
import DruidQuery.Proofs.AbsentNodes
import DruidQuery.Proofs.ChainedClauses
import DruidQuery.Proofs.Flatness
import DruidQuery.Proofs.ComparisonScripts
import DruidQuery.Proofs.FindingPaths
import DruidQuery.Proofs.DecodedNumbers
import DruidQuery.Proofs.ReferenceCollectors
import DruidQuery.Proofs.DictionaryFilters
import DruidQuery.Proofs.CivilDates
import DruidQuery.Proofs.IsoDates
import DruidQuery.Proofs.IsoZones
import DruidQuery.Proofs.IntervalReadBack
import DruidQuery.Proofs.DefaultInterval
import DruidQuery.Proofs.LexedNames
import DruidQuery.Proofs.ParsedNames
import DruidQuery.Proofs.ParsedTrees
import DruidQuery.Proofs.ParsedFindings
import DruidQuery.Proofs.TextFailures
import DruidQuery.Proofs.FloatBits
import DruidQuery.Proofs.NearestDouble
import DruidQuery.Proofs.ShortestDigits
import DruidQuery.Proofs.NumberTexts
import DruidQuery.Proofs.TokenizerSteps
import DruidQuery.Proofs.ParserSteps
import DruidQuery.Proofs.PathAlgebra
import DruidQuery.Proofs.TableLayout
import DruidQuery.Proofs.BraceScan
import DruidQuery.Proofs.FunctionLiterals
import DruidQuery.Proofs.SignedNumerals
import DruidQuery.Proofs.FormulaReadBack
