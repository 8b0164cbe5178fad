import DruidQuery.Time.Layout
import DruidQuery.Text.Classes
import DruidQuery.Text.Quote

namespace DruidQuery.Time

open Piece

def datePieces : Layout := [year, literal '-', month, literal '-', day]

def basicDatePieces : Layout := [year, month, day]

def clockPieces : Layout := [hour, literal ':', minute, literal ':', second]

def Layout.rfc3339 : Layout := datePieces ++ [literal 'T'] ++ clockPieces ++ [fraction, zone true]

def isoLayouts : List Layout :=
  [Layout.rfc3339,
    datePieces ++ [literal 'T'] ++ clockPieces ++ [fraction],
    datePieces ++ [literal 'T'] ++ clockPieces ++ [zone false],
    datePieces ++ [literal 'T', hour, literal ':', minute, zone true],
    datePieces ++ [literal 'T', hour, zone true],
    datePieces ++ [literal 'T'] ++ clockPieces,
    datePieces ++ [literal 'T', hour, literal ':', minute],
    datePieces ++ [literal 'T', hour],
    datePieces,
    basicDatePieces ++ [literal 'T', hour, minute, second, zone false],
    basicDatePieces ++ [literal 'T', hour, minute, second],
    basicDatePieces]

def Layout.iso : Layout := datePieces ++ [literal 'T'] ++ clockPieces ++ [offset]

structure DateError where
  text : String
deriving DecidableEq, Repr

def DateError.message (e : DateError) : String := "invalid ISO8601 date " ++ Text.quote e.text

/-- Reads a date with the first layout that fits the trimmed text. -/
def parseIso (s : String) : Except DateError Moment :=
  let t := Text.trimSpace s
  match isoLayouts.findSome? (·.read t) with
  | some m => .ok m
  | none => .error ⟨t⟩

def formatIso (m : Moment) : String := Layout.iso.write m

def formatRfc3339 (m : Moment) : String := Layout.rfc3339.write m

def parseRfc3339 (s : String) : Option Moment := Layout.rfc3339.read s

def normalize (s : String) : Except DateError String := formatIso <$> parseIso s

end DruidQuery.Time
