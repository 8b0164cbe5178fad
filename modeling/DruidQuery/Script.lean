import DruidQuery.Value

namespace DruidQuery.Script

structure Function where
  name : String
  params : List String
  body : String
  source : String
deriving DecidableEq, Repr, Inhabited

inductive Error where
  | missingKeyword
  | missingParameters
  | badName (name : String)
  | unterminatedParameters
  | badParameter (param : String)
  | missingBody
  | unbalancedBraces
  | unterminatedComment
  | unterminatedString
  | trailingText
deriving DecidableEq, Repr

def Error.message : Error → String
  | .missingKeyword => "invalid javascript function: missing function keyword"
  | .missingParameters => "invalid javascript function: missing parameter list"
  | .badName n => "invalid javascript function: invalid function name " ++ Text.quote n
  | .unterminatedParameters => "invalid javascript function: unterminated parameter list"
  | .badParameter p => "invalid javascript function: invalid parameter " ++ Text.quote p
  | .missingBody => "invalid javascript function: missing function body"
  | .unbalancedBraces => "invalid javascript function: unbalanced braces"
  | .unterminatedComment => "invalid javascript function: unterminated comment"
  | .unterminatedString => "invalid javascript function: unterminated string literal"
  | .trailingText => "invalid javascript function: unexpected text after function body"

def isName (s : String) : Bool :=
  let first (c : Char) := c.isAlpha || c = '_' || c = '$'
  match s.toList with
  | c :: rest => first c && rest.all fun d => first d || d.isDigit
  | [] => false

def trim (cs : List Char) : List Char :=
  ((cs.dropWhile Text.isSpace).reverse.dropWhile Text.isSpace).reverse

def parseParams (list : List Char) : Except Error (List String) :=
  let list := trim list
  if list.isEmpty then .ok []
  else
    let parts := (String.ofList list).splitOn ","
    parts.foldlM (fun acc p =>
      let p := String.ofList (trim p.toList)
      if isName p then .ok (acc ++ [p]) else .error (.badParameter p)) []

def indexOf? (cs pat : List Char) : Option Nat :=
  (List.range (cs.length + 1)).find? fun i => (cs.drop i).take pat.length == pat

def matchBrace (body : Array Char) : Nat → Nat → Nat → Option Char → Except Error Nat
  | 0, _, _, quote => if quote.isSome then .error .unterminatedString else .error .unbalancedBraces
  | fuel + 1, i, depth, quote =>
    if h : i < body.size then
      let c := body[i]
      match quote with
      | some q =>
        if c = '\\' then matchBrace body fuel (i + 2) depth quote
        else if c = q then matchBrace body fuel (i + 1) depth none
        else matchBrace body fuel (i + 1) depth quote
      | none =>
        if c = '"' || c = '\'' || c = '`' then matchBrace body fuel (i + 1) depth (some c)
        else if c = '/' && body[i + 1]? = some '/' then
          match indexOf? (body.toList.drop i) ['\n'] with
          | some nl => matchBrace body fuel (i + nl + 1) depth none
          | none => .error .unbalancedBraces
        else if c = '/' && body[i + 1]? = some '*' then
          match indexOf? (body.toList.drop (i + 2)) ['*', '/'] with
          | some e => matchBrace body fuel (i + e + 4) depth none
          | none => .error .unterminatedComment
        else if c = '{' then matchBrace body fuel (i + 1) (depth + 1) none
        else if c = '}' then
          if depth = 1 then .ok i else matchBrace body fuel (i + 1) (depth - 1) none
        else matchBrace body fuel (i + 1) depth none
    else if quote.isSome then .error .unterminatedString else .error .unbalancedBraces

/-- Reads a function literal. -/
def parse (src : String) : Except Error Function := do
  let s := trim src.toList
  let keyword := "function".toList
  if s.take keyword.length != keyword then throw .missingKeyword
  let rest := trim (s.drop keyword.length)
  let some openAt := rest.findIdx? (· = '(') | throw .missingParameters
  let name := String.ofList (trim (rest.take openAt))
  if !name.isEmpty && !isName name then throw (.badName name)
  let some closeOffset := (rest.drop openAt).findIdx? (· = ')') | throw .unterminatedParameters
  let closeAt := openAt + closeOffset
  let params ← parseParams ((rest.take closeAt).drop (openAt + 1))
  let body := trim (rest.drop (closeAt + 1))
  if body.head? != some '{' then throw .missingBody
  let bodyArray := body.toArray
  let finish ← matchBrace bodyArray (bodyArray.size + 1) 0 0 none
  if !(trim (body.drop (finish + 1))).isEmpty then throw .trailingText
  pure { name, params, body := String.ofList (trim ((body.take finish).drop 1)), source := src }

def isComparison (op : String) : Bool := op = ">" || op = ">=" || op = "<" || op = "<="

def literal : Value → String
  | .null => "null"
  | .str s => Text.quote s
  | .bool b => if b then "true" else "false"
  | .float x => Decimal.Layout.positional.render x
  | .int n => toString n
  | v => Text.quote v.text

/-- The script comparing a dimension with a literal: `function(a) { return(a > 100); }`. -/
def comparison (dimension op : String) (operand : Value) : String :=
  "function(" ++ dimension ++ ") \x7b return(" ++ dimension ++ " " ++ op ++ " " ++ literal operand ++ "); \x7d"

end DruidQuery.Script
