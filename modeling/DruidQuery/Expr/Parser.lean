import DruidQuery.Expr.Lexer
import DruidQuery.Expr.Node
import DruidQuery.Decimal.Nearest

namespace DruidQuery.Expr

def binaryPrecedence : String → Option (Nat × Bool)
  | "|" => some (0, false)
  | "or" | "||" => some (10, false)
  | "and" | "&&" => some (15, false)
  | "==" | "!=" | "<" | ">" | ">=" | "<=" | "in" | "matches" | "contains" | "startsWith"
  | "endsWith" => some (20, false)
  | ".." => some (25, false)
  | "+" | "-" => some (30, false)
  | "*" | "/" | "%" => some (60, false)
  | "**" | "^" => some (100, true)
  | "??" => some (500, false)
  | _ => none

def unaryPrecedence : String → Option Nat
  | "not" | "!" => some 50
  | "-" | "+" => some 90
  | _ => none

def isOrdering (op : String) : Bool := op = "<" || op = ">" || op = ">=" || op = "<="

def isNegatable (op : String) : Bool :=
  op = "in" || op = "matches" || op = "contains" || op = "startsWith" || op = "endsWith"

def isName (s : String) : Bool :=
  match s.toList with
  | c :: rest => isAlphabetic c && rest.all isAlphaNumeric
  | [] => false

inductive Slot where
  | expr
  | closure
  | optionalExpr
  | optionalClosure
deriving DecidableEq

def predicateSlots : String → Option (List Slot)
  | "all" | "none" | "any" | "one" | "filter" | "map" | "find" | "findIndex" | "findLast"
  | "findLastIndex" | "groupBy" => some [.expr, .closure]
  | "count" | "sum" => some [.expr, .optionalClosure]
  | "sortBy" | "reduce" => some [.expr, .closure, .optionalExpr]
  | _ => none

def builtinNames : List String :=
  ["len", "type", "abs", "ceil", "floor", "round", "int", "float", "string", "trim", "trimPrefix",
   "trimSuffix", "upper", "lower", "split", "splitAfter", "replace", "repeat", "join", "indexOf",
   "lastIndexOf", "hasPrefix", "hasSuffix", "max", "min", "mean", "median", "toJSON", "fromJSON",
   "toBase64", "fromBase64", "now", "duration", "date", "timezone", "first", "last", "get", "take",
   "keys", "values", "toPairs", "fromPairs", "reverse", "concat", "sort",
   "bitand", "bitor", "bitxor", "bitnand", "bitnot", "bitshl", "bitshr", "bitushr"]

inductive DigitsError where
  | notDigit
  | tooLarge

def readDigits (base : Nat) : List Char → Nat → Except DigitsError Nat
  | [], n => .ok n
  | c :: rest, n =>
    let d := digitValue (some c)
    if d ≥ base then .error .notDigit
    else if n * base + d ≥ Nat.pow 2 64 then .error .tooLarge
    else readDigits base rest (n * base + d)

def parseInteger (base skip : Nat) (s : String) : Except String Int :=
  let digits := s.toList.drop skip
  let read := if digits.isEmpty then .error .notDigit else readDigits base digits 0
  match read with
  | .ok v =>
    if v < Nat.pow 2 63 then .ok v
    else .error ("strconv.ParseInt: parsing " ++ Text.quote s ++ ": value out of range")
  | .error .tooLarge => .error ("strconv.ParseInt: parsing " ++ Text.quote s ++ ": value out of range")
  | .error .notDigit => .error ("strconv.ParseInt: parsing " ++ Text.quote s ++ ": invalid syntax")

def decimalParts (s : List Char) : Option (Nat × Nat × Int) :=
  let intPart := s.takeWhile Char.isDigit
  let rest := s.dropWhile Char.isDigit
  let (fracPart, rest) :=
    match rest with
    | '.' :: r => (r.takeWhile Char.isDigit, r.dropWhile Char.isDigit)
    | _ => ([], rest)
  if intPart.isEmpty && fracPart.isEmpty then none
  else
    let mantissa := (intPart ++ fracPart).foldl (fun v c => v * 10 + (c.toNat - 48)) 0
    let exponent : Option Int :=
      match rest with
      | [] => some 0
      | e :: r =>
        if e = 'e' || e = 'E' then
          let (negative, digits) :=
            match r with
            | '+' :: d => (false, d)
            | '-' :: d => (true, d)
            | d => (false, d)
          if digits.isEmpty || !digits.all Char.isDigit then none
          else
            let v : Int := digits.foldl (fun v c => v * 10 + (c.toNat - 48)) 0
            some (if negative then -v else v)
        else none
    exponent.map fun e => (mantissa, fracPart.length, e)

def parseFloat (s : String) : Except String Float :=
  let raw := s.toList
  -- a point alone or a point before the exponent is accepted, as in `1.` and `1.e5`
  match decimalParts raw with
  | some (m, places, e) =>
    let x := Decimal.ofDecimal m (e - places)
    if x.isInf then .error ("strconv.ParseFloat: parsing " ++ Text.quote s ++ ": value out of range")
    else .ok x
  | none => .error ("strconv.ParseFloat: parsing " ++ Text.quote s ++ ": invalid syntax")

structure ParseState where
  tokens : Array Token
  pos : Nat := 0
  depth : Nat := 0

abbrev ParseM := StateT ParseState (Except SyntaxError)

namespace Parser

def current : ParseM Token := do
  let s ← get
  pure (s.tokens[s.pos]?.getD default)

def failAt {α : Type} (t : Token) (message : String) : ParseM α :=
  throw ⟨message, t.span.start⟩

def fail {α : Type} (message : String) : ParseM α := do
  failAt (← current) message

def advance : ParseM Unit := do
  let s ← get
  if s.pos + 1 < s.tokens.size then set { s with pos := s.pos + 1 }
  else fail "unexpected end of expression"

def at? (k : TokenKind) (text : String) : ParseM Bool := do
  pure ((← current).is k text)

def expect (k : TokenKind) (text : String) : ParseM Unit := do
  let t ← current
  if t.is k text then advance else failAt t ("unexpected token " ++ t.describe)

def expectKind (k : TokenKind) : ParseM Unit := do
  let t ← current
  if t.kind == k then advance else failAt t ("unexpected token " ++ t.describe)

def numberNode (t : Token) : ParseM Node := do
  let value := String.ofList (t.text.toList.filter (· ≠ '_'))
  let lower := value.toLower
  let result : Except String Node :=
    if lower.startsWith "0x" then
      (Node.integer <$> parseInteger 16 2 value).mapError ("invalid hex literal: " ++ ·)
    else if lower.toList.any (fun c => c = '.' || c = 'e') then
      (Node.float <$> parseFloat value).mapError ("invalid float literal: " ++ ·)
    else if lower.startsWith "0b" then
      (Node.integer <$> parseInteger 2 2 value).mapError ("invalid binary literal: " ++ ·)
    else if lower.startsWith "0o" then
      (Node.integer <$> parseInteger 8 2 value).mapError ("invalid octal literal: " ++ ·)
    else
      (Node.integer <$> parseInteger 10 0 value).mapError ("invalid integer literal: " ++ ·)
  match result with
  | .ok n => pure n
  | .error message => fail message

def chainTarget : Node → Node × Bool
  | .chain inner => (inner, true)
  | n => (n, false)

def exhausted {α : Type} : ParseM α := fail "expression nested too deeply"

mutual

def expression : Nat → Nat → ParseM Node
  | 0, _ => exhausted
  | fuel + 1, precedence => do
    if precedence = 0 && (← at? .operator "let") then declaration fuel
    else
      let left ← primary fuel
      let node ← binaryLoop fuel precedence left ""
      if precedence = 0 then conditional fuel node else pure node

def binaryLoop : Nat → Nat → Node → String → ParseM Node
  | 0, _, _, _ => exhausted
  | fuel + 1, precedence, left, previous => do
    let opToken ← current
    if opToken.kind != .operator then return left
    let s ← get
    -- `not` followed by a negatable operator
    let negated ← (if opToken.text = "not" then do
        advance
        let t ← current
        if isNegatable t.text then
          match binaryPrecedence t.text with
          | some (p, _) =>
            if p ≥ precedence then pure (some (some t))
            else do set s; pure none
          | none => do set s; pure none
        else failAt t ("unexpected token " ++ t.describe)
      else pure (some none))
    match negated with
    | none => return left
    | some notToken =>
      let op := (notToken.getD opToken)
      match binaryPrecedence op.text with
      | some (p, right) =>
        if p < precedence then return left
        advance
        if op.text = "|" then
          let name ← current
          expectKind .identifier
          let node ← call fuel name [left]
          binaryLoop fuel precedence node op.text
        else if previous = "??" && op.text != "??" then
          failAt op ("Operator (" ++ op.text ++ ") and coalesce expressions (??) cannot be mixed. Wrap either by parentheses.")
        else if isOrdering op.text then
          let node ← comparison fuel left op p none
          binaryLoop fuel precedence node op.text
        else
          let rightNode ← expression fuel (if right then p else p + 1)
          let node := Node.binary op.text left rightNode
          let node := if notToken.isSome then Node.unary "not" node else node
          binaryLoop fuel precedence node op.text
      | none => return left

def comparison : Nat → Node → Token → Nat → Option Node → ParseM Node
  | 0, _, _, _, _ => exhausted
  | fuel + 1, left, op, precedence, acc => do
    let right ← expression fuel (precedence + 1)
    let link := Node.binary op.text left right
    let acc := match acc with
      | some a => Node.binary "&&" a link
      | none => link
    let t ← current
    if t.kind == .operator && isOrdering t.text then
      advance
      comparison fuel right t precedence (some acc)
    else pure acc

def conditional : Nat → Node → ParseM Node
  | 0, _ => exhausted
  | fuel + 1, node => do
    if !(← at? .operator "?") then return node
    advance
    if (← at? .operator ":") then
      advance
      let no ← expression fuel 0
      conditional fuel (.conditional node node no)
    else
      let yes ← expression fuel 0
      expect .operator ":"
      let no ← expression fuel 0
      conditional fuel (.conditional node yes no)

def declaration : Nat → ParseM Node
  | 0 => exhausted
  | fuel + 1 => do
    expect .operator "let"
    let name ← current
    expectKind .identifier
    expect .operator "="
    let value ← expression fuel 0
    expect .operator ";"
    let body ← expression fuel 0
    pure (.declaration name.text value body)

def primary : Nat → ParseM Node
  | 0 => exhausted
  | fuel + 1 => do
    let t ← current
    if t.kind == .operator then
      if let some p := unaryPrecedence t.text then
        advance
        let operand ← expression fuel p
        return ← accessors fuel (.unary t.text operand)
    if t.is .bracket "(" then
      advance
      let inner ← expression fuel 0
      expect .bracket ")"
      return ← accessors fuel inner
    let depth := (← get).depth
    if t.is .operator "#" || t.is .operator "." then
      if depth > 0 then
        let mut name := ""
        if t.is .operator "#" then
          advance
          let n ← current
          if n.kind == .identifier then
            name := n.text
            advance
        return ← accessors fuel (.pointer name)
      else fail "cannot use pointer accessor outside closure"
    if t.is .operator "::" then
      advance
      let name ← current
      expectKind .identifier
      let node ← callNamed fuel name []
      return ← accessors fuel node
    secondary fuel

def secondary : Nat → ParseM Node
  | 0 => exhausted
  | fuel + 1 => do
    let t ← current
    match t.kind with
    | .identifier =>
      advance
      if t.text = "true" then return .bool true
      if t.text = "false" then return .bool false
      if t.text = "nil" then return .nil
      let node ← if (← at? .bracket "(") then call fuel t [] else pure (.identifier t.text)
      accessors fuel node
    | .number =>
      advance
      numberNode t
    | .string =>
      advance
      accessors fuel (.string t.text)
    | _ =>
      if t.is .bracket "[" then
        let node ← arrayLiteral fuel
        accessors fuel node
      else if t.is .bracket "\x7b" then
        let node ← mapLiteral fuel
        accessors fuel node
      else failAt t ("unexpected token " ++ t.describe)

def accessors : Nat → Node → ParseM Node
  | 0, _ => exhausted
  | fuel + 1, node => do
    let t ← current
    if !(t.kind == .operator || t.kind == .bracket) then return node
    let optional := t.text = "?."
    if t.text = "." || optional then
      advance
      let property ← current
      if optional && property.is .bracket "[" then
        let node ← index fuel node property true
        accessors fuel node
      else
        advance
        if property.kind != .identifier &&
            (property.kind != .operator || !isName property.text) then
          fail "expected name"
        let (target, wasChain) := chainTarget node
        let memberNode := Node.member target (.string property.text) optional
        let node ← if (← at? .bracket "(") then do
            let args ← arguments fuel []
            pure (Node.call memberNode args)
          else pure memberNode
        accessors fuel (if wasChain || optional then .chain node else node)
    else if t.text = "[" then
      let node ← index fuel node t false
      accessors fuel node
    else return node

def index : Nat → Node → Token → Bool → ParseM Node
  | 0, _, _, _ => exhausted
  | fuel + 1, node, _, optional => do
    advance
    if (← at? .operator ":") then
      advance
      let upper ← if (← at? .bracket "]") then pure none else some <$> expression fuel 0
      expect .bracket "]"
      pure (.slice node none upper)
    else
      let lower ← expression fuel 0
      if (← at? .operator ":") then
        advance
        let upper ← if (← at? .bracket "]") then pure none else some <$> expression fuel 0
        expect .bracket "]"
        pure (.slice node (some lower) upper)
      else
        let m := Node.member node lower optional
        expect .bracket "]"
        pure (if optional then .chain m else m)

def call : Nat → Token → List Node → ParseM Node
  | 0, _, _ => exhausted
  | fuel + 1, name, given => callNamed fuel name given

def callNamed : Nat → Token → List Node → ParseM Node
  | 0, _, _ => exhausted
  | fuel + 1, name, given => do
    match predicateSlots name.text with
    | some slots =>
      expect .bracket "("
      let args ← predicateArguments fuel (slots.drop given.length) (slots.drop given.length).length 0 given
      expect .bracket ")"
      pure (.builtin name.text args)
    | none =>
      let args ← arguments fuel given
      if builtinNames.contains name.text then pure (.builtin name.text args)
      else pure (.call (.identifier name.text) args)

def predicateArguments : Nat → List Slot → Nat → Nat → List Node → ParseM (List Node)
  | 0, _, _, _, _ => exhausted
  | _, [], _, _, acc => pure acc
  | fuel + 1, slot :: rest, total, i, acc => do
    let closing ← at? .bracket ")"
    if closing && (slot = .optionalExpr || slot = .optionalClosure) then return acc
    if closing then fail ("expected at least " ++ toString total ++ " arguments")
    if i > 0 then expect .operator ","
    let node ← if slot = .closure || slot = .optionalClosure then closure fuel else expression fuel 0
    predicateArguments fuel rest total (i + 1) (acc ++ [node])

def closure : Nat → ParseM Node
  | 0 => exhausted
  | fuel + 1 => do
    let braced ← at? .bracket "\x7b"
    if braced then advance
    modify fun s => { s with depth := s.depth + 1 }
    let body ← expression fuel 0
    modify fun s => { s with depth := s.depth - 1 }
    if braced then expect .bracket "\x7d"
    pure (.closure body)

def arguments : Nat → List Node → ParseM (List Node)
  | 0, _ => exhausted
  | fuel + 1, given => do
    expect .bracket "("
    let args ← argumentList fuel given given.length
    expect .bracket ")"
    pure args

def argumentList : Nat → List Node → Nat → ParseM (List Node)
  | 0, _, _ => exhausted
  | fuel + 1, acc, given => do
    if (← at? .bracket ")") then return acc
    if acc.length > given then expect .operator ","
    let node ← expression fuel 0
    argumentList fuel (acc ++ [node]) given

def arrayLiteral : Nat → ParseM Node
  | 0 => exhausted
  | fuel + 1 => do
    expect .bracket "["
    let items ← arrayItems fuel []
    expect .bracket "]"
    pure (.array items)

def arrayItems : Nat → List Node → ParseM (List Node)
  | 0, _ => exhausted
  | fuel + 1, acc => do
    if (← at? .bracket "]") then return acc
    if !acc.isEmpty then
      expect .operator ","
      if (← at? .bracket "]") then return acc
    let node ← expression fuel 0
    arrayItems fuel (acc ++ [node])

def mapLiteral : Nat → ParseM Node
  | 0 => exhausted
  | fuel + 1 => do
    expect .bracket "\x7b"
    let entries ← mapEntries fuel []
    expect .bracket "\x7d"
    pure (.map entries)

def mapEntries : Nat → List Node → ParseM (List Node)
  | 0, _ => exhausted
  | fuel + 1, acc => do
    if (← at? .bracket "\x7d") then return acc
    if !acc.isEmpty then
      expect .operator ","
      if (← at? .bracket "\x7d") then return acc
      if (← at? .operator ",") then fail ("unexpected token " ++ (← current).describe)
    let t ← current
    let key ←
      if t.kind == .number || t.kind == .string || t.kind == .identifier then do
        advance
        pure (Node.string t.text)
      else if t.is .bracket "(" then expression fuel 0
      else fail ("a map key must be a quoted string, a number, a identifier, or an expression enclosed in parentheses (unexpected token " ++ t.describe ++ ")")
    expect .operator ":"
    let value ← expression fuel 0
    mapEntries fuel (acc ++ [.pair key value])

end

end Parser

/-- Parses a whole source text into a syntax tree, or gives the first error. -/
def parse (src : String) : Except SyntaxError Node := do
  let tokens ← tokenize src
  let run : ParseM Node := do
    let node ← Parser.expression (8 * tokens.size + 8) 0
    let t ← Parser.current
    if t.kind != .eof then Parser.failAt t ("unexpected token " ++ t.describe)
    pure node
  (run.run { tokens }).map (·.1)

end DruidQuery.Expr
