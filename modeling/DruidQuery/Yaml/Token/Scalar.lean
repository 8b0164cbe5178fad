import DruidQuery.Yaml.Token.Cursor

namespace DruidQuery.Yaml

def joinBlanks (text whitespaces leadingBreak trailingBreaks : String) (leadingBlanks : Bool) :
    String :=
  if leadingBlanks then
    if leadingBreak.startsWith "\n" then
      if trailingBreaks.isEmpty then text.push ' ' else text ++ trailingBreaks
    else text ++ leadingBreak ++ trailingBreaks
  else text ++ whitespaces

def escapeChar (c : Char) : Option Char :=
  match c with
  | '0' => some (Char.ofNat 0)
  | 'a' => some (Char.ofNat 7)
  | 'b' => some (Char.ofNat 8)
  | 't' => some '\t'
  | '\t' => some '\t'
  | 'n' => some '\n'
  | 'v' => some (Char.ofNat 11)
  | 'f' => some (Char.ofNat 12)
  | 'r' => some '\r'
  | 'e' => some (Char.ofNat 27)
  | ' ' => some ' '
  | '"' => some '"'
  | '\'' => some '\''
  | '/' => some '/'
  | '\\' => some '\\'
  | 'N' => some (Char.ofNat 0x85)
  | '_' => some (Char.ofNat 0xA0)
  | 'L' => some (Char.ofNat 0x2028)
  | 'P' => some (Char.ofNat 0x2029)
  | _ => none

def hexAhead (s : Scanner) (width : Nat) : Option Nat :=
  (List.range width).foldlM (fun v k => (hexValue (s.ahead k)).map (v * 16 + ·)) 0

def quotedRun (single : Bool) (start : Mark) : Nat → String → ScanM (String × Bool)
  | 0, text => pure (text, false)
  | n + 1, text => do
    let s ← get
    let c := s.ahead 0
    if isBlankOrEnd c then return (text, false)
    if single && c = '\'' && s.ahead 1 = '\'' then
      skipChar
      skipChar
      quotedRun single start n (text.push '\'')
    else if single && c = '\'' then return (text, false)
    else if !single && c = '"' then return (text, false)
    else if !single && c = '\\' && isBreak (s.ahead 1) then
      skipChar
      skipLine
      return (text, true)
    else if !single && c = '\\' then
      let e := s.ahead 1
      let width := if e = 'x' then 2 else if e = 'u' then 4 else if e = 'U' then 8 else 0
      if width > 0 then
        skipChar
        skipChar
        match hexAhead (← get) width with
        | none => scanError start "did not find expected hexdecimal number"
        | some v =>
          if (0xD800 ≤ v && v ≤ 0xDFFF) || v > 0x10FFFF then
            scanError start "found invalid Unicode character escape code"
          for _ in List.range width do skipChar
          quotedRun single start n (text.push (Char.ofNat v))
      else
        match escapeChar e with
        | none => scanError start "found unknown escape character"
        | some ch =>
          skipChar
          skipChar
          quotedRun single start n (text.push ch)
    else quotedRun single start n (← readChar text)

def blankRun : Nat → String × String × String × Bool → ScanM (String × String × String × Bool)
  | 0, acc => pure acc
  | n + 1, (ws, lb, tb, leading) => do
    let c ← peekChar 0
    if isBlank c then
      if leading then
        skipChar
        blankRun n (ws, lb, tb, leading)
      else blankRun n (← readChar ws, lb, tb, leading)
    else if isBreak c then
      if leading then blankRun n (ws, lb, ← readLine tb, leading)
      else blankRun n ("", ← readLine lb, tb, true)
    else return (ws, lb, tb, leading)

def quotedBody (single : Bool) (start : Mark) : Nat → String → ScanM String
  | 0, text => pure text
  | n + 1, text => do
    let s ← get
    if s.mark.column == 0 &&
        ((s.ahead 0 = '-' && s.ahead 1 = '-' && s.ahead 2 = '-') ||
          (s.ahead 0 = '.' && s.ahead 1 = '.' && s.ahead 2 = '.')) &&
        isBlankOrEnd (s.ahead 3) then
      scanError start "found unexpected document indicator"
    if isEnd (s.ahead 0) then scanError start "found unexpected end of stream"
    let (text, leading) ← quotedRun single start (← get).fuel text
    let c ← peekChar 0
    if (single && c = '\'') || (!single && c = '"') then return text
    let (ws, lb, tb, leading) ← blankRun (← get).fuel ("", "", "", leading)
    quotedBody single start n (joinBlanks text ws lb tb leading)

def scanFlowScalar (single : Bool) : ScanM Token := do
  let start := (← get).mark
  skipChar
  let text ← quotedBody single start (← get).fuel ""
  skipChar
  return { kind := .scalar, start, stop := (← get).mark, value := text,
           style := if single then .singleQuoted else .doubleQuoted }

def endsPlain (s : Scanner) : Bool :=
  let c := s.ahead 0
  let flowIndicator (d : Char) : Bool := d = ',' || d = '[' || d = ']' || d = '{' || d = '}'
  (c = ':' && isBlankOrEnd (s.ahead 1)) ||
    (s.flowLevel > 0 && (flowIndicator c || (c = ':' && flowIndicator (s.ahead 1))))

structure PlainPieces where
  text : String := ""
  whitespaces : String := ""
  leadingBreak : String := ""
  trailingBreaks : String := ""
  leadingBlanks : Bool := false
  stop : Mark := {}

def plainRun : Nat → PlainPieces → ScanM PlainPieces
  | 0, p => pure p
  | n + 1, p => do
    let s ← get
    if isBlankOrEnd (s.ahead 0) || endsPlain s then return p
    let text :=
      if p.leadingBlanks || !p.whitespaces.isEmpty then
        joinBlanks p.text p.whitespaces p.leadingBreak p.trailingBreaks p.leadingBlanks
      else p.text
    let text ← readChar text
    plainRun n { text, stop := (← get).mark }

def plainBlanks (start : Mark) (indent : Int) : Nat → PlainPieces → ScanM PlainPieces
  | 0, p => pure p
  | n + 1, p => do
    let s ← get
    let c := s.ahead 0
    if isBlank c then
      if p.leadingBlanks && (s.mark.column : Int) < indent && c = '\t' then
        scanError start "found a tab character that violates indentation"
      if p.leadingBlanks then
        skipChar
        plainBlanks start indent n p
      else plainBlanks start indent n { p with whitespaces := ← readChar p.whitespaces }
    else if isBreak c then
      if p.leadingBlanks then
        plainBlanks start indent n { p with trailingBreaks := ← readLine p.trailingBreaks }
      else
        plainBlanks start indent n
          { p with whitespaces := "", leadingBreak := ← readLine p.leadingBreak, leadingBlanks := true }
    else return p

def plainBody (start : Mark) (indent : Int) : Nat → PlainPieces → ScanM PlainPieces
  | 0, p => pure p
  | n + 1, p => do
    let s ← get
    if s.mark.column == 0 &&
        ((s.ahead 0 = '-' && s.ahead 1 = '-' && s.ahead 2 = '-') ||
          (s.ahead 0 = '.' && s.ahead 1 = '.' && s.ahead 2 = '.')) &&
        isBlankOrEnd (s.ahead 3) then
      return p
    if s.ahead 0 = '#' then return p
    let p ← plainRun (← get).fuel p
    let c ← peekChar 0
    if !(isBlank c || isBreak c) then return p
    let p ← plainBlanks start indent (← get).fuel p
    let s ← get
    if s.flowLevel == 0 && (s.mark.column : Int) < indent then return p
    plainBody start indent n p

def scanPlainScalar : ScanM Token := do
  let s ← get
  let start := s.mark
  let p ← plainBody start (s.indent + 1) s.fuel { stop := start }
  if p.leadingBlanks then allowKey true
  return { kind := .scalar, start, stop := p.stop, value := p.text, style := .plain }

def blockBreaks (start : Mark) (indent : Nat) :
    Nat → String × Nat × Mark → ScanM (String × Nat × Mark)
  | 0, acc => pure acc
  | n + 1, (breaks, widest, stop) => do
    let rec spaces : Nat → ScanM Unit
      | 0 => pure ()
      | m + 1 => do
        let s ← get
        if (indent == 0 || s.mark.column < indent) && s.ahead 0 = ' ' then
          skipChar
          spaces m
    spaces (← get).fuel
    let s ← get
    let widest := max widest s.mark.column
    if (indent == 0 || s.mark.column < indent) && s.ahead 0 = '\t' then
      scanError start "found a tab character where an indentation space is expected"
    if !isBreak (s.ahead 0) then return (breaks, widest, stop)
    let breaks ← readLine breaks
    blockBreaks start indent n (breaks, widest, (← get).mark)

def settleIndent (indent widest : Nat) (block : Int) : Nat :=
  if indent ≠ 0 then indent
  else max (max widest (block + 1).toNat) 1

structure BlockPieces where
  text : String := ""
  leadingBreak : String := ""
  trailingBreaks : String := ""
  leadingBlank : Bool := false
  indent : Nat
  stop : Mark

def blockLines (start : Mark) (literal : Bool) : Nat → BlockPieces → ScanM BlockPieces
  | 0, p => pure p
  | n + 1, p => do
    let s ← get
    if s.mark.column ≠ p.indent || isEnd (s.ahead 0) then return p
    let trailingBlank := isBlank (s.ahead 0)
    let text :=
      if !literal && !p.leadingBlank && !trailingBlank && p.leadingBreak.startsWith "\n" then
        if p.trailingBreaks.isEmpty then p.text.push ' ' else p.text
      else p.text ++ p.leadingBreak
    let text := text ++ p.trailingBreaks
    let leadingBlank := isBlank (s.ahead 0)
    let rec line : Nat → String → ScanM String
      | 0, t => pure t
      | m + 1, t => do
        if isBreakOrEnd (← peekChar 0) then return t
        line m (← readChar t)
    let text ← line (← get).fuel text
    let leadingBreak ← readLine ""
    let (trailingBreaks, _, stop) ← blockBreaks start p.indent (← get).fuel ("", 0, (← get).mark)
    blockLines start literal n { p with text, leadingBreak, trailingBreaks, leadingBlank, stop }

def blockIndicators (start : Mark) : ScanM (Int × Nat) := do
  let chomp (c : Char) : Int := if c = '+' then 1 else -1
  let c ← peekChar 0
  if c = '+' || c = '-' then
    skipChar
    let d ← peekChar 0
    if isDigitChar d then
      if d = '0' then scanError start "found an indentation indicator equal to 0"
      skipChar
      return (chomp c, d.toNat - 48)
    return (chomp c, 0)
  else if isDigitChar c then
    if c = '0' then scanError start "found an indentation indicator equal to 0"
    skipChar
    let d ← peekChar 0
    if d = '+' || d = '-' then
      skipChar
      return (chomp d, c.toNat - 48)
    return (0, c.toNat - 48)
  else return (0, 0)

def scanBlockScalar (literal : Bool) : ScanM Token := do
  let start := (← get).mark
  skipChar
  let (chomping, increment) ← blockIndicators start
  let rec blanks : Nat → ScanM Unit
    | 0 => pure ()
    | m + 1 => do
      if isBlank (← peekChar 0) then
        skipChar
        blanks m
  blanks (← get).fuel
  if (← peekChar 0) = '#' then skipToBreak (← get).fuel
  if !isBreakOrEnd (← peekChar 0) then scanError start "did not find expected comment or line break"
  if isBreak (← peekChar 0) then skipLine
  let s ← get
  let indent : Nat :=
    if increment > 0 then (if s.indent ≥ 0 then (s.indent + increment).toNat else increment) else 0
  let (breaks, widest, stop) ← blockBreaks start indent s.fuel ("", 0, s.mark)
  let indent := settleIndent indent widest s.indent
  let p ← blockLines start literal (← get).fuel
    { trailingBreaks := breaks, indent, stop }
  let text := if chomping ≠ -1 then p.text ++ p.leadingBreak else p.text
  let text := if chomping == 1 then text ++ p.trailingBreaks else text
  return { kind := .scalar, start, stop := p.stop, value := text,
           style := if literal then .literal else .folded }

end DruidQuery.Yaml
