import DruidQuery.Expr.Token
import DruidQuery.Expr.Location
import DruidQuery.Text.Classes
import DruidQuery.Text.Utf8

namespace DruidQuery.Expr

def isAlphabetic (c : Char) : Bool := c = '_' || c = '$' || Text.isLetter c

def isAlphaNumeric (c : Char) : Bool := isAlphabetic c || Text.isDigit c

def digitValue : Option Char → Nat
  | some c =>
    if '0' ≤ c && c ≤ '9' then c.toNat - '0'.toNat
    else if 'a' ≤ c && c ≤ 'f' then c.toNat - 'a'.toNat + 10
    else if 'A' ≤ c && c ≤ 'F' then c.toNat - 'A'.toNat + 10
    else 16
  | none => 16

inductive UnescapeError where
  | malformed
  | badOctal
  | trailingBackslash
deriving DecidableEq, Repr

def UnescapeError.message : UnescapeError → String
  | .malformed => "unable to unescape string"
  | .badOctal => "unable to unescape octal sequence in string"
  | .trailingBackslash => "unable to unescape string, found '\\' as last character"

def hexValue : Nat → List Char → Option Nat
  | 0, _ => some 0
  | n + 1, c :: rest => do
    let d := digitValue (some c)
    if d < 16 then
      let v ← hexValue n rest
      some (d * Nat.pow 16 n + v)
    else none
  | _ + 1, [] => none

def unescapeOne (c : Char) (rest : List Char) :
    Except UnescapeError (List UInt8 × { t : List Char // t.length ≤ rest.length }) :=
  let simple (x : Char) :
      Except UnescapeError (List UInt8 × { t : List Char // t.length ≤ rest.length }) :=
    .ok (Text.encodePoint x.toNat, ⟨rest, Nat.le_refl _⟩)
  match c with
  | 'a' => simple '\x07'
  | 'b' => simple '\x08'
  | 'f' => simple '\x0c'
  | 'n' => simple '\n'
  | 'r' => simple '\r'
  | 't' => simple '\t'
  | 'v' => simple '\x0b'
  | '\\' => simple '\\'
  | '\'' => simple '\''
  | '"' => simple '"'
  | '`' => simple '`'
  | '?' => simple '?'
  | 'x' | 'X' | 'u' | 'U' =>
    let n := if c = 'u' then 4 else if c = 'U' then 8 else 2
    match hexValue n (rest.take n) with
    | some v =>
      if v ≥ Nat.pow 2 31 then .ok ([(v % 256).toUInt8], ⟨rest.drop n, by simp⟩)
      else if v > 0x10FFFF then .error .malformed
      else .ok (Text.encodePoint v, ⟨rest.drop n, by simp⟩)
    | none => .error .malformed
  | '0' | '1' | '2' | '3' =>
    match rest with
    | d1 :: d2 :: tail =>
      if '0' ≤ d1 && d1 ≤ '7' && '0' ≤ d2 && d2 ≤ '7' then
        let v := (c.toNat - 48) * 64 + (d1.toNat - 48) * 8 + (d2.toNat - 48)
        .ok (Text.encodePoint v, ⟨tail, by simp; omega⟩)
      else .error .badOctal
    | _ => .error .badOctal
  | _ => .error .malformed

def unescapeBody : List Char → Except UnescapeError (List UInt8)
  | [] => .ok []
  | ['\\'] => .error .trailingBackslash
  | '\\' :: c :: rest =>
    match unescapeOne c rest with
    | .ok (bytes, ⟨tail, _⟩) => (bytes ++ ·) <$> unescapeBody tail
    | .error e => .error e
  | c :: rest => (Text.encodePoint c.toNat ++ ·) <$> unescapeBody rest
termination_by cs => cs.length
decreasing_by all_goals simp_all <;> omega

def normalizeNewlines : List Char → List Char
  | [] => []
  | '\r' :: '\n' :: rest => '\n' :: normalizeNewlines rest
  | '\r' :: rest => '\n' :: normalizeNewlines rest
  | c :: rest => c :: normalizeNewlines rest

def unescape (word : List Char) : Except UnescapeError String :=
  match word with
  | q :: _ :: _ =>
    if word.getLast? = some q && (q = '"' || q = '\'') then
      Text.decodeLossy <$> unescapeBody (normalizeNewlines ((word.drop 1).dropLast))
    else .error .malformed
  | _ => .error .malformed

structure Lexer where
  src : Array Char
  start : Nat := 0
  pos : Nat := 0
  tokens : Array Token := #[]
  failure : Option SyntaxError := none

namespace Lexer

def peek (l : Lexer) : Option Char := l.src[l.pos]?

def next (l : Lexer) : Option Char × Lexer := (l.peek, { l with pos := l.pos + 1 })

def backup (l : Lexer) : Lexer := { l with pos := l.pos - 1 }

def word (l : Lexer) : List Char :=
  if l.start > l.src.size || l.pos > l.src.size then "__invalid__".toList
  else ((l.src.toList.drop l.start).take (l.pos - l.start))

def skip (l : Lexer) : Lexer := { l with start := l.pos }

def emitValue (l : Lexer) (k : TokenKind) (text : String) : Lexer :=
  { l with tokens := l.tokens.push ⟨k, text, ⟨l.start, l.pos⟩⟩, start := l.pos }

def emit (l : Lexer) (k : TokenKind) : Lexer := l.emitValue k (String.ofList l.word)

def emitEnd (l : Lexer) : Lexer :=
  { l with tokens := l.tokens.push ⟨.eof, "", ⟨l.pos - 2, l.pos - 1⟩⟩, start := l.pos }

def fail (l : Lexer) (message : String) : Lexer :=
  match l.failure with
  | some _ => l
  | none => { l with failure := some ⟨message, l.pos - 1⟩ }

def accept (l : Lexer) (valid : Char → Bool) : Bool × Lexer :=
  match l.peek with
  | some c => if valid c then (true, { l with pos := l.pos + 1 }) else (false, l)
  | none => (false, l)

def acceptRun (l : Lexer) (valid : Char → Bool) : Lexer :=
  if h : l.pos < l.src.size then
    if valid l.src[l.pos] then acceptRun { l with pos := l.pos + 1 } valid else l
  else l
termination_by l.src.size - l.pos

def oneOf (s : String) (c : Char) : Bool := s.toList.contains c

def scanNumber (l : Lexer) : Bool × Lexer :=
  let (zero, l) := l.accept (oneOf "0")
  let (digits, l) :=
    if zero then
      let (hex, l) := l.accept (oneOf "xX")
      if hex then ("0123456789abcdefABCDEF_", l)
      else
        let (oct, l) := l.accept (oneOf "oO")
        if oct then ("01234567_", l)
        else
          let (bin, l) := l.accept (oneOf "bB")
          if bin then ("01_", l) else ("0123456789_", l)
    else ("0123456789_", l)
  let l := l.acceptRun (oneOf digits)
  let mark := l.pos
  let (dot, l) := l.accept (oneOf ".")
  if dot && l.peek == some '.' then (true, { l with pos := mark })
  else
    let l := if dot then l.acceptRun (oneOf digits) else l
    let (exp, l) := l.accept (oneOf "eE")
    let l := if exp then (l.accept (oneOf "+-")).2.acceptRun (oneOf digits) else l
    match l.peek with
    | some c => if isAlphaNumeric c then (false, (l.next).2) else (true, l)
    | none => (true, l)

def lexNumber (l : Lexer) : Lexer × Bool :=
  let (ok, l) := l.scanNumber
  if ok then (l.emit .number, true)
  else (l.fail ("bad number syntax: " ++ Text.quote (String.ofList l.word)), false)

def scanDigits (l : Lexer) (c : Option Char) (base : Nat) : Nat → Option Char × Lexer
  | 0 => (c, l)
  | count + 1 =>
    if digitValue c < base then
      let (c', l) := l.next
      l.scanDigits c' base count
    else (c, l.fail "invalid char escape")

def scanEscape (l : Lexer) (quote : Char) : Option Char × Lexer :=
  let (c, l) := l.next
  match c with
  | some ch =>
    if oneOf "abfnrtv\\" ch || ch = quote then l.next
    else if '0' ≤ ch && ch ≤ '7' then l.scanDigits c 8 3
    else if ch = 'x' then let (d, l) := l.next; l.scanDigits d 16 2
    else if ch = 'u' then let (d, l) := l.next; l.scanDigits d 16 4
    else if ch = 'U' then let (d, l) := l.next; l.scanDigits d 16 8
    else (c, l.fail "invalid char escape")
  | none => (c, l.fail "invalid char escape")

def scanString (quote : Char) : Nat → Lexer → Option Char → Lexer
  | 0, l, _ => l
  | fuel + 1, l, c =>
    match c with
    | some ch =>
      if ch = quote then l
      else if ch = '\n' then l.fail "literal not terminated"
      else if ch = '\\' then
        let (c', l) := l.scanEscape quote
        scanString quote fuel l c'
      else
        let (c', l) := l.next
        scanString quote fuel l c'
    | none => l.fail "literal not terminated"

def lexString (l : Lexer) (quote : Char) : Lexer :=
  let (c, l) := l.next
  let l := scanString quote (l.src.size + 2) l c
  match unescape l.word with
  | .ok s => l.emitValue .string s
  | .error e => (l.fail e.message).emitValue .string ""

def scanRaw : Nat → Lexer → Option Char → Lexer × Bool
  | 0, l, _ => (l, false)
  | fuel + 1, l, c =>
    match c with
    | some '`' => (l, true)
    | some _ => let (c', l) := l.next; scanRaw fuel l c'
    | none => (l.fail "literal not terminated", false)

def lexRaw (l : Lexer) : Lexer :=
  let (c, l) := l.next
  match scanRaw (l.src.size + 2) l c with
  | (l, true) =>
    l.emitValue .string (String.ofList ((l.src.toList.drop (l.start + 1)).take (l.pos - 1 - (l.start + 1))))
  | (l, false) => l

def operatorWords : List String := ["in", "or", "and", "matches", "contains", "startsWith", "endsWith", "let"]

def negatableWords : List String := ["in", "matches", "contains", "startsWith", "endsWith"]

def lexNot (l : Lexer) : Lexer :=
  let l := l.emit .operator
  let l := (l.acceptRun (· = ' ')).skip
  let mark := l.pos
  let l := l.acceptRun isAlphaNumeric
  if negatableWords.contains (String.ofList l.word) then l.emit .operator
  else { l with pos := mark }

def lexIdentifier (l : Lexer) : Lexer :=
  let l := l.acceptRun isAlphaNumeric
  let w := String.ofList l.word
  if w = "not" then l.lexNot
  else if operatorWords.contains w then l.emit .operator
  else l.emit .identifier

def skipLine : Nat → Lexer → Lexer
  | 0, l => l
  | fuel + 1, l =>
    match l.next with
    | (none, l) | (some '\n', l) => l
    | (some _, l) => skipLine fuel l

def skipBlock : Nat → Lexer → Lexer × Bool
  | 0, l => (l, false)
  | fuel + 1, l =>
    match l.next with
    | (none, l) => (l.fail "unclosed comment", false)
    | (some '*', l) =>
      let (closed, l) := l.accept (· = '/')
      if closed then (l, true) else skipBlock fuel l
    | (some _, l) => skipBlock fuel l

def lexSlash (l : Lexer) : Lexer × Bool :=
  let (line, l) := l.accept (· = '/')
  if line then ((skipLine (l.src.size + 2) l).skip, true)
  else
    let (block, l) := l.accept (· = '*')
    if block then
      let (l, ok) := skipBlock (l.src.size + 2) l
      (l.skip, ok)
    else (l.emit .operator, true)

def lexPointer (l : Lexer) : Lexer :=
  let l := ((l.accept (· = '#')).2).emit .operator
  let l := l.acceptRun isAlphaNumeric
  if l.word.isEmpty then l else l.emit .identifier

def step (l : Lexer) : Lexer × Bool :=
  match l.next with
  | (none, l) => (l.emitEnd, false)
  | (some c, l) =>
    if Text.isSpace c then (l.skip, true)
    else if c = '\'' || c = '"' then (l.lexString c, true)
    else if c = '`' then (l.lexRaw, true)
    else if '0' ≤ c && c ≤ '9' then l.backup.lexNumber
    else if c = '?' then (((l.accept (oneOf ".?")).2).emit .operator, true)
    else if c = '/' then l.lexSlash
    else if c = '#' then (l.lexPointer, true)
    else if c = '|' then (((l.accept (· = '|')).2).emit .operator, true)
    else if c = ':' then (((l.accept (· = ':')).2).emit .operator, true)
    else if oneOf "([\x7b)]\x7d" c then (l.emit .bracket, true)
    else if oneOf ",;%+-^" c then (l.emit .operator, true)
    else if oneOf "&!=*<>" c then (((l.accept (oneOf "&=*")).2).emit .operator, true)
    else if c = '.' then
      let l := l.backup
      let (_, l) := l.next
      let (digit, l) := l.accept (oneOf "0123456789")
      if digit then l.backup.lexNumber
      else (((l.accept (· = '.')).2).emit .operator, true)
    else if isAlphaNumeric c then (l.backup.lexIdentifier, true)
    else (l.fail ("unrecognized character: " ++ Text.codePointName c), false)

def run : Nat → Lexer → Lexer
  | 0, l => l
  | fuel + 1, l =>
    match l.step with
    | (l, true) => run fuel l
    | (l, false) => l

end Lexer

/-- The tokens of a source text, ending with the end token, or the first error. -/
def tokenize (src : String) : Except SyntaxError (Array Token) :=
  let chars := src.toList.toArray
  let l := Lexer.run (chars.size + 2) { src := chars }
  match l.failure with
  | some e => .error e
  | none => .ok l.tokens

end DruidQuery.Expr
