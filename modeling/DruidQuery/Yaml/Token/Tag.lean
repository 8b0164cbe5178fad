import DruidQuery.Yaml.Token.Cursor

namespace DruidQuery.Yaml

def readWord : Nat → String → ScanM String
  | 0, acc => pure acc
  | n + 1, acc => do
    if isWordChar (← peekChar 0) then readWord n (← readChar acc) else pure acc

def scanAnchor (kind : TokenKind) : ScanM Token := do
  let start := (← get).mark
  skipChar
  let name ← readWord (← get).fuel ""
  let stop := (← get).mark
  let c ← peekChar 0
  let ends := isBlankOrEnd c || c = '?' || c = ':' || c = ',' || c = ']' || c = '}' ||
    c = '%' || c = '@' || c = '`'
  if name.isEmpty || !ends then
    scanError start "did not find expected alphabetic or numeric character"
  return { kind, start, stop, value := name }

def leadingOctetWidth (b : Nat) : Option Nat :=
  if b &&& 0x80 == 0 then some 1
  else if b &&& 0xE0 == 0xC0 then some 2
  else if b &&& 0xF0 == 0xE0 then some 3
  else if b &&& 0xF8 == 0xF0 then some 4
  else none

def uriEscapes (start : Mark) : Nat → Nat → List UInt8 → ScanM (List UInt8)
  | 0, _, acc => pure acc
  | n + 1, width, acc => do
    let s ← get
    let octet := do
      if s.ahead 0 ≠ '%' then none
      let hi ← hexValue (s.ahead 1)
      let lo ← hexValue (s.ahead 2)
      some (hi * 16 + lo)
    match octet with
    | none => scanError start "did not find URI escaped octet"
    | some b =>
      let width ← if width == 0 then
          match leadingOctetWidth b with
          | some w => pure w
          | none => scanError start "found an incorrect leading UTF-8 octet"
        else if b &&& 0xC0 != 0x80 then scanError start "found an incorrect trailing UTF-8 octet"
        else pure width
      skipChar
      skipChar
      skipChar
      let acc := acc ++ [b.toUInt8]
      if width ≤ 1 then pure acc else uriEscapes start n (width - 1) acc

def isUriChar (verbatim : Bool) (c : Char) : Bool :=
  isWordChar c || ";/?:@&=+$.!~*'()%".contains c || (verbatim && (c = ',' || c = '[' || c = ']'))

def scanTagUri (verbatim : Bool) (head : String) (start : Mark) : ScanM String := do
  let rec go : Nat → String × Bool → ScanM (String × Bool)
    | 0, acc => pure acc
    | n + 1, (acc, seen) => do
      let c ← peekChar 0
      if !isUriChar verbatim c then return (acc, seen)
      if c = '%' then
        let bytes ← uriEscapes start (← get).fuel 0 []
        let text := (String.fromUTF8? (ByteArray.mk bytes.toArray)).getD ""
        go n (acc ++ text, true)
      else go n (← readChar acc, true)
  let (body, seen) ← go (← get).fuel (String.ofList (head.toList.drop 1), !head.isEmpty)
  if !seen then scanError start "did not find expected tag URI"
  return body

def scanTagHandle (directive : Bool) (start : Mark) : ScanM String := do
  if (← peekChar 0) ≠ '!' then scanError start "did not find expected '!'"
  let handle ← readWord (← get).fuel (← readChar "")
  if (← peekChar 0) = '!' then return ← readChar handle
  if directive && handle != "!" then scanError start "did not find expected '!'"
  return handle

def scanTag : ScanM Token := do
  let s ← get
  let start := s.mark
  let (handle, suffix) ← if s.ahead 1 = '<' then do
      skipChar
      skipChar
      let suffix ← scanTagUri true "" start
      if (← peekChar 0) ≠ '>' then scanError start "did not find the expected '>'"
      skipChar
      pure ("", suffix)
    else do
      let handle ← scanTagHandle false start
      if handle.length > 1 && handle.startsWith "!" && handle.endsWith "!" then
        pure (handle, ← scanTagUri false "" start)
      else
        let suffix ← scanTagUri false handle start
        if suffix.isEmpty then pure ("", "!") else pure ("!", suffix)
  let s ← get
  let c := s.ahead 0
  if !isBlankOrEnd c && (s.flowLevel == 0 || c ≠ ',') then
    scanError start "did not find expected whitespace or line break"
  return { kind := .tag, start, stop := s.mark, value := handle, suffix }

def skipBlanks : Nat → ScanM Unit
  | 0 => pure ()
  | n + 1 => do
    if isBlank (← peekChar 0) then
      skipChar
      skipBlanks n

def versionNumber (start : Mark) : ScanM Nat := do
  let rec go : Nat → Nat → Nat → ScanM (Nat × Nat)
    | 0, v, len => pure (v, len)
    | n + 1, v, len => do
      let c ← peekChar 0
      if !isDigitChar c then return (v, len)
      if len + 1 > 2 then scanError start "found extremely long version number"
      skipChar
      go n (v * 10 + (c.toNat - 48)) (len + 1)
  let (v, len) ← go (← get).fuel 0 0
  if len == 0 then scanError start "did not find expected version number"
  return v

def scanDirective : ScanM Token := do
  let start := (← get).mark
  skipChar
  let name ← readWord (← get).fuel ""
  if name.isEmpty then scanError start "could not find expected directive name"
  if !isBlankOrEnd (← peekChar 0) then
    scanError start "found unexpected non-alphabetical character"
  let token ← if name == "YAML" then do
      skipBlanks (← get).fuel
      let major ← versionNumber start
      if (← peekChar 0) ≠ '.' then
        scanError start "did not find expected digit or '.' character"
      skipChar
      let minor ← versionNumber start
      pure { kind := .versionDirective, start, stop := (← get).mark, major, minor : Token }
    else if name == "TAG" then do
      skipBlanks (← get).fuel
      let handle ← scanTagHandle true start
      if !isBlank (← peekChar 0) then scanError start "did not find expected whitespace"
      skipBlanks (← get).fuel
      let pre ← scanTagUri true "" start
      if !isBlankOrEnd (← peekChar 0) then
        scanError start "did not find expected whitespace or line break"
      pure { kind := .tagDirective, start, stop := (← get).mark, value := handle, suffix := pre : Token }
    else scanError start "found unknown directive name"
  skipBlanks (← get).fuel
  if (← peekChar 0) = '#' then skipToBreak (← get).fuel
  if !isBreakOrEnd (← peekChar 0) then
    scanError start "did not find expected comment or line break"
  if isBreak (← peekChar 0) then skipLine
  return token

end DruidQuery.Yaml
