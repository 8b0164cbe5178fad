import DruidQuery.Text.Classes

namespace DruidQuery.Text

def hexDigit (n : Nat) : Char :=
  "0123456789abcdef".toList.getD (n % 16) '0'

def hexFixed (width n : Nat) : String :=
  String.ofList ((List.range width).reverse.map fun i => hexDigit (n / Nat.pow 16 i))

def hexUpper (n : Nat) : String :=
  let digits := (Nat.toDigits 16 n).map Char.toUpper
  String.ofList (List.replicate (4 - digits.length) '0' ++ digits)

def quoteChar (c : Char) : String :=
  if c = '"' then "\\\""
  else if c = '\\' then "\\\\"
  else if isPrintable c then c.toString
  else match c.toNat with
    | 0x07 => "\\a"
    | 0x08 => "\\b"
    | 0x0C => "\\f"
    | 0x0A => "\\n"
    | 0x0D => "\\r"
    | 0x09 => "\\t"
    | 0x0B => "\\v"
    | n =>
      if n < 0x20 || n == 0x7F then "\\x" ++ hexFixed 2 n
      else if n < 0x10000 then "\\u" ++ hexFixed 4 n
      else "\\U" ++ hexFixed 8 n

/-- Double-quoted text: the quote and the backslash are escaped, and so is every character that
is not printable, by its short escape if it has one and by its code point otherwise. -/
def quote (s : String) : String :=
  "\"" ++ String.join (s.toList.map quoteChar) ++ "\""

def codePointName (c : Char) : String :=
  "U+" ++ hexUpper c.toNat ++ (if isPrintable c then " '" ++ c.toString ++ "'" else "")

def jsonChar (c : Char) : String :=
  if c = '"' then "\\\""
  else if c = '\\' then "\\\\"
  else match c.toNat with
    | 0x0A => "\\n"
    | 0x0D => "\\r"
    | 0x09 => "\\t"
    | n => if n < 0x20 then "\\u00" ++ hexFixed 2 n else c.toString

def jsonString (s : String) : String :=
  "\"" ++ String.join (s.toList.map jsonChar) ++ "\""

end DruidQuery.Text
