
namespace DruidQuery.Text

def upperToAscii (c : Char) : Char :=
  if 'a' ≤ c && c ≤ 'z' then Char.ofNat (c.toNat - 32)
  else if c = '\u0131' then 'I'
  else if c = '\u017F' then 'S'
  else c

def lowerToAscii (c : Char) : Char :=
  if 'A' ≤ c && c ≤ 'Z' then Char.ofNat (c.toNat + 32)
  else if c = '\u0130' then 'i'
  else if c = '\u212A' then 'k'
  else c

def upperText (s : String) : String := s.map upperToAscii

def lowerText (s : String) : String := s.map lowerToAscii

def lowerAsciiText (s : String) : String := s.map Char.toLower

end DruidQuery.Text
