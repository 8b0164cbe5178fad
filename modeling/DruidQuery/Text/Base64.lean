
namespace DruidQuery.Text

def base64Value (c : Char) : Option Nat :=
  if 'A' ≤ c && c ≤ 'Z' then some (c.toNat - 65)
  else if 'a' ≤ c && c ≤ 'z' then some (c.toNat - 71)
  else if '0' ≤ c && c ≤ '9' then some (c.toNat + 4)
  else if c = '+' then some 62
  else if c = '/' then some 63
  else none

def decodeBase64Groups : List Char → Option (List UInt8)
  | [] => some []
  | a :: b :: c :: d :: rest => do
    let va ← base64Value a
    let vb ← base64Value b
    let first := (va * 4 + vb / 16).toUInt8
    if c = '=' then
      if d = '=' && rest.isEmpty then some [first] else none
    else
      let vc ← base64Value c
      let second := ((vb % 16) * 16 + vc / 4).toUInt8
      if d = '=' then
        if rest.isEmpty then some [first, second] else none
      else
        let vd ← base64Value d
        let tail ← decodeBase64Groups rest
        some (first :: second :: ((vc % 4) * 64 + vd).toUInt8 :: tail)
  | _ => none

def decodeBase64 (text : String) : Option (List UInt8) :=
  decodeBase64Groups (text.toList.filter fun c => c ≠ '\n' && c ≠ '\r')

end DruidQuery.Text
