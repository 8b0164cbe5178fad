
namespace DruidQuery.Text

def replacement : Char := '�'

def encodePoint (n : Nat) : List UInt8 :=
  let n := if (0xD800 ≤ n && n ≤ 0xDFFF) || n > 0x10FFFF then 0xFFFD else n
  if n < 0x80 then [n.toUInt8]
  else if n < 0x800 then [(0xC0 + n / 64).toUInt8, (0x80 + n % 64).toUInt8]
  else if n < 0x10000 then
    [(0xE0 + n / 4096).toUInt8, (0x80 + n / 64 % 64).toUInt8, (0x80 + n % 64).toUInt8]
  else
    [(0xF0 + n / 262144).toUInt8, (0x80 + n / 4096 % 64).toUInt8, (0x80 + n / 64 % 64).toUInt8,
      (0x80 + n % 64).toUInt8]

def isContinuation (b : UInt8) : Bool := 0x80 ≤ b && b ≤ 0xBF

def decodeHead : List UInt8 → Option (Nat × Nat)
  | [] => none
  | b0 :: rest =>
    let n0 := b0.toNat
    if n0 < 0x80 then some (n0, 1)
    else if 0xC2 ≤ n0 && n0 ≤ 0xDF then
      match rest with
      | b1 :: _ => if isContinuation b1 then some ((n0 - 0xC0) * 64 + (b1.toNat - 0x80), 2) else none
      | [] => none
    else if 0xE0 ≤ n0 && n0 ≤ 0xEF then
      match rest with
      | b1 :: b2 :: _ =>
        let lo := if n0 = 0xE0 then 0xA0 else 0x80
        let hi := if n0 = 0xED then 0x9F else 0xBF
        if lo ≤ b1.toNat && b1.toNat ≤ hi && isContinuation b2 then
          some ((n0 - 0xE0) * 4096 + (b1.toNat - 0x80) * 64 + (b2.toNat - 0x80), 3)
        else none
      | _ => none
    else if 0xF0 ≤ n0 && n0 ≤ 0xF4 then
      match rest with
      | b1 :: b2 :: b3 :: _ =>
        let lo := if n0 = 0xF0 then 0x90 else 0x80
        let hi := if n0 = 0xF4 then 0x8F else 0xBF
        if lo ≤ b1.toNat && b1.toNat ≤ hi && isContinuation b2 && isContinuation b3 then
          some ((n0 - 0xF0) * 262144 + (b1.toNat - 0x80) * 4096 + (b2.toNat - 0x80) * 64 +
            (b3.toNat - 0x80), 4)
        else none
      | _ => none
    else none

def decodeLossy (bytes : List UInt8) : String :=
  let rec go : Nat → List UInt8 → List Char → List Char
    | 0, _, acc => acc.reverse
    | _ + 1, [], acc => acc.reverse
    | fuel + 1, bs@(_ :: rest), acc =>
      match decodeHead bs with
      | some (n, len) => go fuel (bs.drop len) (Char.ofNat n :: acc)
      | none => go fuel rest (replacement :: acc)
  String.ofList (go (bytes.length + 1) bytes [])

def byteText (b : UInt8) : String :=
  if b < 0x80 then (Char.ofNat b.toNat).toString else replacement.toString

end DruidQuery.Text
