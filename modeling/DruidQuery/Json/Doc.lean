
namespace DruidQuery.Json

/-- A JSON document; numbers are kept as written. -/
inductive Doc where
  | null
  | bool (b : Bool)
  | number (text : String)
  | string (s : String)
  | array (items : List Doc)
  | object (fields : List (String × Doc))
deriving Inhabited

namespace Doc

def get? (d : Doc) (key : String) : Option Doc :=
  match d with
  | object fields => (fields.reverse.find? (·.1 == key)).map (·.2)
  | _ => none

def str? : Doc → Option String
  | string s => some s
  | _ => none

end Doc

abbrev Cursor := Array Char

def skipBlank (cs : Cursor) (i : Nat) : Nat :=
  if h : i < cs.size then
    if cs[i] = ' ' || cs[i] = '\t' || cs[i] = '\n' || cs[i] = '\r' then skipBlank cs (i + 1) else i
  else i
termination_by cs.size - i

def hex4 (cs : Cursor) (i : Nat) : Option Nat :=
  (List.range 4).foldl (fun acc k => acc.bind fun v =>
    match cs[i + k]? with
    | some c =>
      if '0' ≤ c && c ≤ '9' then some (v * 16 + (c.toNat - 48))
      else if 'a' ≤ c && c ≤ 'f' then some (v * 16 + (c.toNat - 87))
      else if 'A' ≤ c && c ≤ 'F' then some (v * 16 + (c.toNat - 55))
      else none
    | none => none) (some 0)

def readString (cs : Cursor) : Nat → Nat → List Char → Except String (String × Nat)
  | 0, _, _ => .error "unexpected end of string"
  | fuel + 1, i, acc =>
    match cs[i]? with
    | none => .error "unexpected end of string"
    | some '"' => .ok (String.ofList acc.reverse, i + 1)
    | some '\\' =>
      match cs[i + 1]? with
      | some 'u' =>
        match hex4 cs (i + 2) with
        | none => .error "invalid unicode escape"
        | some hi =>
          if 0xD800 ≤ hi && hi < 0xDC00 && cs[i + 6]? = some '\\' && cs[i + 7]? = some 'u' then
            match hex4 cs (i + 8) with
            | some lo =>
              if 0xDC00 ≤ lo && lo < 0xE000 then
                readString cs fuel (i + 12) (Char.ofNat (0x10000 + (hi - 0xD800) * 0x400 + (lo - 0xDC00)) :: acc)
              else readString cs fuel (i + 6) (Char.ofNat 0xFFFD :: acc)
            | none => readString cs fuel (i + 6) (Char.ofNat 0xFFFD :: acc)
          else if 0xD800 ≤ hi && hi < 0xE000 then readString cs fuel (i + 6) (Char.ofNat 0xFFFD :: acc)
          else readString cs fuel (i + 6) (Char.ofNat hi :: acc)
      | some c =>
        let decoded := match c with
          | '"' => some '"' | '\\' => some '\\' | '/' => some '/' | 'b' => some '\x08'
          | 'f' => some '\x0c' | 'n' => some '\n' | 'r' => some '\r' | 't' => some '\t'
          | _ => none
        match decoded with
        | some d => readString cs fuel (i + 2) (d :: acc)
        | none => .error "invalid escape"
      | none => .error "unexpected end of string"
    | some c => readString cs fuel (i + 1) (c :: acc)

def numberEnd (cs : Cursor) (i : Nat) : Nat :=
  if h : i < cs.size then
    if "+-.eE0123456789".toList.contains cs[i] then numberEnd cs (i + 1) else i
  else i
termination_by cs.size - i

def isNumberText (s : List Char) : Bool :=
  let s := match s with | '-' :: r => r | r => r
  let intPart := s.takeWhile Char.isDigit
  let rest := s.dropWhile Char.isDigit
  let intOk := !intPart.isEmpty && (intPart.length = 1 || intPart.head? != some '0')
  let (fracOk, rest) := match rest with
    | '.' :: r => (!(r.takeWhile Char.isDigit).isEmpty, r.dropWhile Char.isDigit)
    | r => (true, r)
  let expOk := match rest with
    | [] => true
    | e :: r =>
      (e = 'e' || e = 'E') &&
      (let r := match r with | '+' :: t => t | '-' :: t => t | t => t
       !r.isEmpty && r.all Char.isDigit)
  intOk && fracOk && expOk

mutual

def readValue (cs : Cursor) : Nat → Nat → Except String (Doc × Nat)
  | 0, _ => .error "document nested too deeply"
  | fuel + 1, i =>
    let i := skipBlank cs i
    match cs[i]? with
    | some '{' => readObject cs fuel (i + 1) []
    | some '[' => readArray cs fuel (i + 1) []
    | some '"' => (readString cs (cs.size + 1) (i + 1) []).map fun (s, j) => (.string s, j)
    | some 't' => if cs.extract i (i + 4) = "true".toList.toArray then .ok (.bool true, i + 4) else .error "invalid literal"
    | some 'f' => if cs.extract i (i + 5) = "false".toList.toArray then .ok (.bool false, i + 5) else .error "invalid literal"
    | some 'n' => if cs.extract i (i + 4) = "null".toList.toArray then .ok (.null, i + 4) else .error "invalid literal"
    | some _ =>
      let j := numberEnd cs i
      let text := (cs.extract i j).toList
      if isNumberText text then .ok (.number (String.ofList text), j) else .error "invalid character"
    | none => .error "unexpected end of input"

def readObject (cs : Cursor) : Nat → Nat → List (String × Doc) → Except String (Doc × Nat)
  | 0, _, _ => .error "document nested too deeply"
  | fuel + 1, i, acc =>
    let i := skipBlank cs i
    if acc.isEmpty && cs[i]? = some '}' then .ok (.object [], i + 1)
    else if cs[i]? != some '"' then .error "expected a key"
    else do
      let (key, j) ← readString cs (cs.size + 1) (i + 1) []
      let j := skipBlank cs j
      if cs[j]? != some ':' then throw "expected a colon"
      let (v, k) ← readValue cs fuel (j + 1)
      let k := skipBlank cs k
      match cs[k]? with
      | some ',' => readObject cs fuel (k + 1) ((key, v) :: acc)
      | some '}' => .ok (.object ((key, v) :: acc).reverse, k + 1)
      | _ => throw "expected a comma or a closing brace"

def readArray (cs : Cursor) : Nat → Nat → List Doc → Except String (Doc × Nat)
  | 0, _, _ => .error "document nested too deeply"
  | fuel + 1, i, acc =>
    let i := skipBlank cs i
    if acc.isEmpty && cs[i]? = some ']' then .ok (.array [], i + 1)
    else do
      let (v, k) ← readValue cs fuel i
      let k := skipBlank cs k
      match cs[k]? with
      | some ',' => readArray cs fuel (k + 1) (v :: acc)
      | some ']' => .ok (.array (v :: acc).reverse, k + 1)
      | _ => throw "expected a comma or a closing bracket"

end

def readDoc (s : String) : Except String Doc := do
  let cs := s.toList.toArray
  let (d, i) ← readValue cs (2 * cs.size + 2) 0
  if skipBlank cs i = cs.size then pure d else throw "text after the document"

def memberTexts (s : String) : List (String × String) :=
  let cs := s.toList.toArray
  let fuel := 2 * cs.size + 2
  let rec go : Nat → Nat → List (String × String) → List (String × String)
    | 0, _, acc => acc
    | n + 1, i, acc =>
      let i := skipBlank cs i
      if cs[i]? != some '"' then acc
      else match readString cs (cs.size + 1) (i + 1) [] with
        | .error _ => acc
        | .ok (key, j) =>
          let j := skipBlank cs j + 1
          let start := skipBlank cs j
          match readValue cs fuel start with
          | .error _ => acc
          | .ok (_, k) =>
            let acc := (key, String.ofList (cs.extract start k).toList) :: acc
            let k := skipBlank cs k
            if cs[k]? = some ',' then go n (k + 1) acc else acc
  let i := skipBlank cs 0
  if cs[i]? = some '{' then (go cs.size (i + 1) []).reverse else []

end DruidQuery.Json
