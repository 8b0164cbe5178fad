import DruidQuery.Text.Classes
import DruidQuery.Text.Table

namespace DruidQuery

/-- A message attached to a field path; the empty path stands for the record itself. -/
structure Finding where
  field : String
  message : String
deriving DecidableEq, Repr, Inhabited

namespace Finding

def blank : String := "may not be blank"

def required : String := "is required"

def notSupported (discriminator : String) : String :=
  "is not supported by type=" ++ discriminator

def text (f : Finding) : String :=
  if f.field.isEmpty then f.message else f.field ++ " " ++ f.message

end Finding

def joinPath (parent child : String) : String :=
  if parent.isEmpty then child
  else if child.isEmpty then parent
  else if child.startsWith "[" then parent ++ child
  else parent ++ "." ++ child

def indexPath (field : String) (i : Int) : String :=
  field ++ "[" ++ toString i ++ "]"

/-- Findings of a child record, qualified by the child's path. -/
def qualify (parent : String) (findings : List Finding) : List Finding :=
  findings.map fun f => ⟨joinPath parent f.field, f.message⟩

def findingsText (findings : List Finding) : String :=
  "; ".intercalate (findings.map Finding.text)

def findingFields (findings : List Finding) : List String :=
  (findings.map (·.field)).foldl (fun acc f => if acc.contains f then acc else acc ++ [f]) []

def findingsTable (findings : List Finding) : String :=
  Table.render ["field", "message"] (findings.map fun f => [f.field, f.message])

def findingsOn (findings : List Finding) (field : String) : List String :=
  (findings.filter (·.field == field)).map (·.message)

structure Rule (α : Type) where
  field : String
  types : List String := []
  present : α → Bool := fun _ => false
  check : α → List Finding := fun _ => []

def Rule.appliesTo {α : Type} (r : Rule α) (discriminator : String) : Bool :=
  r.types.isEmpty || r.types.contains discriminator

/-- A rule table: how a record names its type, and the rules in order. -/
structure RuleTable (α : Type) where
  discriminator : α → String
  rules : List (Rule α)

namespace RuleTable

variable {α : Type}

def validate (t : RuleTable α) (r : α) : List Finding :=
  let d := t.discriminator r
  t.rules.flatMap fun rule =>
    if rule.appliesTo d then rule.check r
    else if rule.present r then [⟨rule.field, Finding.notSupported d⟩]
    else []

def applicable (t : RuleTable α) (field discriminator : String) : Bool :=
  match t.rules.find? (·.field == field) with
  | some rule => rule.appliesTo discriminator
  | none => true

def fields (t : RuleTable α) : List String := t.rules.map (·.field)

end RuleTable

def checkNotBlank (field value : String) : List Finding :=
  if Text.isBlank value then [⟨field, Finding.blank⟩] else []

def checkOneOf (field value : String) (allowed : List String) : List Finding :=
  if value.isEmpty || allowed.contains value then []
  else [⟨field, "must be one of [" ++ ", ".intercalate allowed ++ "]"⟩]

end DruidQuery
