import Mathlib.Data.List.Nodup
import DruidQuery.Finding
/-!
A record's findings are the checks of the rules its type allows and a not-supported finding for
each present field its type does not allow.
-/

namespace DruidQuery

def Nested (path : String) : Prop := '.' ∈ path.toList ∨ '[' ∈ path.toList

instance : DecidablePred Nested := fun _ => inferInstanceAs (Decidable (_ ∨ _))

def Finding.IsNotSupported (message : String) : Prop := "is not".toList <+: message.toList

/-- Where a check of the rule for `field` may report: at `field` itself with a message of its
own, or at a path below some field. -/
def Finding.Sited (field : String) (f : Finding) : Prop :=
  (f.field = field ∧ ¬ Finding.IsNotSupported f.message) ∨ Nested f.field

section Paths

theorem nested_append_left {p : String} (q : String) (h : Nested p) : Nested (p ++ q) := by
  simp only [Nested, String.toList_append, List.mem_append] at h ⊢
  tauto

theorem nested_append_right (p : String) {q : String} (h : Nested q) : Nested (p ++ q) := by
  simp only [Nested, String.toList_append, List.mem_append] at h ⊢
  tauto

theorem nested_indexPath (field : String) (i : Int) : Nested (indexPath field i) := by
  simp [Nested, indexPath, String.toList_append]

theorem nested_joinPath {parent child : String} (hp : parent ≠ "") (hc : child ≠ "") :
    Nested (joinPath parent child) := by
  unfold joinPath
  simp only [String.isEmpty_iff, hp, hc, if_false]
  split
  · -- the child is an index, which starts with `[`
    rename_i hbracket
    have hmem : '[' ∈ child.toList :=
      (String.startsWith_string_iff.mp hbracket).subset (by simp)
    exact nested_append_right _ (Or.inr hmem)
  · exact nested_append_left _ (nested_append_right _ (by simp [Nested]))

theorem nested_joinPath_of_nested {parent : String} (child : String) (hp : Nested parent) :
    Nested (joinPath parent child) := by
  have hne : parent ≠ "" := by
    rintro rfl
    simp [Nested] at hp
  unfold joinPath
  simp only [String.isEmpty_iff, hne, if_false]
  split
  · exact hp
  · split
    · exact nested_append_left _ hp
    · exact nested_append_left _ (nested_append_left _ hp)

theorem ne_empty_of_nested {path : String} (h : Nested path) : path ≠ "" := by
  rintro rfl
  simp [Nested] at h

theorem mem_qualify {parent : String} {findings : List Finding} {f : Finding} :
    f ∈ qualify parent findings ↔ ∃ g ∈ findings, f = ⟨joinPath parent g.field, g.message⟩ := by
  simp [qualify, eq_comm]

theorem nested_of_mem_qualify {parent : String} {findings : List Finding} {f : Finding}
    (hp : parent ≠ "") (hpaths : ∀ g ∈ findings, g.field ≠ "") (h : f ∈ qualify parent findings) :
    Nested f.field := by
  obtain ⟨g, hg, rfl⟩ := mem_qualify.mp h
  exact nested_joinPath hp (hpaths g hg)

theorem nested_of_mem_qualify_index {field : String} {i : Int} {findings : List Finding}
    {f : Finding} (h : f ∈ qualify (indexPath field i) findings) : Nested f.field := by
  obtain ⟨g, -, rfl⟩ := mem_qualify.mp h
  exact nested_joinPath_of_nested _ (nested_indexPath field i)

end Paths

section Messages

theorem Finding.notSupported_toList (d : String) :
    (Finding.notSupported d).toList = "is not supported by type=".toList ++ d.toList := by
  unfold Finding.notSupported
  exact String.toList_append

theorem Finding.isNotSupported_notSupported (d : String) :
    Finding.IsNotSupported (Finding.notSupported d) := by
  rw [Finding.IsNotSupported, Finding.notSupported_toList]
  exact List.IsPrefix.trans (by decide) (List.prefix_append _ _)

theorem Finding.not_isNotSupported_of_prefix {p message : String}
    (hp : p.toList <+: message.toList) (hdiff : ¬ "is not".toList <+: p.toList)
    (hlen : 6 ≤ p.length) : ¬ Finding.IsNotSupported message := by
  intro h
  apply hdiff
  have hlen' : "is not".toList.length ≤ p.toList.length := by
    simpa [String.length_toList] using hlen
  exact List.prefix_of_prefix_length_le h hp hlen'

theorem Finding.sited_self {field : String} {message : String}
    (h : ¬ Finding.IsNotSupported message) : Finding.Sited field ⟨field, message⟩ :=
  .inl ⟨rfl, h⟩

theorem Finding.sited_of_mem_singleton {field message : String} {f : Finding}
    (hm : ¬ Finding.IsNotSupported message) (h : f ∈ [⟨field, message⟩]) :
    Finding.Sited field f := by
  rw [List.mem_singleton.mp h]
  exact Finding.sited_self hm

@[simp] theorem not_isNotSupported_blank : ¬ Finding.IsNotSupported Finding.blank := by
  simp [Finding.IsNotSupported, Finding.blank]

@[simp] theorem not_isNotSupported_required : ¬ Finding.IsNotSupported Finding.required := by
  simp [Finding.IsNotSupported, Finding.required]

end Messages

theorem checkNotBlank_sited {field value : String} {f : Finding}
    (h : f ∈ checkNotBlank field value) : Finding.Sited field f := by
  unfold checkNotBlank at h
  split at h
  · exact Finding.sited_of_mem_singleton not_isNotSupported_blank h
  · simp at h

theorem checkOneOf_sited {field value : String} {allowed : List String} {f : Finding}
    (h : f ∈ checkOneOf field value allowed) : Finding.Sited field f := by
  unfold checkOneOf at h
  split at h
  · simp at h
  · exact Finding.sited_of_mem_singleton (by simp [Finding.IsNotSupported, String.toList_append]) h

namespace Rule

variable {α : Type}

def findings (ρ : Rule α) (d : String) (r : α) : List Finding :=
  if ρ.appliesTo d then ρ.check r
  else if ρ.present r then [⟨ρ.field, Finding.notSupported d⟩]
  else []

end Rule

namespace RuleTable

variable {α : Type} (t : RuleTable α) (r : α)

theorem validate_eq_flatMap :
    t.validate r = t.rules.flatMap fun ρ => ρ.findings (t.discriminator r) r := rfl

theorem mem_validate {f : Finding} :
    f ∈ t.validate r ↔ ∃ ρ ∈ t.rules,
      (ρ.appliesTo (t.discriminator r) = true ∧ f ∈ ρ.check r) ∨
      (ρ.appliesTo (t.discriminator r) = false ∧ ρ.present r = true ∧
        f = ⟨ρ.field, Finding.notSupported (t.discriminator r)⟩) := by
  simp only [validate_eq_flatMap, List.mem_flatMap, Rule.findings]
  refine exists_congr fun ρ => and_congr_right fun _ => ?_
  by_cases happ : ρ.appliesTo (t.discriminator r) = true
  · simp [happ]
  · by_cases hpresent : ρ.present r = true <;> simp [happ, hpresent]

theorem validate_eq_nil_iff :
    t.validate r = [] ↔ ∀ ρ ∈ t.rules,
      (ρ.appliesTo (t.discriminator r) = true → ρ.check r = []) ∧
      (ρ.appliesTo (t.discriminator r) = false → ρ.present r = false) := by
  simp only [validate_eq_flatMap, List.flatMap_eq_nil_iff, Rule.findings]
  refine forall₂_congr fun ρ _ => ?_
  by_cases happ : ρ.appliesTo (t.discriminator r) = true
  · simp [happ]
  · by_cases hpresent : ρ.present r = true <;> simp [happ, hpresent]

variable {t r}

theorem check_eq_nil_of_validate_eq_nil {ρ : Rule α} (h : t.validate r = []) (hρ : ρ ∈ t.rules)
    (happ : ρ.appliesTo (t.discriminator r) = true) : ρ.check r = [] :=
  ((validate_eq_nil_iff t r).mp h ρ hρ).1 happ

theorem present_eq_false_of_validate_eq_nil {ρ : Rule α} (h : t.validate r = [])
    (hρ : ρ ∈ t.rules) (happ : ρ.appliesTo (t.discriminator r) = false) : ρ.present r = false :=
  ((validate_eq_nil_iff t r).mp h ρ hρ).2 happ

theorem checked_or_unset_of_validate_eq_nil (h : t.validate r = []) :
    ∀ ρ ∈ t.rules, ρ.check r = [] ∨ ρ.present r = false := by
  intro ρ hρ
  cases happ : ρ.appliesTo (t.discriminator r)
  · exact .inr (present_eq_false_of_validate_eq_nil h hρ happ)
  · exact .inl (check_eq_nil_of_validate_eq_nil h hρ happ)

section Allowed

-- every field present on the record is one its type allows
variable (hallowed : t.rules.all (fun ρ => ρ.appliesTo (t.discriminator r) || !ρ.present r) = true)
include hallowed

theorem mem_check_of_allowed {f : Finding} (h : f ∈ t.validate r) :
    ∃ ρ ∈ t.rules, ρ.appliesTo (t.discriminator r) = true ∧ f ∈ ρ.check r := by
  obtain ⟨ρ, hρ, ⟨happ, hf⟩ | ⟨happ, hpresent, -⟩⟩ := (mem_validate t r).mp h
  · exact ⟨ρ, hρ, happ, hf⟩
  · -- a field the type does not allow is absent
    have hρ' := List.all_eq_true.mp hallowed ρ hρ
    simp [happ, hpresent] at hρ'

theorem validate_eq_nil_of_allowed
    (hcheck : ∀ ρ ∈ t.rules, ρ.appliesTo (t.discriminator r) = true → ρ.check r = []) :
    t.validate r = [] := by
  refine (validate_eq_nil_iff t r).mpr fun ρ hρ => ⟨hcheck ρ hρ, fun happ => ?_⟩
  have hρ' := List.all_eq_true.mp hallowed ρ hρ
  simpa [happ] using hρ'

end Allowed

theorem applicable_eq_of_shapes {u : RuleTable α}
    (h : t.rules.map (fun ρ => (ρ.field, ρ.types)) = u.rules.map (fun ρ => (ρ.field, ρ.types)))
    (F d : String) : t.applicable F d = u.applicable F d := by
  have hfind : ∀ v : RuleTable α, (v.rules.find? (·.field == F)).map (fun ρ => (ρ.field, ρ.types)) =
      (v.rules.map (fun ρ => (ρ.field, ρ.types))).find? (·.1 == F) := fun v => by
    rw [List.find?_map]
    rfl
  have hmap := (hfind t).trans (h ▸ (hfind u).symm)
  unfold applicable Rule.appliesTo
  cases ht : t.rules.find? (·.field == F) <;> cases hu : u.rules.find? (·.field == F) <;>
    simp_all

theorem applicable_field {ρ : Rule α} (hnodup : t.fields.Nodup) (hρ : ρ ∈ t.rules)
    (d : String) : t.applicable ρ.field d = ρ.appliesTo d := by
  unfold applicable
  cases hfind : t.rules.find? (·.field == ρ.field) with
  | none =>
    have := List.find?_eq_none.mp hfind ρ hρ
    simp at this
  | some σ =>
    have hσ : σ ∈ t.rules := List.mem_of_find?_eq_some hfind
    have hfield : σ.field = ρ.field := by simpa using List.find?_some hfind
    rw [List.inj_on_of_nodup_map hnodup hσ hρ hfield]

theorem notSupported_mem_validate_iff {ρ : Rule α} (hnodup : t.fields.Nodup)
    (hplain : ∀ F ∈ t.fields, ¬ Nested F)
    (hsited : ∀ σ ∈ t.rules, σ.appliesTo (t.discriminator r) = true →
      ∀ f ∈ σ.check r, Finding.Sited σ.field f)
    (hρ : ρ ∈ t.rules) :
    ⟨ρ.field, Finding.notSupported (t.discriminator r)⟩ ∈ t.validate r ↔
      ρ.appliesTo (t.discriminator r) = false ∧ ρ.present r = true := by
  rw [mem_validate]
  constructor
  · rintro ⟨σ, hσ, ⟨happ, hmem⟩ | ⟨happ, hpresent, heq⟩⟩
    · -- an allowed check reports at a nested path or with a message of its own
      rcases hsited σ hσ happ _ hmem with ⟨-, hmsg⟩ | hnested
      · exact absurd (Finding.isNotSupported_notSupported _) hmsg
      · exact absurd hnested (hplain ρ.field (List.mem_map_of_mem hρ))
    · have hfield : σ.field = ρ.field := (congrArg Finding.field heq).symm
      rw [List.inj_on_of_nodup_map hnodup hσ hρ hfield] at happ hpresent
      exact ⟨happ, hpresent⟩
  · rintro ⟨happ, hpresent⟩
    exact ⟨ρ, hρ, .inr ⟨happ, hpresent, rfl⟩⟩

/-- The same for a record validated by a table `t` of the same fields and types as a table `u`,
when each field whose rule lists types is present exactly when it is among the `carried` ones. -/
theorem notSupported_mem_validate_iff_carried {u : RuleTable α} {F : String}
    (carried : List String)
    (hshapes : t.rules.map (fun ρ => (ρ.field, ρ.types)) = u.rules.map (fun ρ => (ρ.field, ρ.types)))
    (hnodup : u.fields.Nodup) (hplain : ∀ F ∈ u.fields, ¬ Nested F)
    (hsited : ∀ σ ∈ t.rules, σ.appliesTo (t.discriminator r) = true →
      ∀ g ∈ σ.check r, Finding.Sited σ.field g)
    (hpresent : ∀ ρ ∈ t.rules, ρ.field = F → ρ.types ≠ [] → (ρ.present r = true ↔ F ∈ carried))
    (hF : F ∈ u.fields) :
    ⟨F, Finding.notSupported (t.discriminator r)⟩ ∈ t.validate r ↔
      F ∈ carried ∧ u.applicable F (t.discriminator r) = false := by
  have hfields : t.fields = u.fields := by
    simpa [RuleTable.fields, List.map_map, Function.comp_def] using
      congrArg (List.map Prod.fst) hshapes
  rw [← hfields] at hnodup hplain hF
  obtain ⟨ρ, hρ, rfl⟩ := List.mem_map.mp hF
  rw [notSupported_mem_validate_iff hnodup hplain hsited hρ, ← applicable_eq_of_shapes hshapes,
    applicable_field hnodup hρ]
  by_cases hty : ρ.types = []
  · -- a rule that lists no types allows its field everywhere
    simp [Rule.appliesTo, hty]
  · rw [hpresent ρ hρ rfl hty, and_comm]

theorem field_ne_empty_of_mem_validate {f : Finding}
    (hfields : ∀ F ∈ t.fields, F ≠ "")
    (hsited : ∀ σ ∈ t.rules, σ.appliesTo (t.discriminator r) = true →
      ∀ g ∈ σ.check r, Finding.Sited σ.field g)
    (h : f ∈ t.validate r) : f.field ≠ "" := by
  obtain ⟨σ, hσ, ⟨happ, hmem⟩ | ⟨-, -, rfl⟩⟩ := (mem_validate t r).mp h
  · rcases hsited σ hσ happ f hmem with ⟨hfield, -⟩ | hnested
    · exact hfield ▸ hfields σ.field (List.mem_map_of_mem hσ)
    · exact ne_empty_of_nested hnested
  · exact hfields σ.field (List.mem_map_of_mem hσ)

end RuleTable

end DruidQuery
