import DruidQuery.Proofs.RuleTable
import DruidQuery.Proofs.Branching
import DruidQuery.Query.Check
/-!
The aggregation table's `name` row has no presence test and its `fieldNames` row tests for a given
list, so an empty list is reported though the JSON leaves it out; the having table accepts a blank
type.
-/

namespace DruidQuery

def Json.keys : Json → List String
  | .object fields => fields.map Prod.fst
  | _ => []

theorem Json.keys_record (fields : List (String × Option Json)) :
    (Json.record fields).keys = fields.filterMap fun e => e.2.map fun _ => e.1 := by
  induction fields with
  | nil => rfl
  | cons e rest ih =>
    obtain ⟨k, _ | v⟩ := e <;> simp_all [Json.record, Json.keys]

theorem Json.mem_keys_record {fields : List (String × Option Json)} {k : String} :
    k ∈ (Json.record fields).keys ↔ ∃ v, (k, v) ∈ fields ∧ v.isSome = true := by
  rw [Json.keys_record, List.mem_filterMap]
  constructor
  · rintro ⟨⟨k', _ | v⟩, hmem, h⟩
    · simp at h
    · simp only [Option.map_some, Option.some.injEq] at h
      exact ⟨some v, h ▸ hmem, rfl⟩
  · rintro ⟨_ | v, hmem, hv⟩
    · simp at hv
    · exact ⟨_, hmem, rfl⟩

section Written

@[simp] theorem Json.text?_isSome (s : String) : (Json.text? s).isSome = !s.isEmpty := by
  unfold Json.text?
  split <;> simp_all

@[simp] theorem Json.list?_isSome {α : Type} (f : α → Json) (xs : List α) :
    (Json.list? f xs).isSome = !xs.isEmpty := by
  unfold Json.list?
  split <;> simp_all

@[simp] theorem Json.int?_isSome (n : Int) : (Json.int? n).isSome = decide (n ≠ 0) := by
  unfold Json.int?
  split <;> simp_all

@[simp] theorem floatJson?_isSome (x : Float) : (floatJson? x).isSome = (x != 0) := by
  unfold floatJson?
  split <;> simp_all [bne]

@[simp] theorem Query.optionsJson?_isSome {α : Type} (f : α → Json) (xs : List (Option α)) :
    (Query.optionsJson? f xs).isSome = !xs.isEmpty := by
  unfold Query.optionsJson?
  split <;> simp_all

@[simp] theorem Filter.childJson?_isSome (f : Option Filter) :
    (Filter.childJson? f).isSome = f.isSome := by
  cases f <;> rfl

@[simp] theorem Having.childJson?_isSome (h : Option Having) :
    (Having.childJson? h).isSome = h.isSome := by
  cases h <;> rfl

@[simp] theorem PostAggregation.childJson?_isSome (p : Option PostAggregation) :
    (PostAggregation.childJson? p).isSome = p.isSome := by
  cases p <;> rfl

end Written

section Messages

theorem not_isNotSupported_quote_append (s t : String) :
    ¬ Finding.IsNotSupported (Text.quote s ++ t) := by
  simp [Finding.IsNotSupported, Text.quote, String.toList_append]

theorem Script.not_isNotSupported_message (e : Script.Error) :
    ¬ Finding.IsNotSupported e.message := by
  -- every message of a script error opens with `invalid javascript function: `
  have hp : "invalid".toList <+: e.message.toList := by
    cases e with
    | badName n =>
      show _ <+: ("invalid javascript function: invalid function name " ++ Text.quote n).toList
      rw [String.toList_append]
      exact List.IsPrefix.trans (by decide) (List.prefix_append _ _)
    | badParameter p =>
      show _ <+: ("invalid javascript function: invalid parameter " ++ Text.quote p).toList
      rw [String.toList_append]
      exact List.IsPrefix.trans (by decide) (List.prefix_append _ _)
    | _ => decide
  exact Finding.not_isNotSupported_of_prefix hp (by decide) (by decide)

end Messages

section Checks

theorem checkScript_sited {field source : String} {f : Finding}
    (h : f ∈ checkScript field source) : Finding.Sited field f := by
  unfold checkScript at h
  split at h
  · exact Finding.sited_of_mem_singleton not_isNotSupported_blank h
  · split at h
    · simp at h
    · exact Finding.sited_of_mem_singleton (Script.not_isNotSupported_message _) h

theorem blank_sited (field : String) {f : Finding} (h : f ∈ [⟨field, Finding.blank⟩]) :
    Finding.Sited field f := by
  exact Finding.sited_of_mem_singleton not_isNotSupported_blank h

theorem nested_of_mem_indexed {field message : String} {cs : List (Option (List Finding))}
    {g : Finding}
    (h : g ∈ cs.zipIdx.flatMap fun (c, i) => match c with
      | none => [⟨indexPath field i, message⟩]
      | some fs => qualify (indexPath field i) fs) : Nested g.field := by
  obtain ⟨⟨c, i⟩, -, hg⟩ := List.mem_flatMap.mp h
  cases c with
  | none =>
    simp only [List.mem_singleton] at hg
    subst hg
    exact nested_indexPath field i
  | some fs => exact nested_of_mem_qualify_index hg

theorem Bound.field_ne_empty_of_mem_validate (b : Bound) : ∀ f ∈ b.validate, f.field ≠ "" := by
  unfold Bound.validate
  split
  · intro f hf
    simp only [List.mem_append] at hf
    rcases hf with hf | hf <;> split at hf <;> simp_all
  · split
    · intro f hf
      simp only [List.mem_append] at hf
      rcases hf with (hf | hf) | hf <;> split at hf <;> simp_all
    · simp

theorem blank_or_mem_of_checkOneOf_eq_nil {field value : String} {allowed : List String}
    (h : checkOneOf field value allowed = []) : value = "" ∨ value ∈ allowed := by
  unfold checkOneOf at h
  split at h
  next hpass => simpa using hpass
  next => simp at h

theorem mem_of_blank_or_oneOf_eq_nil {field value : String} {allowed : List String}
    (h : (if value.isEmpty then [⟨field, Finding.blank⟩] else checkOneOf field value allowed) = []) :
    value ∈ allowed := by
  split at h
  next => simp at h
  next hblank =>
    exact (blank_or_mem_of_checkOneOf_eq_nil h).resolve_left (by simpa using hblank)

end Checks

namespace Filter

theorem validate_eq (f : Filter) :
    f.validate = (rules (childFindings f.field) (listFindings f.fields)).validate f := by
  cases f
  rw [validate]

theorem rules_shapes (cf : Option (List Finding)) (lf : List (Option (List Finding))) :
    (rules cf lf).rules.map (fun ρ => (ρ.field, ρ.types)) =
      table.rules.map (fun ρ => (ρ.field, ρ.types)) := rfl

theorem rules_fields (cf : Option (List Finding)) (lf : List (Option (List Finding))) :
    (rules cf lf).fields = table.fields := rfl

theorem rules_sited {cf : Option (List Finding)} {lf : List (Option (List Finding))}
    (hchild : ∀ fs, cf = some fs → ∀ g ∈ fs, g.field ≠ "") (f : Filter) :
    ∀ σ ∈ (rules cf lf).rules, ∀ g ∈ σ.check f, Finding.Sited σ.field g := by
  simp only [rules, List.mem_cons, List.not_mem_nil, or_false]
  rintro σ (rfl | rfl | rfl | rfl | rfl | rfl | rfl | rfl) g hg <;> dsimp only at hg ⊢
  · -- type
    split at hg
    · simp at hg
    · exact Finding.sited_of_mem_singleton (not_isNotSupported_quote_append _ _) hg
  · exact checkNotBlank_sited hg
  · simp at hg
  · exact checkNotBlank_sited hg
  · exact checkScript_sited hg
  · split at hg
    · exact blank_sited _ hg
    · exact .inr (nested_of_mem_qualify (by decide) (Bound.field_ne_empty_of_mem_validate _) hg)
  · split at hg
    · exact blank_sited _ hg
    · exact .inr (nested_of_mem_qualify (by decide) (hchild _ rfl) hg)
  · split at hg
    · exact Finding.sited_of_mem_singleton (by simp [Finding.IsNotSupported]) hg
    · exact .inr (nested_of_mem_indexed hg)

theorem rules_present_iff (cf : Option (List Finding)) (lf : List (Option (List Finding)))
    (f : Filter) : ∀ ρ ∈ (rules cf lf).rules, ρ.types ≠ [] →
      (ρ.present f = true ↔ ρ.field ∈ f.toJson.keys) := by
  obtain ⟨type, dimension, value, pattern, function, bound, field, fields, _⟩ := f
  simp only [rules, List.mem_cons, List.not_mem_nil, or_false]
  rintro ρ (rfl | rfl | rfl | rfl | rfl | rfl | rfl | rfl) hty <;>
    simp_all [toJson, Json.mem_keys_record]
  -- the value is present exactly when it is not null, which is when its JSON is written
  cases value <;> rfl

theorem childFindings_forall {Q : Finding → Prop} {c : Option Filter}
    (h : ∀ g ∈ c, ∀ x ∈ g.validate, Q x) : ∀ fs, childFindings c = some fs → ∀ x ∈ fs, Q x := by
  cases c with
  | none => simp [childFindings]
  | some g =>
    simp only [childFindings, Option.some.injEq, forall_eq']
    exact h g rfl

theorem field_ne_empty_of_mem_validate (f : Filter) : ∀ g ∈ f.validate, g.field ≠ "" := by
  induction f using branching.induction with
  | node f hfield _ =>
    intro g hg
    rw [validate_eq] at hg
    refine RuleTable.field_ne_empty_of_mem_validate ?_ (fun σ hσ _ => ?_) hg
    · rw [rules_fields]
      decide
    · exact rules_sited (childFindings_forall hfield) _ σ hσ

theorem childFindings_field_ne_empty (c : Option Filter) :
    ∀ fs, childFindings c = some fs → ∀ g ∈ fs, g.field ≠ "" :=
  childFindings_forall fun f _ => field_ne_empty_of_mem_validate f

theorem notSupported_mem_validate_iff (f : Filter) {F : String} (hF : F ∈ table.fields) :
    ⟨F, Finding.notSupported f.type⟩ ∈ f.validate ↔
      F ∈ f.toJson.keys ∧ table.applicable F f.type = false := by
  rw [validate_eq]
  exact RuleTable.notSupported_mem_validate_iff_carried _ (rules_shapes _ _) (by decide)
    (by decide) (fun σ hσ _ => rules_sited (childFindings_field_ne_empty _) f σ hσ)
    (fun ρ hρ hfield hty => hfield ▸ rules_present_iff _ _ f ρ hρ hty) hF

theorem type_mem_knownTypes_of_validate_eq_nil {f : Filter} (h : f.validate = []) :
    f.type ∈ knownTypes := by
  rw [validate_eq] at h
  have htype := RuleTable.check_eq_nil_of_validate_eq_nil h List.mem_cons_self rfl
  dsimp only at htype
  split at htype
  next hknown => simpa using hknown
  next => simp at htype

end Filter

namespace Having

theorem validate_eq (h : Having) :
    h.validate = (rules (childFindings h.havingSpec) (listFindings h.havingSpecs)).validate h := by
  cases h
  rw [validate]

theorem rules_shapes (cf : Option (List Finding)) (lf : List (Option (List Finding))) :
    (rules cf lf).rules.map (fun ρ => (ρ.field, ρ.types)) =
      table.rules.map (fun ρ => (ρ.field, ρ.types)) := rfl

theorem rules_fields (cf : Option (List Finding)) (lf : List (Option (List Finding))) :
    (rules cf lf).fields = table.fields := rfl

theorem rules_sited {cf : Option (List Finding)} {lf : List (Option (List Finding))}
    (hchild : ∀ fs, cf = some fs → ∀ g ∈ fs, g.field ≠ "") (h : Having) :
    ∀ σ ∈ (rules cf lf).rules, ∀ g ∈ σ.check h, Finding.Sited σ.field g := by
  simp only [rules, List.mem_cons, List.not_mem_nil, or_false]
  rintro σ (rfl | rfl | rfl | rfl | rfl) g hg <;> dsimp only at hg ⊢
  · exact checkOneOf_sited hg
  · exact checkNotBlank_sited hg
  · split at hg
    · exact Finding.sited_of_mem_singleton not_isNotSupported_required hg
    · simp at hg
  · split at hg
    · exact blank_sited _ hg
    · exact .inr (nested_of_mem_qualify (by decide) (hchild _ rfl) hg)
  · split at hg
    · exact Finding.sited_of_mem_singleton (by simp [Finding.IsNotSupported]) hg
    · exact .inr (nested_of_mem_indexed hg)

theorem rules_present_iff (cf : Option (List Finding)) (lf : List (Option (List Finding)))
    (h : Having) : ∀ ρ ∈ (rules cf lf).rules, ρ.types ≠ [] →
      (ρ.present h = true ↔ ρ.field ∈ h.toJson.keys) := by
  obtain ⟨type, aggregation, value, spec, specs, _⟩ := h
  simp only [rules, List.mem_cons, List.not_mem_nil, or_false]
  rintro ρ (rfl | rfl | rfl | rfl | rfl) hty <;>
    simp_all [toJson, Json.mem_keys_record]
  cases value <;> rfl

theorem childFindings_forall {Q : Finding → Prop} {c : Option Having}
    (h : ∀ g ∈ c, ∀ x ∈ g.validate, Q x) : ∀ fs, childFindings c = some fs → ∀ x ∈ fs, Q x := by
  cases c with
  | none => simp [childFindings]
  | some g =>
    simp only [childFindings, Option.some.injEq, forall_eq']
    exact h g rfl

theorem field_ne_empty_of_mem_validate (h : Having) : ∀ g ∈ h.validate, g.field ≠ "" := by
  induction h using branching.induction with
  | node h hspec _ =>
    intro g hg
    rw [validate_eq] at hg
    refine RuleTable.field_ne_empty_of_mem_validate ?_ (fun σ hσ _ => ?_) hg
    · rw [rules_fields]
      decide
    · exact rules_sited (childFindings_forall hspec) _ σ hσ

theorem childFindings_field_ne_empty (c : Option Having) :
    ∀ fs, childFindings c = some fs → ∀ g ∈ fs, g.field ≠ "" :=
  childFindings_forall fun h _ => field_ne_empty_of_mem_validate h

theorem notSupported_mem_validate_iff (h : Having) {F : String} (hF : F ∈ table.fields) :
    ⟨F, Finding.notSupported h.type⟩ ∈ h.validate ↔
      F ∈ h.toJson.keys ∧ table.applicable F h.type = false := by
  rw [validate_eq]
  exact RuleTable.notSupported_mem_validate_iff_carried _ (rules_shapes _ _) (by decide)
    (by decide) (fun σ hσ _ => rules_sited (childFindings_field_ne_empty _) h σ hσ)
    (fun ρ hρ hfield hty => hfield ▸ rules_present_iff _ _ h ρ hρ hty) hF

theorem type_blank_or_known_of_validate_eq_nil {h : Having} (hv : h.validate = []) :
    h.type = "" ∨ h.type ∈ knownTypes := by
  rw [validate_eq] at hv
  exact blank_or_mem_of_checkOneOf_eq_nil
    (RuleTable.check_eq_nil_of_validate_eq_nil hv List.mem_cons_self rfl)

end Having

namespace PostAggregation

theorem validate_eq (p : PostAggregation) :
    p.validate = (rules (childFindings p.field) (listFindings p.fields)).validate p := by
  cases p
  rw [validate]

theorem rules_shapes (cf : Option (List Finding)) (lf : List (Option (List Finding))) :
    (rules cf lf).rules.map (fun ρ => (ρ.field, ρ.types)) =
      table.rules.map (fun ρ => (ρ.field, ρ.types)) := rfl

theorem rules_fields (cf : Option (List Finding)) (lf : List (Option (List Finding))) :
    (rules cf lf).fields = table.fields := rfl

theorem checkProbability_sited {field : String} {x : Float} {f : Finding}
    (h : f ∈ checkProbability field x) : Finding.Sited field f := by
  unfold checkProbability at h
  split at h
  · exact Finding.sited_of_mem_singleton (by simp [Finding.IsNotSupported]) h
  · simp at h

theorem rules_sited {cf : Option (List Finding)} {lf : List (Option (List Finding))}
    (hchild : ∀ fs, cf = some fs → ∀ g ∈ fs, g.field ≠ "") (p : PostAggregation) :
    ∀ σ ∈ (rules cf lf).rules, ∀ g ∈ σ.check p, Finding.Sited σ.field g := by
  simp only [rules, List.mem_cons, List.not_mem_nil, or_false]
  rintro σ (rfl | rfl | rfl | rfl | rfl | rfl | rfl | rfl | rfl | rfl | rfl | rfl | rfl | rfl |
    rfl) g hg <;> dsimp only at hg ⊢
  · -- type
    split at hg
    · exact blank_sited _ hg
    · exact checkOneOf_sited hg
  · rcases List.mem_append.mp hg with hg | hg
    · exact checkNotBlank_sited hg
    · exact checkOneOf_sited hg
  · rcases List.mem_append.mp hg with hg | hg
    · exact checkNotBlank_sited hg
    · exact checkOneOf_sited hg
  · exact checkNotBlank_sited hg
  · split at hg
    · exact Finding.sited_of_mem_singleton (by simp [Finding.IsNotSupported]) hg
    · simp at hg
  · split at hg
    · simp at hg
    · exact Finding.sited_of_mem_singleton (Script.not_isNotSupported_message _) hg
  · split at hg
    · exact Finding.sited_of_mem_singleton not_isNotSupported_required hg
    · simp at hg
  · -- fields: a count of operands at the field, the operands below it
    rcases List.mem_append.mp hg with hg | hg
    · split at hg
      · exact Finding.sited_of_mem_singleton (by simp [Finding.IsNotSupported]) hg
      · split at hg
        · exact Finding.sited_of_mem_singleton (by simp [Finding.IsNotSupported]) hg
        · simp at hg
    · exact .inr (nested_of_mem_indexed hg)
  · -- field: the kind of the child at the field, the child's findings below it
    split at hg
    · rcases List.mem_append.mp hg with hg | hg
      · split at hg
        · exact Finding.sited_of_mem_singleton (by simp [Finding.IsNotSupported]) hg
        · simp at hg
      · exact .inr (nested_of_mem_qualify (by decide) (hchild _ rfl) hg)
    · exact blank_sited _ hg
  · split at hg
    · exact Finding.sited_of_mem_singleton (by simp [Finding.IsNotSupported]) hg
    · simp at hg
  · split at hg
    · exact Finding.sited_of_mem_singleton (by simp [Finding.IsNotSupported]) hg
    · simp at hg
  · simp at hg
  · split at hg
    · exact Finding.sited_of_mem_singleton (by simp [Finding.IsNotSupported]) hg
    · simp at hg
  · split at hg
    · exact Finding.sited_of_mem_singleton not_isNotSupported_required hg
    · exact checkProbability_sited hg
  · -- probabilities: emptiness at the field, each probability below it
    rcases List.mem_append.mp hg with hg | hg
    · split at hg
      · exact Finding.sited_of_mem_singleton (by simp [Finding.IsNotSupported]) hg
      · simp at hg
    · obtain ⟨⟨x, i⟩, -, hg⟩ := List.mem_flatMap.mp hg
      unfold checkProbability at hg
      split at hg
      · simp only [List.mem_singleton] at hg
        subst hg
        exact .inr (nested_indexPath _ _)
      · simp at hg

theorem rules_present_iff (cf : Option (List Finding)) (lf : List (Option (List Finding)))
    (p : PostAggregation) : ∀ ρ ∈ (rules cf lf).rules, ρ.types ≠ [] →
      (ρ.present p = true ↔ ρ.field ∈ p.toJson.keys) := by
  obtain ⟨type, name, fn, func, fieldName, fieldNames, function, value, fields, field, numBuckets,
    bucketSize, offset, breaks, probability, probabilities, _, _, _, _⟩ := p
  simp only [rules, List.mem_cons, List.not_mem_nil, or_false]
  rintro ρ (rfl | rfl | rfl | rfl | rfl | rfl | rfl | rfl | rfl | rfl | rfl | rfl | rfl | rfl |
    rfl) hty <;> simp_all [toJson, floatsJson?, Json.mem_keys_record]
  cases value <;> rfl

theorem childFindings_forall {Q : Finding → Prop} {c : Option PostAggregation}
    (h : ∀ g ∈ c, ∀ x ∈ g.validate, Q x) : ∀ fs, childFindings c = some fs → ∀ x ∈ fs, Q x := by
  cases c with
  | none => simp [childFindings]
  | some g =>
    simp only [childFindings, Option.some.injEq, forall_eq']
    exact h g rfl

theorem field_ne_empty_of_mem_validate (p : PostAggregation) : ∀ g ∈ p.validate, g.field ≠ "" := by
  induction p using branching.induction with
  | node p hfield _ =>
    intro g hg
    rw [validate_eq] at hg
    refine RuleTable.field_ne_empty_of_mem_validate ?_ (fun σ hσ _ => ?_) hg
    · rw [rules_fields]
      decide
    · exact rules_sited (childFindings_forall hfield) _ σ hσ

theorem childFindings_field_ne_empty (c : Option PostAggregation) :
    ∀ fs, childFindings c = some fs → ∀ g ∈ fs, g.field ≠ "" :=
  childFindings_forall fun p _ => field_ne_empty_of_mem_validate p

theorem notSupported_mem_validate_iff (p : PostAggregation) {F : String}
    (hF : F ∈ table.fields) :
    ⟨F, Finding.notSupported p.type⟩ ∈ p.validate ↔
      F ∈ p.toJson.keys ∧ table.applicable F p.type = false := by
  rw [validate_eq]
  exact RuleTable.notSupported_mem_validate_iff_carried _ (rules_shapes _ _) (by decide)
    (by decide) (fun σ hσ _ => rules_sited (childFindings_field_ne_empty _) p σ hσ)
    (fun ρ hρ hfield hty => hfield ▸ rules_present_iff _ _ p ρ hρ hty) hF

theorem type_mem_knownTypes_of_validate_eq_nil {p : PostAggregation} (h : p.validate = []) :
    p.type ∈ knownTypes := by
  rw [validate_eq] at h
  exact mem_of_blank_or_oneOf_eq_nil
    (RuleTable.check_eq_nil_of_validate_eq_nil h List.mem_cons_self rfl)

end PostAggregation

namespace Aggregation

theorem validate_eq (a : Aggregation) :
    a.validate = (rules (a.aggregator.map validate)).validate a := by
  obtain ⟨_, _, _, _, _, _, _, _, _, _ | inner, _⟩ := a <;> rw [validate] <;> rfl

theorem rules_shapes (inner : Option (List Finding)) :
    (rules inner).rules.map (fun ρ => (ρ.field, ρ.types)) =
      table.rules.map (fun ρ => (ρ.field, ρ.types)) := rfl

theorem rules_fields (inner : Option (List Finding)) : (rules inner).fields = table.fields := rfl

theorem scriptRule_sited {field : String} {get : Aggregation → String} {a : Aggregation}
    {f : Finding} (h : f ∈ (scriptRule field get).check a) : Finding.Sited field f := by
  simp only [scriptRule] at h
  split at h
  · exact blank_sited _ h
  · split at h
    · simp at h
    · exact Finding.sited_of_mem_singleton (Script.not_isNotSupported_message _) h

theorem rules_sited {inner : Option (List Finding)}
    (hinner : ∀ fs, inner = some fs → ∀ g ∈ fs, g.field ≠ "") (a : Aggregation) :
    ∀ σ ∈ (rules inner).rules, ∀ g ∈ σ.check a, Finding.Sited σ.field g := by
  simp only [rules, List.mem_cons, List.not_mem_nil, or_false]
  rintro σ (rfl | rfl | rfl | rfl | rfl | rfl | rfl | rfl | rfl | rfl) g hg
  · dsimp only at hg ⊢
    split at hg
    · exact blank_sited _ hg
    · exact checkOneOf_sited hg
  · exact checkNotBlank_sited hg
  · exact checkNotBlank_sited hg
  · -- fieldNames: an empty list at the field, each blank name below it
    dsimp only at hg ⊢
    split at hg
    · exact Finding.sited_of_mem_singleton (by simp [Finding.IsNotSupported]) hg
    · obtain ⟨⟨n, i⟩, -, hg⟩ := List.mem_filterMap.mp hg
      split at hg
      · cases hg
        exact .inr (nested_indexPath _ _)
      · cases hg
  · exact scriptRule_sited hg
  · exact scriptRule_sited hg
  · exact scriptRule_sited hg
  · simp at hg
  · dsimp only at hg ⊢
    split at hg
    · exact blank_sited _ hg
    · exact .inr (nested_of_mem_qualify (by decide) (Filter.field_ne_empty_of_mem_validate _) hg)
  · dsimp only at hg ⊢
    split at hg
    · exact blank_sited _ hg
    · exact .inr (nested_of_mem_qualify (by decide) (hinner _ rfl) hg)

theorem field_ne_empty_of_mem_validate : (a : Aggregation) → ∀ g ∈ a.validate, g.field ≠ ""
  | ⟨_, _, _, _, _, _, _, _, _, aggregator, _⟩ => by
    intro g hg
    rw [validate_eq] at hg
    refine RuleTable.field_ne_empty_of_mem_validate ?_ (fun σ hσ _ => rules_sited ?_ _ σ hσ) hg
    · rw [rules_fields]
      decide
    · -- the inner aggregator's findings, by recursion on it
      cases aggregator with
      | none => simp
      | some inner =>
        simp only [Option.map_some, Option.some.injEq, forall_eq']
        exact field_ne_empty_of_mem_validate inner

theorem rules_present_iff (inner : Option (List Finding)) (a : Aggregation) :
    ∀ ρ ∈ (rules inner).rules, ρ.types ≠ [] →
      (ρ.present a = true ↔ ρ.field ∈ (a.toJson.keys ++
        if a.fieldNames = some [] then ["fieldNames"] else []).filter (· ≠ "name")) := by
  obtain ⟨type, name, fieldName, fieldNames, fnAggregate, fnCombine, fnReset, byRow, filter,
    aggregator, _⟩ := a
  simp only [rules, scriptRule, List.mem_cons, List.not_mem_nil, or_false]
  rintro ρ (rfl | rfl | rfl | rfl | rfl | rfl | rfl | rfl | rfl | rfl) hty <;>
    cases fieldNames <;> cases aggregator <;>
    simp_all [toJson, Json.mem_keys_record, em']

theorem notSupported_mem_validate_iff (a : Aggregation) {F : String} (hF : F ∈ table.fields) :
    ⟨F, Finding.notSupported a.type⟩ ∈ a.validate ↔
      F ∈ (a.toJson.keys ++ if a.fieldNames = some [] then ["fieldNames"] else []).filter
        (· ≠ "name") ∧ table.applicable F a.type = false := by
  rw [validate_eq]
  refine RuleTable.notSupported_mem_validate_iff_carried _ (rules_shapes _) (by decide)
    (by decide) (fun σ hσ _ => rules_sited ?_ a σ hσ)
    (fun ρ hρ hfield hty => hfield ▸ rules_present_iff _ a ρ hρ hty) hF
  intro fs hfs
  obtain ⟨inner, -, rfl⟩ := Option.map_eq_some_iff.mp hfs
  exact field_ne_empty_of_mem_validate inner

theorem type_mem_knownTypes_of_validate_eq_nil {a : Aggregation} (h : a.validate = []) :
    a.type ∈ knownTypes := by
  rw [validate_eq] at h
  exact mem_of_blank_or_oneOf_eq_nil
    (RuleTable.check_eq_nil_of_validate_eq_nil h List.mem_cons_self rfl)

end Aggregation

namespace Query

theorem granularity_sited (g : Granularity) :
    ∀ f ∈ qualify "granularity" g.validate, Finding.Sited "granularity" f := by
  intro f hf
  obtain ⟨e, he, rfl⟩ := mem_qualify.mp hf
  -- only an unknown simple name is reported at the granularity itself
  by_cases hempty : e.field = ""
  · left
    refine ⟨by simp [joinPath, hempty], ?_⟩
    unfold Granularity.validate at he
    split at he
    · split at he
      · simp at he
      · simp only [List.mem_singleton] at he
        subst he
        simp [Finding.IsNotSupported, String.toList_append]
    · split at he
      · simp [checkNotBlank] at he
        simp_all
      · split at he
        · split at he <;> simp_all
        · split at he <;> simp_all
  · exact .inr (nested_joinPath (by decide) hempty)

theorem checkIntervals_sited {intervals : List String} {f : Finding}
    (h : f ∈ checkIntervals intervals) : Finding.Sited "intervals" f := by
  unfold checkIntervals at h
  split at h
  · exact Finding.sited_of_mem_singleton (by simp [Finding.IsNotSupported]) h
  · obtain ⟨⟨s, i⟩, -, hs⟩ := List.mem_filterMap.mp h
    cases hparse : parseInterval s with
    | ok _ => simp [hparse] at hs
    | error e =>
      simp only [hparse, Option.some.injEq] at hs
      subst hs
      exact .inr (nested_indexPath _ _)

theorem checkPostAggregations_nested {ps : List (Option PostAggregation)} {f : Finding}
    (h : f ∈ checkPostAggregations ps) : Nested f.field := by
  obtain ⟨⟨p, i⟩, -, hp⟩ := List.mem_flatMap.mp h
  cases p with
  | none =>
    simp only [List.mem_singleton] at hp
    subst hp
    exact nested_indexPath _ _
  | some p =>
    rcases List.mem_append.mp hp with hp | hp
    · split at hp
      · simp only [List.mem_singleton] at hp
        subst hp
        exact nested_joinPath_of_nested _ (nested_indexPath _ _)
      · simp at hp
    · exact nested_of_mem_qualify_index hp

theorem LimitSpec.field_ne_empty_of_mem_validate (l : LimitSpec) :
    ∀ f ∈ l.validate, f.field ≠ "" := by
  intro f hf
  unfold LimitSpec.validate at hf
  simp only [List.mem_append, List.mem_flatMap] at hf
  rcases hf with (hf | hf) | ⟨⟨c, i⟩, -, hf⟩
  · split at hf <;> simp_all
  · split at hf <;> simp_all
  · -- a column reports below its index
    refine ne_empty_of_nested ?_
    cases c with
    | none =>
      simp only [List.mem_singleton] at hf
      subst hf
      exact nested_indexPath _ _
    | some c =>
      simp only [List.mem_append] at hf
      rcases hf with hf | hf
      · unfold checkNotBlank at hf
        split at hf
        · simp only [List.mem_singleton] at hf
          subst hf
          exact nested_append_left _ (nested_indexPath _ _)
        · simp at hf
      · split at hf
        · simp at hf
        · simp only [List.mem_singleton] at hf
          subst hf
          exact nested_append_left _ (nested_indexPath _ _)

theorem table_sited (q : Query) :
    ∀ σ ∈ table.rules, ∀ g ∈ σ.check q, Finding.Sited σ.field g := by
  simp only [table, List.mem_cons, List.not_mem_nil, or_false]
  rintro σ (rfl | rfl | rfl | rfl | rfl | rfl | rfl | rfl | rfl | rfl | rfl | rfl | rfl | rfl |
    rfl | rfl | rfl | rfl | rfl | rfl | rfl | rfl | rfl) g hg <;> dsimp only at hg ⊢
  · split at hg
    · exact blank_sited _ hg
    · exact checkOneOf_sited hg
  · exact checkNotBlank_sited hg
  · exact checkIntervals_sited hg
  · split at hg
    · exact blank_sited _ hg
    · exact granularity_sited _ g hg
  · -- dimensions: an empty list at the field, each dimension below its index
    split at hg
    · exact Finding.sited_of_mem_singleton (by simp [Finding.IsNotSupported]) hg
    · obtain ⟨⟨d, i⟩, -, hd⟩ := List.mem_flatMap.mp hg
      cases d with
      | none =>
        simp only [List.mem_singleton] at hd
        subst hd
        exact .inr (nested_indexPath _ _)
      | some d => exact .inr (nested_of_mem_qualify_index hd)
  · split at hg
    · exact Finding.sited_of_mem_singleton (by simp [Finding.IsNotSupported]) hg
    · obtain ⟨⟨a, i⟩, -, ha⟩ := List.mem_flatMap.mp hg
      cases a with
      | none => simp at ha
      | some a => exact .inr (nested_of_mem_qualify_index ha)
  · exact .inr (checkPostAggregations_nested hg)
  · split at hg
    · simp at hg
    · exact .inr (nested_of_mem_qualify (by decide) (Filter.field_ne_empty_of_mem_validate _) hg)
  · split at hg
    · simp at hg
    · exact .inr (nested_of_mem_qualify (by decide) (Having.field_ne_empty_of_mem_validate _) hg)
  · split at hg
    · simp at hg
    · exact .inr (nested_of_mem_qualify (by decide) (LimitSpec.field_ne_empty_of_mem_validate _) hg)
  · split at hg
    · exact Finding.sited_of_mem_singleton (by simp [Finding.IsNotSupported]) hg
    · simp at hg
  · simp at hg
  · split at hg
    · exact blank_sited _ hg
    · split at hg
      · simp at hg
      · simp only [List.mem_singleton] at hg
        subst hg
        exact .inr (by decide)
  · simp at hg
  · exact checkOneOf_sited hg
  · simp at hg
  · simp at hg
  · simp at hg
  · split at hg
    · exact blank_sited _ hg
    · split at hg
      · simp only [List.mem_singleton] at hg
        subst hg
        exact .inr (by decide)
      · simp at hg
  · exact checkNotBlank_sited hg
  · exact checkNotBlank_sited hg
  · split at hg
    · exact Finding.sited_of_mem_singleton (by simp [Finding.IsNotSupported]) hg
    · simp at hg
  · split at hg
    · simp at hg
    · refine .inr (nested_of_mem_qualify (by decide) ?_ hg)
      intro e he
      unfold Context.validate at he
      split at he
      · split at he <;> simp_all
      · simp at he

theorem table_present_iff (q : Query) : ∀ ρ ∈ table.rules, ρ.types ≠ [] →
    (ρ.present q = true ↔ ρ.field ∈ q.toJson.keys) := by
  simp only [table, List.mem_cons, List.not_mem_nil, or_false]
  rintro ρ (rfl | rfl | rfl | rfl | rfl | rfl | rfl | rfl | rfl | rfl | rfl | rfl | rfl | rfl |
    rfl | rfl | rfl | rfl | rfl | rfl | rfl | rfl | rfl) hty <;>
    simp_all [toJson, Json.mem_keys_record]

theorem notSupported_mem_validate_iff (q : Query) {F : String} (hF : F ∈ table.fields) :
    ⟨F, Finding.notSupported q.queryType⟩ ∈ q.validate ↔
      F ∈ q.toJson.keys ∧ table.applicable F q.queryType = false :=
  RuleTable.notSupported_mem_validate_iff_carried _ rfl (by decide) (by decide)
    (fun σ hσ _ => table_sited q σ hσ)
    (fun ρ hρ hfield hty => hfield ▸ table_present_iff q ρ hρ hty) hF

theorem queryType_mem_knownTypes_of_validate_eq_nil {q : Query} (h : q.validate = []) :
    q.queryType ∈ knownTypes :=
  mem_of_blank_or_oneOf_eq_nil (RuleTable.check_eq_nil_of_validate_eq_nil h List.mem_cons_self rfl)

end Query

theorem Aggregation.mem_carried_iff (a : Aggregation) (F : String) :
    F ∈ (a.toJson.keys ++ if a.fieldNames = some [] then ["fieldNames"] else []).filter
        (· ≠ "name") ↔
      F ≠ "name" ∧ (F ∈ a.toJson.keys ∨ (F = "fieldNames" ∧ a.fieldNames = some [])) := by
  by_cases hname : F = "name"
  · subst hname
    simp
  · by_cases hempty : a.fieldNames = some [] <;> simp [hempty, hname]

/-- A not-supported finding at a governed field says that the record carries the field and that
its type does not allow it. A filter, having spec, post-aggregation or query carries a field when
its JSON writes the field's key. An aggregation is never reported for its `name`, and carries its
list of field names when the list is given, even empty. -/
theorem unsupported_finding_iff_carried_and_disallowed (f : Filter) (h : Having)
    (p : PostAggregation) (q : Query) (a : Aggregation) (F : String) :
    (F ∈ Filter.table.fields →
      (⟨F, Finding.notSupported f.type⟩ ∈ f.validate ↔
        F ∈ f.toJson.keys ∧ Filter.table.applicable F f.type = false)) ∧
    (F ∈ Having.table.fields →
      (⟨F, Finding.notSupported h.type⟩ ∈ h.validate ↔
        F ∈ h.toJson.keys ∧ Having.table.applicable F h.type = false)) ∧
    (F ∈ PostAggregation.table.fields →
      (⟨F, Finding.notSupported p.type⟩ ∈ p.validate ↔
        F ∈ p.toJson.keys ∧ PostAggregation.table.applicable F p.type = false)) ∧
    (F ∈ Query.table.fields →
      (⟨F, Finding.notSupported q.queryType⟩ ∈ q.validate ↔
        F ∈ q.toJson.keys ∧ Query.table.applicable F q.queryType = false)) ∧
    (F ∈ Aggregation.table.fields →
      (⟨F, Finding.notSupported a.type⟩ ∈ a.validate ↔
        F ≠ "name" ∧ (F ∈ a.toJson.keys ∨ (F = "fieldNames" ∧ a.fieldNames = some [])) ∧
        Aggregation.table.applicable F a.type = false)) := by
  refine ⟨fun hF => Filter.notSupported_mem_validate_iff f hF,
    fun hF => Having.notSupported_mem_validate_iff h hF,
    fun hF => PostAggregation.notSupported_mem_validate_iff p hF,
    fun hF => Query.notSupported_mem_validate_iff q hF, fun hF => ?_⟩
  rw [Aggregation.notSupported_mem_validate_iff a hF, Aggregation.mem_carried_iff, and_assoc]

theorem pattern_on_selector_reported :
    "pattern" ∈ Filter.table.fields ∧
      (⟨"pattern", Finding.notSupported "selector"⟩ ∈
          ({ type := "selector", dimension := "d", pattern := "p" } : Filter).validate ↔
        "pattern" ∈ ({ type := "selector", dimension := "d", pattern := "p" } : Filter).toJson.keys ∧
          Filter.table.applicable "pattern" "selector" = false) :=
  ⟨by decide, (unsupported_finding_iff_carried_and_disallowed
    { type := "selector", dimension := "d", pattern := "p" } default default default default
    "pattern").1 (by decide)⟩

/-- A count aggregation given an empty list of field names writes no `fieldNames` key, and is
still reported for the field. -/
theorem empty_field_names_reported :
    "fieldNames" ∉
        ({ type := "count", name := "n", fieldName := "c", fieldNames := some [] } :
          Aggregation).toJson.keys ∧
      ⟨"fieldNames", Finding.notSupported "count"⟩ ∈
        ({ type := "count", name := "n", fieldName := "c", fieldNames := some [] } :
          Aggregation).validate := by
  decide

/-- A filter, post-aggregation, aggregation or query with no finding has a known type, and so has
a having spec with no finding unless its type is blank. -/
theorem clean_records_have_known_types (f : Filter) (p : PostAggregation) (a : Aggregation)
    (q : Query) (h : Having) :
    (f.validate = [] → f.type ∈ Filter.knownTypes) ∧
    (p.validate = [] → p.type ∈ PostAggregation.knownTypes) ∧
    (a.validate = [] → a.type ∈ Aggregation.knownTypes) ∧
    (q.validate = [] → q.queryType ∈ Query.knownTypes) ∧
    (h.validate = [] → h.type ≠ "" → h.type ∈ Having.knownTypes) :=
  ⟨Filter.type_mem_knownTypes_of_validate_eq_nil,
    PostAggregation.type_mem_knownTypes_of_validate_eq_nil,
    Aggregation.type_mem_knownTypes_of_validate_eq_nil,
    Query.queryType_mem_knownTypes_of_validate_eq_nil,
    fun hv hne => (Having.type_blank_or_known_of_validate_eq_nil hv).resolve_left hne⟩

theorem clean_selector_has_known_type :
    (Filter.selector "d" (.int 1)).validate = [] ∧
      (Filter.selector "d" (.int 1)).type ∈ Filter.knownTypes :=
  ⟨by decide, (clean_records_have_known_types _ default default default default).1 (by decide)⟩

/-- A having spec with a blank type and nothing else has no finding. -/
theorem blank_having_type_passes :
    ({ type := "" } : Having).validate = [] ∧ ({ type := "" } : Having).type ∉ Having.knownTypes :=
  ⟨by decide, by decide⟩

end DruidQuery
