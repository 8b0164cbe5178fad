import DruidQuery.Proofs.TableReports
/-!
A query with no finding has every node present but possibly some of its top-level aggregations:
those are validated one by one, and an absent one is skipped.
-/

namespace DruidQuery

section Children

theorem indexed_eq_nil_iff {field message : String} (cs : List (Option (List Finding))) (n : Nat) :
    ((cs.zipIdx n).flatMap fun (c, i) => match c with
      | none => [⟨indexPath field i, message⟩]
      | some fs => qualify (indexPath field i) fs) = [] ↔ ∀ c ∈ cs, c = some [] := by
  induction cs generalizing n with
  | nil => simp
  | cons c cs ih =>
    rw [List.zipIdx_cons, List.flatMap_cons, List.append_eq_nil_iff, ih]
    cases c <;> simp [qualify]

theorem exists_findings_eq_nil_of_mem {α : Type} {l : List α} {n : Nat} {g : α × Nat → List Finding}
    (h : (l.zipIdx n).flatMap g = []) {x : α} (hx : x ∈ l) : ∃ i, g (x, i) = [] := by
  obtain ⟨⟨y, i⟩, hp, rfl⟩ := List.mem_map.mp (List.zipIdx_map_fst n l ▸ hx)
  exact ⟨i, List.flatMap_eq_nil_iff.mp h _ hp⟩

theorem children_present_of_forall_eq_some {α : Type} {P : α → Prop} {cs : List (Option α)}
    (h : ∀ c ∈ cs, ∃ y, c = some y ∧ P y) :
    cs.all Option.isSome = true ∧ ∀ c ∈ cs, ∀ y ∈ c, P y := by
  refine ⟨List.all_eq_true.mpr fun c hc => ?_, fun c hc y hy => ?_⟩
  · obtain ⟨y, rfl, -⟩ := h c hc
    rfl
  · obtain ⟨y', rfl, hy'⟩ := h c hc
    rwa [← Option.some.inj hy]

end Children

namespace Filter

def completeNode (f : Filter) : Bool :=
  (f.type != "not" || f.field.isSome) && f.fields.all Option.isSome

def complete : Filter → Bool := branching.every completeNode

theorem listFindings_eq_map (cs : List (Option Filter)) : listFindings cs = cs.map childFindings := by
  induction cs with
  | nil => rfl
  | cons c cs ih => simp [listFindings, ih]

theorem childFindings_eq_some_nil {c : Option Filter} :
    childFindings c = some [] ↔ ∃ y, c = some y ∧ y.validate = [] := by
  cases c <;> simp [childFindings]

theorem clean_children {f : Filter} (h : f.validate = []) :
    (f.type = "not" → f.field.isSome) ∧ (∀ y ∈ f.field, y.validate = []) ∧
    (f.type = "and" ∨ f.type = "or" → f.fields ≠ []) ∧
    (∀ c ∈ f.fields, ∃ y, c = some y ∧ y.validate = []) := by
  rw [validate_eq, RuleTable.validate_eq_nil_iff] at h
  simp only [rules, List.mem_cons, List.not_mem_nil, or_false, forall_eq_or_imp, forall_eq] at h
  obtain ⟨-, -, -, -, -, -, hfield, hfields⟩ := h
  simp only [Rule.appliesTo, List.isEmpty_cons, List.contains_eq_mem, List.mem_cons,
    List.not_mem_nil, or_false, Bool.false_or, decide_eq_true_eq, decide_eq_false_iff_not,
    Option.isSome_eq_false_iff, Option.isNone_iff_eq_none, Bool.decide_or, Bool.or_eq_true,
    List.isEmpty_iff, Bool.or_eq_false_iff, Bool.not_eq_eq_eq_not, Bool.not_false, and_imp]
    at hfield hfields
  obtain ⟨hnot, hother⟩ := hfield
  obtain ⟨hcomb, hsingle⟩ := hfields
  -- under a negation the child is checked; elsewhere it is absent
  have hchild : f.type = "not" → ∃ y, f.field = some y ∧ y.validate = [] := by
    intro hn
    have hcheck := hnot hn
    cases hc : f.field with
    | none => simp [hc, childFindings] at hcheck
    | some y => simpa [hc, childFindings, qualify] using hcheck
  -- under a combination the children are checked; elsewhere there are none
  have hlist : f.type = "and" ∨ f.type = "or" →
      f.fields ≠ [] ∧ ∀ c ∈ f.fields, ∃ y, c = some y ∧ y.validate = [] := by
    intro hc
    have hcheck := hcomb hc
    rw [listFindings_eq_map] at hcheck
    split at hcheck
    · simp at hcheck
    · rename_i hne
      refine ⟨fun hnil => hne (by simp [hnil]), fun c hc => ?_⟩
      have hall := (indexed_eq_nil_iff _ 0).mp hcheck
      exact childFindings_eq_some_nil.mp (hall _ (List.mem_map_of_mem hc))
  refine ⟨fun hn => ?_, fun y hy => ?_, fun hc => (hlist hc).1, fun c hc => ?_⟩
  · obtain ⟨y, hy, -⟩ := hchild hn
    simp [hy]
  · by_cases hn : f.type = "not"
    · obtain ⟨y', hy', hclean⟩ := hchild hn
      rw [Option.mem_def, hy', Option.some.injEq] at hy
      exact hy ▸ hclean
    · simp [hother hn] at hy
  · by_cases hc' : f.type = "and" ∨ f.type = "or"
    · exact (hlist hc').2 c hc
    · rw [not_or] at hc'
      simp [hsingle hc'.1 hc'.2] at hc

theorem complete_of_validate_eq_nil {f : Filter} (h : f.validate = []) : f.complete = true := by
  -- having no finding passes to the children, which are all present
  refine Branching.every_of_closed (P := fun f : Filter => f.validate = []) (fun f h => ?_) h
  obtain ⟨hnot, hfield, -, hfields⟩ := clean_children h
  obtain ⟨hpresent, hclean⟩ := children_present_of_forall_eq_some hfields
  refine ⟨?_, hfield, hclean⟩
  simp only [completeNode, Bool.and_eq_true, Bool.or_eq_true, bne_iff_ne, ne_eq]
  exact ⟨(em' _).imp_right hnot, hpresent⟩

end Filter

namespace Having

def completeNode (h : Having) : Bool :=
  (h.type != "not" || h.havingSpec.isSome) && h.havingSpecs.all Option.isSome

def complete : Having → Bool := branching.every completeNode

theorem listFindings_eq_map (cs : List (Option Having)) : listFindings cs = cs.map childFindings := by
  induction cs with
  | nil => rfl
  | cons c cs ih => simp [listFindings, ih]

theorem childFindings_eq_some_nil {c : Option Having} :
    childFindings c = some [] ↔ ∃ y, c = some y ∧ y.validate = [] := by
  cases c <;> simp [childFindings]

theorem clean_children {h : Having} (hv : h.validate = []) :
    (h.type = "not" → h.havingSpec.isSome) ∧ (∀ y ∈ h.havingSpec, y.validate = []) ∧
    (h.type = "and" ∨ h.type = "or" → h.havingSpecs ≠ []) ∧
    (∀ c ∈ h.havingSpecs, ∃ y, c = some y ∧ y.validate = []) := by
  rw [validate_eq, RuleTable.validate_eq_nil_iff] at hv
  simp only [rules, List.mem_cons, List.not_mem_nil, or_false, forall_eq_or_imp, forall_eq] at hv
  obtain ⟨-, -, -, hspec, hspecs⟩ := hv
  simp only [Rule.appliesTo, List.isEmpty_cons, List.contains_eq_mem, List.mem_cons,
    List.not_mem_nil, or_false, Bool.false_or, decide_eq_true_eq, decide_eq_false_iff_not,
    Option.isSome_eq_false_iff, Option.isNone_iff_eq_none, Bool.decide_or, Bool.or_eq_true,
    List.isEmpty_iff, Bool.or_eq_false_iff, Bool.not_eq_eq_eq_not, Bool.not_false, and_imp]
    at hspec hspecs
  obtain ⟨hnot, hother⟩ := hspec
  obtain ⟨hcomb, hsingle⟩ := hspecs
  -- under a negation the child is checked; elsewhere it is absent
  have hchild : h.type = "not" → ∃ y, h.havingSpec = some y ∧ y.validate = [] := by
    intro hn
    have hcheck := hnot hn
    cases hc : h.havingSpec with
    | none => simp [hc, childFindings] at hcheck
    | some y => simpa [hc, childFindings, qualify] using hcheck
  -- under a combination the children are checked; elsewhere there are none
  have hlist : h.type = "and" ∨ h.type = "or" →
      h.havingSpecs ≠ [] ∧ ∀ c ∈ h.havingSpecs, ∃ y, c = some y ∧ y.validate = [] := by
    intro hc
    have hcheck := hcomb hc
    rw [listFindings_eq_map] at hcheck
    split at hcheck
    · simp at hcheck
    · rename_i hne
      refine ⟨fun hnil => hne (by simp [hnil]), fun c hc => ?_⟩
      have hall := (indexed_eq_nil_iff _ 0).mp hcheck
      exact childFindings_eq_some_nil.mp (hall _ (List.mem_map_of_mem hc))
  refine ⟨fun hn => ?_, fun y hy => ?_, fun hc => (hlist hc).1, fun c hc => ?_⟩
  · obtain ⟨y, hy, -⟩ := hchild hn
    simp [hy]
  · by_cases hn : h.type = "not"
    · obtain ⟨y', hy', hclean⟩ := hchild hn
      rw [Option.mem_def, hy', Option.some.injEq] at hy
      exact hy ▸ hclean
    · simp [hother hn] at hy
  · by_cases hc' : h.type = "and" ∨ h.type = "or"
    · exact (hlist hc').2 c hc
    · rw [not_or] at hc'
      simp [hsingle hc'.1 hc'.2] at hc

theorem complete_of_validate_eq_nil {h : Having} (hv : h.validate = []) : h.complete = true := by
  refine Branching.every_of_closed (P := fun h : Having => h.validate = []) (fun h hv => ?_) hv
  obtain ⟨hnot, hspec, -, hspecs⟩ := clean_children hv
  obtain ⟨hpresent, hclean⟩ := children_present_of_forall_eq_some hspecs
  refine ⟨?_, hspec, hclean⟩
  simp only [completeNode, Bool.and_eq_true, Bool.or_eq_true, bne_iff_ne, ne_eq]
  exact ⟨(em' _).imp_right hnot, hpresent⟩

end Having

namespace PostAggregation

def completeNode (p : PostAggregation) : Bool :=
  (p.type != "arithmetic" || p.fields.length == 2) && (p.type != "thetaSketchSetOp" || !p.fields.isEmpty) &&
    (p.type != "thetaSketchEstimate" || p.field.isSome) && p.fields.all Option.isSome

def complete : PostAggregation → Bool := branching.every completeNode

theorem listFindings_eq_map (cs : List (Option PostAggregation)) :
    listFindings cs = cs.map childFindings := by
  induction cs with
  | nil => rfl
  | cons c cs ih => simp [listFindings, ih]

theorem childFindings_eq_some_nil {c : Option PostAggregation} :
    childFindings c = some [] ↔ ∃ y, c = some y ∧ y.validate = [] := by
  cases c <;> simp [childFindings]

theorem clean_children {p : PostAggregation} (h : p.validate = []) :
    (p.type = "arithmetic" → p.fields.length = 2) ∧ (p.type = "thetaSketchSetOp" → p.fields ≠ []) ∧
    (p.type = "thetaSketchEstimate" → p.field.isSome) ∧ (∀ y ∈ p.field, y.validate = []) ∧
    (∀ c ∈ p.fields, ∃ y, c = some y ∧ y.validate = []) := by
  rw [validate_eq, RuleTable.validate_eq_nil_iff] at h
  simp only [rules, List.mem_cons, List.not_mem_nil, or_false, forall_eq_or_imp, forall_eq] at h
  obtain ⟨-, -, -, -, -, -, -, hfields, hfield, -⟩ := h
  simp only [Rule.appliesTo, List.isEmpty_cons, List.contains_eq_mem, List.mem_cons,
    List.not_mem_nil, or_false, Bool.false_or, decide_eq_true_eq, decide_eq_false_iff_not,
    Option.isSome_eq_false_iff, Option.isNone_iff_eq_none, Bool.decide_or, Bool.or_eq_true,
    List.isEmpty_iff, Bool.or_eq_false_iff, Bool.not_eq_eq_eq_not, Bool.not_false, and_imp,
    List.append_eq_nil_iff] at hfields hfield
  obtain ⟨hop, hnop⟩ := hfields
  obtain ⟨hest, hnest⟩ := hfield
  -- an estimate checks its child; elsewhere it is absent
  have hchild : p.type = "thetaSketchEstimate" → ∃ y, p.field = some y ∧ y.validate = [] := by
    intro he
    have hcheck := hest he
    cases hc : p.field with
    | none => simp [hc, childFindings] at hcheck
    | some y => simp_all [childFindings, qualify]
  -- the two operations check their operands; elsewhere there are none
  have hops : p.type = "arithmetic" ∨ p.type = "thetaSketchSetOp" →
      (p.type = "arithmetic" → p.fields.length = 2) ∧ p.fields ≠ [] ∧
      ∀ c ∈ p.fields, ∃ y, c = some y ∧ y.validate = [] := by
    intro hc
    obtain ⟨hshape, hoperands⟩ := hop hc
    have hall := (indexed_eq_nil_iff _ 0).mp hoperands
    rw [listFindings_eq_map] at hall
    refine ⟨fun ha => ?_, fun hnil => ?_, fun c hc => ?_⟩
    · by_contra hlen
      simp [ha, hlen] at hshape
    · by_cases ha : p.type = "arithmetic" <;> simp [ha, hnil] at hshape
    · exact childFindings_eq_some_nil.mp (hall _ (List.mem_map_of_mem hc))
  refine ⟨fun ha => (hops (.inl ha)).1 ha, fun hs => (hops (.inr hs)).2.1, fun he => ?_,
    fun y hy => ?_, fun c hc => ?_⟩
  · obtain ⟨y, hy, -⟩ := hchild he
    simp [hy]
  · by_cases he : p.type = "thetaSketchEstimate"
    · obtain ⟨y', hy', hclean⟩ := hchild he
      rw [Option.mem_def, hy', Option.some.injEq] at hy
      exact hy ▸ hclean
    · simp [hnest he] at hy
  · by_cases hc' : p.type = "arithmetic" ∨ p.type = "thetaSketchSetOp"
    · exact (hops hc').2.2 c hc
    · rw [not_or] at hc'
      simp [hnop hc'.1 hc'.2] at hc

theorem complete_of_validate_eq_nil {p : PostAggregation} (h : p.validate = []) :
    p.complete = true := by
  refine Branching.every_of_closed (P := fun p : PostAggregation => p.validate = [])
    (fun p h => ?_) h
  obtain ⟨harith, hsetop, hest, hfield, hfields⟩ := clean_children h
  obtain ⟨hpresent, hclean⟩ := children_present_of_forall_eq_some hfields
  refine ⟨?_, hfield, hclean⟩
  simp only [completeNode, Bool.and_eq_true, Bool.or_eq_true, bne_iff_ne, ne_eq, beq_iff_eq,
    Bool.not_eq_true', List.isEmpty_eq_false_iff]
  exact ⟨⟨⟨(em' _).imp_right harith, (em' _).imp_right hsetop⟩, (em' _).imp_right hest⟩, hpresent⟩

end PostAggregation

namespace Aggregation

def complete : Aggregation → Bool
  | ⟨type, _, _, _, _, _, _, _, filter, aggregator, _⟩ =>
    (type != "filtered" || (filter.isSome && aggregator.isSome)) && filter.all Filter.complete &&
      match aggregator with
      | none => true
      | some b => complete b

theorem clean_children {a : Aggregation} (h : a.validate = []) :
    (a.type = "filtered" → a.filter.isSome ∧ a.aggregator.isSome) ∧
    (∀ f ∈ a.filter, f.validate = []) ∧ (∀ b ∈ a.aggregator, b.validate = []) := by
  rw [validate_eq, RuleTable.validate_eq_nil_iff] at h
  simp only [rules, List.mem_cons, List.not_mem_nil, or_false, forall_eq_or_imp, forall_eq] at h
  obtain ⟨-, -, -, -, -, -, -, -, hfilter, hinner⟩ := h
  simp only [Rule.appliesTo, List.isEmpty_cons, List.contains_eq_mem, List.mem_cons,
    List.not_mem_nil, or_false, Bool.false_or, decide_eq_true_eq, decide_eq_false_iff_not,
    Option.isSome_eq_false_iff, Option.isNone_iff_eq_none] at hfilter hinner
  obtain ⟨hfiltered, hnofilter⟩ := hfilter
  obtain ⟨hcheck, hnoinner⟩ := hinner
  -- a filtered aggregation checks both parts; any other has neither
  have hparts : a.type = "filtered" → (∃ f, a.filter = some f ∧ f.validate = []) ∧
      ∃ b, a.aggregator = some b ∧ b.validate = [] := by
    intro hf
    have h1 := hfiltered hf
    have h2 := hcheck hf
    constructor
    · cases hc : a.filter with
      | none => simp [hc] at h1
      | some f => simp_all [qualify]
    · cases hc : a.aggregator with
      | none => simp [hc] at h2
      | some b => simp_all [qualify]
  refine ⟨fun hf => ?_, fun f hfm => ?_, fun b hb => ?_⟩
  · obtain ⟨⟨f, hf', -⟩, ⟨b, hb', -⟩⟩ := hparts hf
    simp [hf', hb']
  · by_cases hf : a.type = "filtered"
    · obtain ⟨⟨f', hf', hclean⟩, -⟩ := hparts hf
      rw [Option.mem_def, hf', Option.some.injEq] at hfm
      exact hfm ▸ hclean
    · simp [hnofilter hf] at hfm
  · by_cases hf : a.type = "filtered"
    · obtain ⟨-, ⟨b', hb', hclean⟩⟩ := hparts hf
      rw [Option.mem_def, hb', Option.some.injEq] at hb
      exact hb ▸ hclean
    · simp [hnoinner hf] at hb

theorem complete_of_validate_eq_nil : ∀ {a : Aggregation}, a.validate = [] → a.complete = true
  | ⟨type, name, fieldName, fieldNames, fnAggregate, fnCombine, fnReset, byRow, filter, aggregator,
      spare⟩, h => by
    obtain ⟨hfiltered, hfilter, hinner⟩ := clean_children h
    -- the parts of a filtered aggregation and its filter, whatever the aggregator below
    have hhead : ((type != "filtered" || (filter.isSome && aggregator.isSome)) &&
        filter.all Filter.complete) = true := by
      simp only [Bool.and_eq_true, Bool.or_eq_true, bne_iff_ne, ne_eq, Option.all_eq_true]
      exact ⟨(em' _).imp_right hfiltered,
        fun f hf => Filter.complete_of_validate_eq_nil (hfilter f hf)⟩
    cases aggregator with
    | none => simpa [complete] using hhead
    | some b => simpa [complete, complete_of_validate_eq_nil (hinner b rfl)] using hhead

end Aggregation

namespace Query

/-- Whether every node of a query is present: every dimension, aggregation, post-aggregation and
ordering column, and below the filter, the having spec, the aggregations and the
post-aggregations every child their types need. -/
def childrenPresent (q : Query) : Bool :=
  q.dimensions.all Option.isSome && q.aggregations.all (·.any Aggregation.complete) &&
    q.postAggregations.all (·.any PostAggregation.complete) &&
    q.limitSpec.all (·.columns.all Option.isSome) && q.filter.all Filter.complete &&
    q.having.all Having.complete

theorem checkIntervals_eq_nil_iff {intervals : List String} :
    checkIntervals intervals = [] ↔
      intervals ≠ [] ∧ ∀ s ∈ intervals, (parseInterval s).toBool = true := by
  rw [checkIntervals]
  split
  · rename_i hempty
    simp_all
  · rename_i hne
    rw [List.filterMap_eq_nil_iff]
    refine ⟨fun h => ⟨by simpa using hne, fun s hs => ?_⟩, fun h p hp => ?_⟩
    · obtain ⟨⟨t, i⟩, hp, rfl⟩ := List.mem_map.mp (List.zipIdx_map_fst 0 intervals ▸ hs)
      have hrow := h _ hp
      cases hparse : parseInterval t <;> simp_all [Except.toBool]
    · have hs := h.2 p.1 (List.fst_mem_of_mem_zipIdx hp)
      cases hparse : parseInterval p.1 <;> simp_all [Except.toBool]

theorem columns_present_of_validate_eq_nil {l : LimitSpec} (h : l.validate = []) :
    ∀ c ∈ l.columns, c.isSome := by
  intro c hc
  simp only [LimitSpec.validate, List.append_eq_nil_iff] at h
  obtain ⟨i, hi⟩ := exists_findings_eq_nil_of_mem h.2 hc
  cases c with
  | none => simp at hi
  | some c => rfl

theorem clean_of_checkPostAggregations_eq_nil {ps : List (Option PostAggregation)}
    (h : checkPostAggregations ps = []) : ∀ p ∈ ps, ∃ y, p = some y ∧ y.validate = [] := by
  intro p hp
  obtain ⟨i, hi⟩ := exists_findings_eq_nil_of_mem h hp
  cases p with
  | none => simp at hi
  | some y => simp_all [qualify]

theorem clean_parts {q : Query} (h : q.validate = []) :
    (∀ d ∈ q.dimensions, d.isSome) ∧ (∀ a ∈ q.aggregations, ∀ x ∈ a, x.validate = []) ∧
    (∀ p ∈ q.postAggregations, ∃ y, p = some y ∧ y.validate = []) ∧
    (∀ l ∈ q.limitSpec, ∀ c ∈ l.columns, c.isSome) ∧ (∀ f ∈ q.filter, f.validate = []) ∧
    (∀ x ∈ q.having, x.validate = []) := by
  have rows := RuleTable.checked_or_unset_of_validate_eq_nil h
  simp only [table, List.mem_cons, List.not_mem_nil, or_false, forall_eq_or_imp, forall_eq] at rows
  obtain ⟨-, -, -, -, hdims, haggs, hposts, hfilter, hhaving, hlimit, -⟩ := rows
  refine ⟨fun d hd => ?_, fun a ha x hx => ?_, fun p hp => ?_, fun l hl c hc => ?_,
    fun f hf => ?_, fun x hx => ?_⟩
  · rcases hdims with hcheck | hunset
    · split at hcheck
      · simp at hcheck
      · obtain ⟨i, hi⟩ := exists_findings_eq_nil_of_mem hcheck hd
        cases d with
        | none => simp at hi
        | some d => rfl
    · simp [List.isEmpty_iff] at hunset
      simp [hunset] at hd
  · rw [Option.mem_def] at hx
    subst hx
    rcases haggs with hcheck | hunset
    · split at hcheck
      · simp at hcheck
      · obtain ⟨i, hi⟩ := exists_findings_eq_nil_of_mem hcheck ha
        simpa [qualify] using hi
    · simp [List.isEmpty_iff] at hunset
      simp [hunset] at ha
  · rcases hposts with hcheck | hunset
    · exact clean_of_checkPostAggregations_eq_nil hcheck p hp
    · simp [List.isEmpty_iff] at hunset
      simp [hunset] at hp
  · rw [Option.mem_def] at hl
    rcases hlimit with hcheck | hunset
    · simp only [hl, qualify, List.map_eq_nil_iff] at hcheck
      exact columns_present_of_validate_eq_nil hcheck c hc
    · simp [hl] at hunset
  · rw [Option.mem_def] at hf
    rcases hfilter with hcheck | hunset
    · simpa [hf, qualify] using hcheck
    · simp [hf] at hunset
  · rw [Option.mem_def] at hx
    rcases hhaving with hcheck | hunset
    · simpa [hx, qualify] using hcheck
    · simp [hx] at hunset

/-- A query with no finding has every node present but for its top-level aggregations: those are
validated one by one, and an absent one is skipped. -/
theorem clean_query_nodes_present_iff (q : Query) (h : q.validate = []) :
    q.childrenPresent = true ↔ none ∉ q.aggregations := by
  obtain ⟨hdims, haggs, hposts, hlimit, hfilter, hhaving⟩ := clean_parts h
  simp only [childrenPresent, Bool.and_eq_true, List.all_eq_true, Option.all_eq_true]
  constructor
  · rintro ⟨⟨⟨⟨⟨-, hcomplete⟩, -⟩, -⟩, -⟩, -⟩ hnone
    simpa using hcomplete none hnone
  · intro hnone
    refine ⟨⟨⟨⟨⟨hdims, fun a ha => ?_⟩, fun p hp => ?_⟩, fun l hl c hc => hlimit l hl c hc⟩,
      fun f hf => Filter.complete_of_validate_eq_nil (hfilter f hf)⟩,
      fun x hx => Having.complete_of_validate_eq_nil (hhaving x hx)⟩
    · cases a with
      | none => exact absurd ha hnone
      | some x => exact Aggregation.complete_of_validate_eq_nil (haggs _ ha x rfl)
    · obtain ⟨y, rfl, hy⟩ := hposts p hp
      exact PostAggregation.complete_of_validate_eq_nil hy

private theorem january_interval_checks : checkIntervals ["2013-01-01/2013-01-02"] = [] := by
  refine checkIntervals_eq_nil_iff.mpr ⟨by simp, ?_⟩
  simp only [List.mem_singleton, forall_eq]
  -- splitting at the slash is well-founded recursion, which `decide` does not unfold
  have hsplit : "2013-01-01/2013-01-02".splitOn "/" = ["2013-01-01", "2013-01-02"] := by
    rw [String.splitOn, if_neg (by decide)]
    repeat (rw [String.splitOnAux]; simp +decide only [↓reduceIte])
  rw [parseInterval, hsplit]
  decide

def groupedSample : Query :=
  { queryType := "groupBy", dataSource := "ds", intervals := ["2013-01-01/2013-01-02"],
    granularity := some { simple := "all" }, dimensions := [some { dimension := "d" }],
    aggregations :=
      [some { type := "count", name := "n", fieldName := "c" },
       some { type := "filtered",
              filter := some (Filter.negate (some (Filter.selector "d" (.str "x")))),
              aggregator := some { type := "longSum", name := "s", fieldName := "v" } }],
    postAggregations :=
      [some { type := "arithmetic", name := "r", fn := "/",
              fields := [some { type := "fieldAccess", fieldName := "n" },
                         some { type := "fieldAccess", fieldName := "s" }] }],
    filter := some (Filter.all [some (Filter.selector "d" (.str "y"))]),
    having := some (Having.all [some (Having.equalTo "n" (.int 1))]) }

theorem grouped_sample_nodes_present :
    groupedSample.validate = [] ∧ groupedSample.childrenPresent = true := by
  have hclean : groupedSample.validate = [] := by
    simp only [groupedSample, validate, RuleTable.validate, table, List.flatMap_cons, List.flatMap_nil,
      january_interval_checks]
    decide
  exact ⟨hclean, (clean_query_nodes_present_iff _ hclean).mpr (by simp [groupedSample])⟩

theorem absent_aggregation_passes :
    ({ queryType := "timeseries", dataSource := "ds", intervals := ["2013-01-01/2013-01-02"],
       granularity := some { simple := "all" }, aggregations := [none] } : Query).validate = [] ∧
    ({ queryType := "timeseries", dataSource := "ds", intervals := ["2013-01-01/2013-01-02"],
       granularity := some { simple := "all" }, aggregations := [none] } : Query).childrenPresent =
      false := by
  refine ⟨?_, by decide⟩
  simp only [validate, RuleTable.validate, table, List.flatMap_cons, List.flatMap_nil,
    january_interval_checks]
  decide

end Query

end DruidQuery
