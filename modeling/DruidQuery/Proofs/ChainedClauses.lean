import DruidQuery.Proofs.AbsentNodes
import DruidQuery.Proofs.Clauses
/-!
Chaining splices the operands of an `and` clause into the new node, so the findings such a
clause has of its own are dropped with it; a flawed operand survives chaining.
-/

namespace DruidQuery

namespace Flattening

variable {α : Type} (F : Flattening α)

def GoodOperand (good : α → Prop) (x : α) : Prop :=
  if F.kind x = "and" then ∀ c ∈ F.children x, ∃ y, c = some y ∧ good y else good x

variable {F} {good : α → Prop}

theorem operands_good_iff (xs : List (Option α)) :
    (∀ c ∈ F.operands "and" xs, ∃ y, c = some y ∧ good y) ↔
      ∀ x ∈ xs, ∀ y, x = some y → F.GoodOperand good y := by
  induction xs with
  | nil => simp [operands]
  | cons x xs ih =>
    rw [← List.singleton_append, operands_append, List.forall_mem_append, ih,
      List.forall_mem_append]
    cases x with
    | none => simp [operands]
    | some y => by_cases hk : F.kind y = "and" <;> simp [operands, GoodOperand, hk]

theorem goodOperand_node (cs : List (Option α)) :
    F.GoodOperand good (F.node "and" cs) ↔ ∀ c ∈ cs, ∃ y, c = some y ∧ good y := by
  simp [GoodOperand, F.kind_node, F.children_node]

theorem chain_flawed_right {y : α} (hy : ¬ F.GoodOperand good y) (x : Option α) :
    ∃ z, F.chain x (some y) = some z ∧ ¬ F.GoodOperand good z := by
  cases x with
  | none => exact ⟨y, rfl, hy⟩
  | some x =>
    refine ⟨_, rfl, fun hz => hy ?_⟩
    rw [combine, goodOperand_node, operands_good_iff] at hz
    exact hz (some y) (by simp) y rfl

theorem chain_flawed_left {x : α} (hx : ¬ F.GoodOperand good x) (y : Option α) :
    ∃ z, F.chain (some x) y = some z ∧ ¬ F.GoodOperand good z := by
  cases y with
  | none => exact ⟨x, rfl, hx⟩
  | some y =>
    refine ⟨_, rfl, fun hz => hx ?_⟩
    rw [combine, goodOperand_node, operands_good_iff] at hz
    exact hz (some x) (by simp) x rfl

theorem foldl_chain_flawed_of_init {z : α} (hz : ¬ F.GoodOperand good z) (xs : List (Option α)) :
    ∃ z', xs.foldl F.chain (some z) = some z' ∧ ¬ F.GoodOperand good z' := by
  induction xs generalizing z with
  | nil => exact ⟨z, rfl, hz⟩
  | cons x xs ih =>
    obtain ⟨w, hw, hflawed⟩ := chain_flawed_left hz x
    rw [List.foldl_cons, hw]
    exact ih hflawed

theorem foldl_chain_flawed {y : α} (hy : ¬ F.GoodOperand good y) {xs : List (Option α)}
    (hmem : some y ∈ xs) (init : Option α) :
    ∃ z, xs.foldl F.chain init = some z ∧ ¬ F.GoodOperand good z := by
  obtain ⟨pre, post, rfl⟩ := List.append_of_mem hmem
  obtain ⟨z, hz, hflawed⟩ := chain_flawed_right hy (pre.foldl F.chain init)
  rw [List.foldl_append, List.foldl_cons, hz]
  exact foldl_chain_flawed_of_init hflawed post

theorem chain_some_good_iff
    (hnode : ∀ cs, good (F.node "and" cs) ↔ cs ≠ [] ∧ ∀ c ∈ cs, ∃ y, c = some y ∧ good y)
    (x y : α) :
    (∀ z ∈ F.chain (some x) (some y), good z) ↔
      F.GoodOperand good x ∧ F.GoodOperand good y ∧ F.operands "and" [some x, some y] ≠ [] := by
  simp only [chain, combine, Option.mem_def, Option.some.injEq, forall_eq']
  rw [hnode, operands_good_iff]
  simp only [List.mem_cons, List.not_mem_nil, or_false, forall_eq_or_imp, forall_eq,
    Option.some.injEq, forall_eq']
  exact and_rotate

theorem chain_good
    (hnode : ∀ cs, good (F.node "and" cs) ↔ cs ≠ [] ∧ ∀ c ∈ cs, ∃ y, c = some y ∧ good y)
    (hgood : ∀ x, good x → F.GoodOperand good x ∧ (F.kind x = "and" → F.children x ≠ []))
    {x y : Option α} (hx : ∀ z ∈ x, good z) (hy : ∀ z ∈ y, good z) :
    ∀ z ∈ F.chain x y, good z := by
  cases x with
  | none => simpa using hy
  | some x =>
    cases y with
    | none => simpa using hx
    | some y =>
      obtain ⟨hxo, hxne⟩ := hgood x (hx x rfl)
      obtain ⟨hyo, -⟩ := hgood y (hy y rfl)
      refine (chain_some_good_iff hnode x y).mpr ⟨hxo, hyo, ?_⟩
      -- the first operand gives itself, or the children a good `and` node must have
      by_cases hk : F.kind x = "and"
      · simp [operands, hk, hxne hk]
      · simp [operands, hk]

end Flattening

namespace Filter

def CleanOperand (f : Filter) : Prop := flattening.GoodOperand (fun y => y.validate = []) f

theorem chain_eq_flattening : chain = flattening.chain :=
  funext fun x => funext (chain_eq x)

theorem validate_node_eq_nil_iff (cs : List (Option Filter)) :
    (flattening.node "and" cs).validate = [] ↔
      cs ≠ [] ∧ ∀ c ∈ cs, ∃ y, c = some y ∧ y.validate = [] := by
  show ({ type := "and", fields := cs } : Filter).validate = [] ↔ _
  rw [validate_eq, RuleTable.validate_eq_nil_iff]
  simp only [rules, List.mem_cons, List.not_mem_nil, or_false, forall_eq_or_imp, forall_eq]
  -- every row but `fields` holds of a node with nothing else set
  simp +decide only [Rule.appliesTo, List.isEmpty_cons, List.contains_cons, List.contains_nil,
    true_and, true_implies, false_implies, and_true]
  rw [listFindings_eq_map]
  split
  · rename_i hempty
    simp_all
  · rename_i hne
    refine (indexed_eq_nil_iff _ 0).trans ?_
    rw [List.forall_mem_map]
    simp_all [childFindings_eq_some_nil]

theorem operand_of_validate_eq_nil {f : Filter} (h : f.validate = []) :
    f.CleanOperand ∧ (f.type = "and" → f.fields ≠ []) := by
  obtain ⟨-, -, hne, hchildren⟩ := clean_children h
  refine ⟨?_, fun hk => hne (.inl hk)⟩
  unfold CleanOperand Flattening.GoodOperand
  split
  · exact hchildren
  · exact h

theorem chain_some_clean_iff (f g : Filter) :
    (∀ x ∈ chain (some f) (some g), x.validate = []) ↔
      f.CleanOperand ∧ g.CleanOperand ∧ operandsOf "and" [some f, some g] ≠ [] := by
  have hops : operandsOf "and" [some f, some g] = flattening.operands "and" [some f, some g] :=
    congrArg Filter.fields (combine_eq "and" [some f, some g])
  rw [chain_eq_flattening, hops]
  exact Flattening.chain_some_good_iff validate_node_eq_nil_iff f g

theorem chain_clean {f g : Option Filter} (hf : ∀ x ∈ f, x.validate = [])
    (hg : ∀ x ∈ g, x.validate = []) : ∀ x ∈ chain f g, x.validate = [] := by
  rw [chain_eq_flattening]
  exact Flattening.chain_good validate_node_eq_nil_iff (fun _ => operand_of_validate_eq_nil) hf hg

end Filter

namespace Having

def CleanOperand (h : Having) : Prop := flattening.GoodOperand (fun y => y.validate = []) h

theorem chain_eq_flattening : chain = flattening.chain :=
  funext fun x => funext (chain_eq x)

theorem validate_node_eq_nil_iff (cs : List (Option Having)) :
    (flattening.node "and" cs).validate = [] ↔
      cs ≠ [] ∧ ∀ c ∈ cs, ∃ y, c = some y ∧ y.validate = [] := by
  show ({ type := "and", havingSpecs := cs } : Having).validate = [] ↔ _
  rw [validate_eq, RuleTable.validate_eq_nil_iff]
  simp only [rules, List.mem_cons, List.not_mem_nil, or_false, forall_eq_or_imp, forall_eq]
  -- every row but `havingSpecs` holds of a node with nothing else set
  simp +decide only [Rule.appliesTo, List.isEmpty_cons, List.contains_cons, List.contains_nil,
    true_and, true_implies, false_implies, and_true]
  rw [listFindings_eq_map]
  split
  · rename_i hempty
    simp_all
  · rename_i hne
    refine (indexed_eq_nil_iff _ 0).trans ?_
    rw [List.forall_mem_map]
    simp_all [childFindings_eq_some_nil]

theorem operand_of_validate_eq_nil {h : Having} (hv : h.validate = []) :
    h.CleanOperand ∧ (h.type = "and" → h.havingSpecs ≠ []) := by
  obtain ⟨-, -, hne, hchildren⟩ := clean_children hv
  refine ⟨?_, fun hk => hne (.inl hk)⟩
  unfold CleanOperand Flattening.GoodOperand
  split
  · exact hchildren
  · exact hv

theorem chain_some_clean_iff (f g : Having) :
    (∀ x ∈ chain (some f) (some g), x.validate = []) ↔
      f.CleanOperand ∧ g.CleanOperand ∧ operandsOf "and" [some f, some g] ≠ [] := by
  have hops : operandsOf "and" [some f, some g] = flattening.operands "and" [some f, some g] :=
    congrArg Having.havingSpecs (combine_eq "and" [some f, some g])
  rw [chain_eq_flattening, hops]
  exact Flattening.chain_some_good_iff validate_node_eq_nil_iff f g

theorem chain_clean {f g : Option Having} (hf : ∀ x ∈ f, x.validate = [])
    (hg : ∀ x ∈ g, x.validate = []) : ∀ x ∈ chain f g, x.validate = [] := by
  rw [chain_eq_flattening]
  exact Flattening.chain_good validate_node_eq_nil_iff (fun _ => operand_of_validate_eq_nil) hf hg

end Having

namespace Builder

theorem flawed_filter_reported (b : Builder) (pre post : List Call) (c : Call) {f : Filter}
    (hadd : some f ∈ c.addedFilters) (hflaw : ¬ f.CleanOperand) :
    (b.run (pre ++ c :: post)).validate.1 ≠ [] := by
  intro hclean
  have hmem : some f ∈ (pre ++ c :: post).flatMap Call.addedFilters :=
    List.mem_flatMap.mpr ⟨c, by simp, hadd⟩
  -- the built filter is the chain of every added filter, so it keeps the flaw
  obtain ⟨z, hz, hflawed⟩ := Flattening.foldl_chain_flawed hflaw hmem b.query.filter
  rw [← Filter.chain_eq_flattening, ← run_filter] at hz
  have hquery : (b.run (pre ++ c :: post)).query.validate = [] := hclean
  exact hflawed (Filter.operand_of_validate_eq_nil ((Query.clean_parts hquery).2.2.2.2.1 z hz)).1

theorem flawed_having_reported (b : Builder) (pre post : List Call) (c : Call) {h : Having}
    (hadd : some h ∈ c.addedHavings) (hflaw : ¬ h.CleanOperand) :
    (b.run (pre ++ c :: post)).validate.1 ≠ [] := by
  intro hclean
  have hmem : some h ∈ (pre ++ c :: post).flatMap Call.addedHavings :=
    List.mem_flatMap.mpr ⟨c, by simp, hadd⟩
  -- the built having spec is the chain of every added one, so it keeps the flaw
  obtain ⟨z, hz, hflawed⟩ := Flattening.foldl_chain_flawed hflaw hmem b.query.having
  rw [← Having.chain_eq_flattening, ← run_having] at hz
  have hquery : (b.run (pre ++ c :: post)).query.validate = [] := hclean
  exact hflawed (Having.operand_of_validate_eq_nil ((Query.clean_parts hquery).2.2.2.2.2 z hz)).1

end Builder

/-- Chaining keeps clean clauses clean, and two present clauses chain to a clean one exactly when
each is clean as an operand of `and` and the node gets an operand at all; for filters and having
specs alike. So a clause a builder adds that is flawed as an operand is reported by the built query
whatever calls follow, while an `and` clause whose only findings are its own can be absorbed. -/
theorem chained_clauses_clean_by_operands :
    (∀ f g : Option Filter, (∀ x ∈ f, x.validate = []) → (∀ x ∈ g, x.validate = []) →
      ∀ x ∈ Filter.chain f g, x.validate = []) ∧
    (∀ f g : Filter, (∀ x ∈ Filter.chain (some f) (some g), x.validate = []) ↔
      f.CleanOperand ∧ g.CleanOperand ∧ Filter.operandsOf "and" [some f, some g] ≠ []) ∧
    (∀ f g : Option Having, (∀ x ∈ f, x.validate = []) → (∀ x ∈ g, x.validate = []) →
      ∀ x ∈ Having.chain f g, x.validate = []) ∧
    (∀ f g : Having, (∀ x ∈ Having.chain (some f) (some g), x.validate = []) ↔
      f.CleanOperand ∧ g.CleanOperand ∧ Having.operandsOf "and" [some f, some g] ≠ []) ∧
    (∀ (b : Builder) (pre post : List Call) (c : Call) (f : Filter),
      some f ∈ c.addedFilters → ¬ f.CleanOperand → (b.run (pre ++ c :: post)).validate.1 ≠ []) ∧
    (∀ (b : Builder) (pre post : List Call) (c : Call) (h : Having),
      some h ∈ c.addedHavings → ¬ h.CleanOperand → (b.run (pre ++ c :: post)).validate.1 ≠ []) :=
  ⟨fun _ _ => Filter.chain_clean, Filter.chain_some_clean_iff, fun _ _ => Having.chain_clean,
    Having.chain_some_clean_iff, fun b pre post c _ => Builder.flawed_filter_reported b pre post c,
    fun b pre post c _ => Builder.flawed_having_reported b pre post c⟩

theorem selectors_chain_clean :
    (∀ x ∈ some (Filter.eq "a" (.int 1)), x.validate = []) ∧
    (∀ x ∈ some (Filter.eq "b" (.int 2)), x.validate = []) ∧
    ∀ x ∈ Filter.chain (some (Filter.eq "a" (.int 1))) (some (Filter.eq "b" (.int 2))),
      x.validate = [] :=
  ⟨by decide, by decide, chained_clauses_clean_by_operands.1 _ _ (by decide) (by decide)⟩

theorem empty_not_in_absorbed :
    (Filter.notIn "d" []).validate ≠ [] ∧
    ∀ x ∈ Filter.chain (some (Filter.notIn "d" [])) (some (Filter.eq "a" (.int 1))),
      x.validate = [] := by
  decide

end DruidQuery
