import DruidQuery.Proofs.FindingPaths
import DruidQuery.Proofs.Flatness
import DruidQuery.Proofs.ParsedNames

namespace DruidQuery

namespace Flattening

variable {α : Type} {F : Flattening α} {t : String} {xs : List (Option α)}

theorem mem_operands {c : Option α} :
    c ∈ F.operands t xs ↔ ∃ x, some x ∈ xs ∧ (F.kind x = t ∧ c ∈ F.children x ∨ F.kind x ≠ t ∧ c = some x) := by
  simp only [operands, List.mem_flatMap]
  constructor
  · rintro ⟨_ | x, hx, hc⟩
    · simp at hc
    · by_cases hk : F.kind x = t
      · exact ⟨x, hx, .inl ⟨hk, by simpa [hk] using hc⟩⟩
      · exact ⟨x, hx, .inr ⟨hk, by simpa [hk] using hc⟩⟩
  · rintro ⟨x, hx, ⟨hk, hc⟩ | ⟨hk, rfl⟩⟩
    · exact ⟨some x, hx, by simpa [hk] using hc⟩
    · exact ⟨some x, hx, by simp [hk]⟩

theorem operands_ne_nil {x : α} (hx : some x ∈ xs) (hchildren : F.kind x = t → F.children x ≠ []) :
    F.operands t xs ≠ [] := by
  intro hnil
  by_cases hk : F.kind x = t
  · obtain ⟨c, hc⟩ := List.exists_mem_of_ne_nil _ (hchildren hk)
    exact List.not_mem_nil (hnil ▸ mem_operands.mpr ⟨x, hx, .inl ⟨hk, hc⟩⟩)
  · exact List.not_mem_nil (hnil ▸ mem_operands.mpr ⟨x, hx, .inr ⟨hk, rfl⟩⟩)

end Flattening

namespace Filter

/-- Whether a test holds at every node of a filter: the filter itself, the child of a negation
and every child of a list, at any depth. -/
abbrev everyNode (p : Filter → Bool) : Filter → Bool := branching.every p

section Every

variable {p : Filter → Bool}

theorem everyNode_negate {g : Filter} (hp : p (negate (some g)) = true) (hg : everyNode p g = true) :
    everyNode p (negate (some g)) = true :=
  Branching.every_iff.mpr ⟨hp, by simpa [negate] using hg, by simp [negate]⟩

theorem everyNode_combine {t : String} {fs : List (Option Filter)} (hp : p (combine t fs) = true)
    (hfs : ∀ c ∈ fs, ∀ g ∈ c, everyNode p g = true) : everyNode p (combine t fs) = true := by
  refine Branching.every_iff.mpr ⟨hp, by simp [combine], fun c hc g hg => ?_⟩
  rw [branching_children, combine_eq] at hc
  obtain ⟨x, hx, ⟨-, hcx⟩ | ⟨-, rfl⟩⟩ := Flattening.mem_operands.mp hc
  · exact (Branching.every_iff.mp (hfs _ hx x rfl)).2.2 c hcx g hg
  · exact hfs _ hx g hg

end Every

/-- What the text form builds, by the shape of the syntax tree: a property that holds of the
filters each form of node gives, given that it holds of the filters of its parts, holds of every
filter read from a syntax tree. -/
theorem ofNode_induction (motive : Expr.Node → Filter → Prop)
    (hnotIn : ∀ op left right f, Expr.canonicalOp op = "!" → readMembership left right true = .ok f →
      motive (.unary op (.binary "in" left right)) f)
    (hnot : ∀ op operand f, Expr.canonicalOp op = "!" → ofNode operand = .ok f → motive operand f →
      motive (.unary op operand) (negate (some f)))
    (hcombine : ∀ op left right l r,
      Expr.canonicalOp op = "&&" ∨ Expr.canonicalOp op = "||" →
      ofNode left = .ok l → ofNode right = .ok r → motive left l → motive right r →
      motive (.binary op left right)
        (if Expr.canonicalOp op = "&&" then all [some l, some r] else any [some l, some r]))
    (hin : ∀ op left right f, Expr.canonicalOp op = "in" → readMembership left right false = .ok f →
      motive (.binary op left right) f)
    (hmatches : ∀ op left right dim pattern, motive (.binary op left right) (regex dim pattern))
    (hcompare : ∀ op left right dim v o, motive (.binary op left right)
      (if o = "==" then eq dim v else if o = "!=" then neq dim v else compare dim o v))
    (hcall : ∀ callee args f, readCall (.call callee args) = .ok f → motive (.call callee args) f) :
    ∀ {n : Expr.Node} {f : Filter}, ofNode n = .ok f → motive n f
  | .unary op operand, f, h => by
    unfold ofNode at h
    split at h
    · cases h
    · rename_i hop
      have hbang : Expr.canonicalOp op = "!" := by simpa using hop
      split at h
      · exact hnotIn _ _ _ _ hbang h
      · cases ho : ofNode operand with
        | error e => rw [ho] at h; cases h
        | ok g =>
          rw [ho] at h
          cases h
          exact hnot op operand g hbang ho
            (ofNode_induction motive hnotIn hnot hcombine hin hmatches hcompare hcall ho)
  | .binary op left right, f, h => by
    unfold ofNode at h
    simp only at h
    split at h
    · rename_i hop
      obtain ⟨l, hl, h⟩ := bind_eq_ok h
      obtain ⟨r, hr, h⟩ := bind_eq_ok h
      cases h
      exact hcombine op left right l r (by simpa using hop) hl hr
        (ofNode_induction motive hnotIn hnot hcombine hin hmatches hcompare hcall hl)
        (ofNode_induction motive hnotIn hnot hcombine hin hmatches hcompare hcall hr)
    · split at h
      · exact hin _ _ _ _ ‹_› h
      · split at h
        · split at h
          · cases h
          · split at h
            · cases h
              exact hmatches _ _ _ _ _
            · cases h
        · split at h
          · obtain ⟨⟨dim, v, o⟩, -, h⟩ := bind_eq_ok h
            cases h
            exact hcompare _ _ _ _ _ _
          · cases h
  | .call callee args, f, h => by
    unfold ofNode at h
    exact hcall callee args f h
  | .identifier _, _, h | .integer _, _, h | .float _, _, h | .string _, _, h | .bool _, _, h
  | .nil, _, h | .array _, _, h | .map _, _, h | .pair .., _, h | .builtin .., _, h
  | .member .., _, h | .chain _, _, h | .slice .., _, h | .conditional .., _, h
  | .declaration .., _, h | .closure _, _, h | .pointer _, _, h => by cases h

theorem literal?_ne_list {n : Expr.Node} {v : Value} (h : n.literal? = some v) (xs : List Value) :
    v ≠ .list xs := by
  rintro rfl
  cases n <;> simp [Expr.Node.literal?] at h
  split at h <;> simp at h

theorem mapM_literals {g : Expr.Node → Except Expr.Error Value}
    (hg : ∀ item v, g item = .ok v → item.literal? = some v) :
    ∀ {items : List Expr.Node} {values : List Value}, items.mapM g = .ok values →
      values.length = items.length ∧ ∀ v ∈ values, ∀ xs, v ≠ .list xs
  | [], values, h => by
    cases h
    simp
  | item :: items, values, h => by
    rw [List.mapM_cons] at h
    obtain ⟨v, hv, h⟩ := bind_eq_ok h
    obtain ⟨vs, hvs, h⟩ := bind_eq_ok h
    cases h
    obtain ⟨hlen, hlist⟩ := mapM_literals hg hvs
    refine ⟨by simp [hlen], ?_⟩
    simp only [List.mem_cons, forall_eq_or_imp]
    exact ⟨literal?_ne_list (hg item v hv), hlist⟩

theorem readMembership_eq {left right : Expr.Node} {negated : Bool} {f : Filter}
    (h : readMembership left right negated = .ok f) :
    ∃ dim items values, right = .array items ∧ values.length = items.length ∧
      (∀ v ∈ values, ∀ xs, v ≠ .list xs) ∧ f = if negated then notIn dim values else isIn dim values := by
  unfold readMembership at h
  split at h
  · split at h
    · obtain ⟨values, hvalues, h⟩ := bind_eq_ok h
      cases h
      obtain ⟨hlen, hlist⟩ := mapM_literals (fun item v hv => by
        split at hv
        · cases hv
          assumption
        · cases hv) hvalues
      exact ⟨_, _, values, rfl, hlen, hlist, rfl⟩
    · cases h
  · cases h

def wellFormedNode (f : Filter) : Bool :=
  knownTypes.contains f.type && table.rules.all (fun ρ => ρ.appliesTo f.type || !ρ.present f) &&
    (f.type != "not" || f.field.isSome) && f.fields.all Option.isSome &&
    f.bound.all fun b => b.type == "radius" || b.type == "rectangular"

def combinesSome (f : Filter) : Bool := (f.type != "and" && f.type != "or") || !f.fields.isEmpty

def listsNonempty : Expr.Node → Bool
  | .unary _ operand => listsNonempty operand
  | .binary op left right =>
    if Expr.canonicalOp op = "in" then !(right matches .array []) else listsNonempty left && listsNonempty right
  | _ => true

theorem operandsOf_eq (t : String) (fs : List (Option Filter)) :
    operandsOf t fs = flattening.operands t fs :=
  congrArg Filter.fields (combine_eq t fs)

theorem fields_present {f : Filter} (h : f.wellFormedNode = true) : f.fields.all Option.isSome = true := by
  simp only [wellFormedNode, Bool.and_eq_true] at h
  exact h.1.2

theorem wellFormedNode_matchValue (dimension : String) (v : Value) :
    (matchValue dimension v).wellFormedNode = true := by
  cases v <;> rfl

theorem wellFormedNode_combine {t : String} (ht : t = "and" ∨ t = "or") {fs : List (Option Filter)}
    (hfs : ∀ c ∈ fs, ∀ g ∈ c, g.fields.all Option.isSome = true) : (combine t fs).wellFormedNode = true := by
  have hpresent : (operandsOf t fs).all Option.isSome = true := by
    rw [List.all_eq_true, operandsOf_eq]
    intro c hc
    obtain ⟨x, hx, ⟨-, hcx⟩ | ⟨-, rfl⟩⟩ := Flattening.mem_operands.mp hc
    · exact List.all_eq_true.mp (hfs _ hx x rfl) c hcx
    · rfl
  rcases ht with rfl | rfl <;> simpa [wellFormedNode, combine, table, rules, Rule.appliesTo, knownTypes] using hpresent

theorem everyNode_matchValue {p : Filter → Bool} (dimension : String) (v : Value)
    (hp : p (matchValue dimension v) = true) : everyNode p (matchValue dimension v) = true :=
  Branching.every_of_leaf (by cases v <;> rfl) (by cases v <;> rfl) hp

theorem isIn_wellFormed (dimension : String) (values : List Value) :
    (isIn dimension values).everyNode wellFormedNode = true := by
  unfold isIn
  split
  · exact everyNode_matchValue _ _ (wellFormedNode_matchValue _ _)
  · rw [Branching.every_iff]
    refine ⟨by simp [wellFormedNode, table, rules, Rule.appliesTo, knownTypes], by simp, ?_⟩
    simp only [branching_children, List.mem_map, forall_exists_index, and_imp]
    rintro _ v - rfl g hg
    cases hg
    exact everyNode_matchValue _ _ (wellFormedNode_matchValue _ _)

theorem notIn_wellFormed (dimension : String) (values : List Value) :
    (notIn dimension values).everyNode wellFormedNode = true := by
  unfold notIn
  split
  · exact everyNode_negate rfl (everyNode_matchValue _ _ (wellFormedNode_matchValue _ _))
  · rw [Branching.every_iff]
    refine ⟨by simp [wellFormedNode, table, rules, Rule.appliesTo, knownTypes], by simp, ?_⟩
    simp only [branching_children, List.mem_map, forall_exists_index, and_imp]
    rintro _ v - rfl g hg
    cases hg
    exact everyNode_negate rfl (everyNode_matchValue _ _ (wellFormedNode_matchValue _ _))

theorem ofNode_wellFormed {n : Expr.Node} {f : Filter} (h : ofNode n = .ok f) :
    f.everyNode wellFormedNode = true := by
  refine ofNode_induction (fun _ f => f.everyNode wellFormedNode = true) ?notIn ?negation ?combination
    ?member ?matching ?comparison ?call h
  case notIn =>
    intro op left right f _ h
    obtain ⟨dim, -, values, -, -, -, rfl⟩ := readMembership_eq h
    exact notIn_wellFormed dim values
  case negation =>
    intro op operand f _ _ ih
    exact everyNode_negate rfl ih
  case combination =>
    intro op left right l r hop _ _ ihl ihr
    have hops : ∀ c ∈ [some l, some r], ∀ g ∈ c, g.everyNode wellFormedNode = true := by
      simp [ihl, ihr]
    have hfields : ∀ c ∈ [some l, some r], ∀ g ∈ c, g.fields.all Option.isSome = true :=
      fun c hc g hg => fields_present (Branching.every_iff.mp (hops c hc g hg)).1
    split
    · exact everyNode_combine (wellFormedNode_combine (.inl rfl) hfields) hops
    · exact everyNode_combine (wellFormedNode_combine (.inr rfl) hfields) hops
  case member =>
    intro op left right f _ h
    obtain ⟨dim, -, values, -, -, -, rfl⟩ := readMembership_eq h
    exact isIn_wellFormed dim values
  case matching =>
    intro op left right dim pattern
    exact Branching.every_of_leaf rfl rfl rfl
  case comparison =>
    intro op left right dim v o
    split
    · exact Branching.every_of_leaf rfl rfl rfl
    · split
      · exact everyNode_negate rfl (Branching.every_of_leaf rfl rfl rfl)
      · exact Branching.every_of_leaf rfl rfl rfl
  case call =>
    intro callee args f h
    rcases readCall_cases h with ⟨_, _, rfl⟩ | ⟨_, _, rfl⟩ | ⟨_, _, _, rfl⟩ | ⟨_, _, _, rfl⟩ <;>
      exact Branching.every_of_leaf rfl rfl rfl

theorem expandValues_of_not_list {values : List Value} (h : ∀ v ∈ values, ∀ xs, v ≠ .list xs) :
    expandValues values = values := by
  unfold expandValues
  split
  · rename_i items
    exact absurd rfl (h _ List.mem_cons_self items)
  · rfl

theorem fields_ne_nil {f : Filter} (h : f.combinesSome = true) (ht : f.type = "and" ∨ f.type = "or") :
    f.fields ≠ [] := by
  rcases ht with ht | ht <;> simpa [combinesSome, ht] using h

theorem combine_combinesSome {t : String} {l r : Filter} (hl : l.combinesSome = true)
    (ht : t = "and" ∨ t = "or") : (combine t [some l, some r]).combinesSome = true := by
  have hne : operandsOf t [some l, some r] ≠ [] := by
    rw [operandsOf_eq]
    refine Flattening.operands_ne_nil List.mem_cons_self fun hk => fields_ne_nil hl ?_
    rw [show l.type = t from hk]
    exact ht
  simp [combinesSome, combine, hne]

theorem isIn_combinesSome (dimension : String) {values : List Value} (hne : values ≠ [])
    (hlist : ∀ v ∈ values, ∀ xs, v ≠ .list xs) : (isIn dimension values).everyNode combinesSome = true := by
  unfold isIn
  rw [expandValues_of_not_list hlist]
  split
  · exact everyNode_matchValue _ _ (by cases ‹Value› <;> rfl)
  · rw [Branching.every_iff]
    refine ⟨by simp [combinesSome, hne], by simp, ?_⟩
    simp only [branching_children, List.mem_map, forall_exists_index, and_imp]
    rintro _ v - rfl g hg
    cases hg
    exact everyNode_matchValue _ _ (by cases v <;> rfl)

theorem notIn_combinesSome (dimension : String) {values : List Value} (hne : values ≠ [])
    (hlist : ∀ v ∈ values, ∀ xs, v ≠ .list xs) : (notIn dimension values).everyNode combinesSome = true := by
  unfold notIn
  rw [expandValues_of_not_list hlist]
  split
  · exact everyNode_negate rfl (everyNode_matchValue _ _ (by cases ‹Value› <;> rfl))
  · rw [Branching.every_iff]
    refine ⟨by simp [combinesSome, hne], by simp, ?_⟩
    simp only [branching_children, List.mem_map, forall_exists_index, and_imp]
    rintro _ v - rfl g hg
    cases hg
    exact everyNode_negate rfl (everyNode_matchValue _ _ (by cases v <;> rfl))

theorem readMembership_combinesSome {left : Expr.Node} {items : List Expr.Node} {negated : Bool}
    {f : Filter} (hne : items ≠ []) (h : readMembership left (.array items) negated = .ok f) :
    f.everyNode combinesSome = true := by
  obtain ⟨dim, items', values, hitems, hlen, hlist, rfl⟩ := readMembership_eq h
  cases hitems
  have hvalues : values ≠ [] := by
    intro hnil
    simp [hnil, eq_comm] at hlen
    exact hne hlen
  cases negated
  · exact isIn_combinesSome dim hvalues hlist
  · exact notIn_combinesSome dim hvalues hlist

theorem ofNode_combinesSome {n : Expr.Node} {f : Filter} (hn : listsNonempty n = true)
    (h : ofNode n = .ok f) : f.everyNode combinesSome = true := by
  refine ofNode_induction (fun n f => listsNonempty n = true → f.everyNode combinesSome = true)
    ?notIn ?negation ?combination ?member ?matching ?comparison ?call h hn
  case notIn =>
    intro op left right f _ h hn
    obtain ⟨-, items, -, rfl, -⟩ := readMembership_eq h
    have hin : Expr.canonicalOp "in" = "in" := rfl
    simp only [listsNonempty, hin, if_true] at hn
    exact readMembership_combinesSome (by rintro rfl; simp at hn) h
  case negation =>
    intro op operand f _ _ ih hn
    exact everyNode_negate rfl (ih hn)
  case combination =>
    intro op left right l r hop _ _ ihl ihr hn
    have hnotin : Expr.canonicalOp op ≠ "in" := by rcases hop with h | h <;> simp [h]
    simp only [listsNonempty, if_neg hnotin, Bool.and_eq_true] at hn
    have hl := ihl hn.1
    have hops : ∀ c ∈ [some l, some r], ∀ g ∈ c, g.everyNode combinesSome = true := by
      simp [hl, ihr hn.2]
    have hlnode := (Branching.every_iff.mp hl).1
    split
    · exact everyNode_combine (combine_combinesSome hlnode (.inl rfl)) hops
    · exact everyNode_combine (combine_combinesSome hlnode (.inr rfl)) hops
  case member =>
    intro op left right f hop h hn
    obtain ⟨-, items, -, rfl, -⟩ := readMembership_eq h
    simp only [listsNonempty, hop, if_true] at hn
    exact readMembership_combinesSome (by rintro rfl; simp at hn) h
  case matching =>
    intro op left right dim pattern _
    exact Branching.every_of_leaf rfl rfl rfl
  case comparison =>
    intro op left right dim v o _
    split
    · exact Branching.every_of_leaf rfl rfl rfl
    · split
      · exact everyNode_negate rfl (Branching.every_of_leaf rfl rfl rfl)
      · exact Branching.every_of_leaf rfl rfl rfl
  case call =>
    intro callee args f h _
    rcases readCall_cases h with ⟨_, _, rfl⟩ | ⟨_, _, rfl⟩ | ⟨_, _, _, rfl⟩ | ⟨_, _, _, rfl⟩ <;>
      exact Branching.every_of_leaf rfl rfl rfl

end Filter

namespace Having

abbrev everyNode (p : Having → Bool) : Having → Bool := branching.every p

section Every

variable {p : Having → Bool}

theorem everyNode_negate {g : Having} (hp : p (negate (some g)) = true) (hg : everyNode p g = true) :
    everyNode p (negate (some g)) = true :=
  Branching.every_iff.mpr ⟨hp, by simpa [negate] using hg, by simp [negate]⟩

theorem everyNode_combine {t : String} {hs : List (Option Having)} (hp : p (combine t hs) = true)
    (hhs : ∀ c ∈ hs, ∀ g ∈ c, everyNode p g = true) : everyNode p (combine t hs) = true := by
  refine Branching.every_iff.mpr ⟨hp, by simp [combine], fun c hc g hg => ?_⟩
  rw [branching_children, combine_eq] at hc
  obtain ⟨x, hx, ⟨-, hcx⟩ | ⟨-, rfl⟩⟩ := Flattening.mem_operands.mp hc
  · exact (Branching.every_iff.mp (hhs _ hx x rfl)).2.2 c hcx g hg
  · exact hhs _ hx g hg

end Every

theorem ofNode_induction (motive : Expr.Node → Having → Prop)
    (hnot : ∀ op operand h, Expr.canonicalOp op = "!" → ofNode operand = .ok h → motive operand h →
      motive (.unary op operand) (negate (some h)))
    (hcombine : ∀ op left right l r,
      Expr.canonicalOp op = "&&" ∨ Expr.canonicalOp op = "||" →
      ofNode left = .ok l → ofNode right = .ok r → motive left l → motive right r →
      motive (.binary op left right)
        (if Expr.canonicalOp op = "&&" then all [some l, some r] else any [some l, some r]))
    (hcompare : ∀ op left right h,
      readComparison (.binary op left right) left right (Expr.canonicalOp op) = .ok h →
      motive (.binary op left right) h) :
    ∀ {n : Expr.Node} {h : Having}, ofNode n = .ok h → motive n h
  | .unary op operand, h, hr => by
    unfold ofNode at hr
    split at hr
    · cases hr
    · rename_i hop
      cases ho : ofNode operand with
      | error e => rw [ho] at hr; cases hr
      | ok g =>
        rw [ho] at hr
        cases hr
        exact hnot op operand g (by simpa using hop) ho (ofNode_induction motive hnot hcombine hcompare ho)
  | .binary op left right, h, hr => by
    unfold ofNode at hr
    simp only at hr
    split at hr
    · rename_i hop
      obtain ⟨l, hl, hr⟩ := bind_eq_ok hr
      obtain ⟨r, hr', hr⟩ := bind_eq_ok hr
      cases hr
      exact hcombine op left right l r (by simpa using hop) hl hr'
        (ofNode_induction motive hnot hcombine hcompare hl)
        (ofNode_induction motive hnot hcombine hcompare hr')
    · split at hr
      · exact hcompare op left right h hr
      · cases hr
  | .identifier _, _, hr | .integer _, _, hr | .float _, _, hr | .string _, _, hr
  | .bool _, _, hr | .nil, _, hr | .array _, _, hr | .map _, _, hr | .pair .., _, hr
  | .call .., _, hr | .builtin .., _, hr | .member .., _, hr | .chain _, _, hr
  | .slice .., _, hr | .conditional .., _, hr | .declaration .., _, hr | .closure _, _, hr
  | .pointer _, _, hr => by cases hr

theorem comparison_shape {name o : String} {value : Value} {h : Having}
    (hh : h = if o = "==" then equalTo name value else if o = "!=" then notEqualTo name value
      else if o = ">" then greaterThan name value else lessThan name value) :
    h = equalTo name value ∨ h = notEqualTo name value ∨ h = greaterThan name value ∨
      h = lessThan name value := by
  subst hh
  split
  · exact .inl rfl
  · split
    · exact .inr (.inl rfl)
    · split
      · exact .inr (.inr (.inl rfl))
      · exact .inr (.inr (.inr rfl))

theorem readComparison_eq {n left right : Expr.Node} {op : String} {h : Having}
    (hr : readComparison n left right op = .ok h) :
    ∃ name value, (left.path? = some name ∨ right.path? = some name) ∧
      (h = equalTo name value ∨ h = notEqualTo name value ∨ h = greaterThan name value ∨
        h = lessThan name value) := by
  unfold readComparison at hr
  simp only at hr
  -- whichever side names the aggregation, the spec is built from the literal on the other
  split at hr
  · rename_i name hname
    obtain ⟨_, hx, hr⟩ := bind_eq_ok hr
    cases hx
    split at hr
    · cases hr
      exact ⟨name, _, .inl hname, comparison_shape rfl⟩
    · cases hr
  · split at hr
    · rename_i name hname
      obtain ⟨_, hx, hr⟩ := bind_eq_ok hr
      cases hx
      split at hr
      · cases hr
        exact ⟨name, _, .inr hname, comparison_shape rfl⟩
      · cases hr
    · cases hr

def wellFormedNode (h : Having) : Bool :=
  knownTypes.contains h.type && table.rules.all (fun ρ => ρ.appliesTo h.type || !ρ.present h) &&
    (h.type != "not" || h.havingSpec.isSome) && h.havingSpecs.all Option.isSome

def combinesSome (h : Having) : Bool := (h.type != "and" && h.type != "or") || !h.havingSpecs.isEmpty

def namesAggregation (h : Having) : Bool := !comparisonTypes.contains h.type || !Text.isBlank h.aggregation

theorem operandsOf_eq (t : String) (hs : List (Option Having)) :
    operandsOf t hs = flattening.operands t hs :=
  congrArg Having.havingSpecs (combine_eq t hs)

theorem specs_present {h : Having} (hw : h.wellFormedNode = true) : h.havingSpecs.all Option.isSome = true := by
  simp only [wellFormedNode, Bool.and_eq_true] at hw
  exact hw.2

theorem specs_ne_nil {h : Having} (hc : h.combinesSome = true) (ht : h.type = "and" ∨ h.type = "or") :
    h.havingSpecs ≠ [] := by
  rcases ht with ht | ht <;> simpa [combinesSome, ht] using hc

theorem wellFormedNode_combine {t : String} (ht : t = "and" ∨ t = "or") {hs : List (Option Having)}
    (hhs : ∀ c ∈ hs, ∀ g ∈ c, g.havingSpecs.all Option.isSome = true) :
    (combine t hs).wellFormedNode = true := by
  have hpresent : (operandsOf t hs).all Option.isSome = true := by
    rw [List.all_eq_true, operandsOf_eq]
    intro c hc
    obtain ⟨x, hx, ⟨-, hcx⟩ | ⟨-, rfl⟩⟩ := Flattening.mem_operands.mp hc
    · exact List.all_eq_true.mp (hhs _ hx x rfl) c hcx
    · rfl
  rcases ht with rfl | rfl <;> simpa [wellFormedNode, combine, table, rules, Rule.appliesTo, knownTypes] using hpresent

theorem combine_combinesSome {t : String} {l r : Having} (hl : l.combinesSome = true)
    (ht : t = "and" ∨ t = "or") : (combine t [some l, some r]).combinesSome = true := by
  have hne : operandsOf t [some l, some r] ≠ [] := by
    rw [operandsOf_eq]
    refine Flattening.operands_ne_nil List.mem_cons_self fun hk => specs_ne_nil hl ?_
    rw [show l.type = t from hk]
    exact ht
  simp [combinesSome, combine, hne]

theorem everyNode_comparison {p : Having → Bool} {name : String} {value : Value} {h : Having}
    (hh : h = equalTo name value ∨ h = notEqualTo name value ∨ h = greaterThan name value ∨
      h = lessThan name value)
    (hleaf : ∀ t ∈ comparisonTypes, p { type := t, aggregation := name, value } = true)
    (hnot : p (notEqualTo name value) = true) : everyNode p h = true := by
  rcases hh with rfl | rfl | rfl | rfl
  · exact Branching.every_of_leaf rfl rfl (hleaf "equalTo" (by decide))
  · exact everyNode_negate hnot (Branching.every_of_leaf rfl rfl (hleaf "equalTo" (by decide)))
  · exact Branching.every_of_leaf rfl rfl (hleaf "greaterThan" (by decide))
  · exact Branching.every_of_leaf rfl rfl (hleaf "lessThan" (by decide))

theorem ofNode_wellFormed {n : Expr.Node} {h : Having} (hr : ofNode n = .ok h) :
    h.everyNode wellFormedNode = true := by
  refine ofNode_induction (fun _ h => h.everyNode wellFormedNode = true) ?negation ?combination
    ?comparison hr
  case negation =>
    intro op operand h _ _ ih
    exact everyNode_negate rfl ih
  case combination =>
    intro op left right l r hop _ _ ihl ihr
    have hops : ∀ c ∈ [some l, some r], ∀ g ∈ c, g.everyNode wellFormedNode = true := by
      simp [ihl, ihr]
    have hspecs : ∀ c ∈ [some l, some r], ∀ g ∈ c, g.havingSpecs.all Option.isSome = true :=
      fun c hc g hg => specs_present (Branching.every_iff.mp (hops c hc g hg)).1
    split
    · exact everyNode_combine (wellFormedNode_combine (.inl rfl) hspecs) hops
    · exact everyNode_combine (wellFormedNode_combine (.inr rfl) hspecs) hops
  case comparison =>
    intro op left right h hr
    obtain ⟨name, value, -, hh⟩ := readComparison_eq hr
    refine everyNode_comparison hh ?_ rfl
    simp only [comparisonTypes, List.mem_cons, List.not_mem_nil, or_false]
    rintro t (rfl | rfl | rfl) <;> rfl

theorem ofNode_combinesSome {n : Expr.Node} {h : Having} (hr : ofNode n = .ok h) :
    h.everyNode combinesSome = true := by
  refine ofNode_induction (fun _ h => h.everyNode combinesSome = true) ?negation ?combination
    ?comparison hr
  case negation =>
    intro op operand h _ _ ih
    exact everyNode_negate rfl ih
  case combination =>
    intro op left right l r hop _ _ ihl ihr
    have hops : ∀ c ∈ [some l, some r], ∀ g ∈ c, g.everyNode combinesSome = true := by
      simp [ihl, ihr]
    have hlnode := (Branching.every_iff.mp ihl).1
    split
    · exact everyNode_combine (combine_combinesSome hlnode (.inl rfl)) hops
    · exact everyNode_combine (combine_combinesSome hlnode (.inr rfl)) hops
  case comparison =>
    intro op left right h hr
    obtain ⟨name, value, -, hh⟩ := readComparison_eq hr
    refine everyNode_comparison hh ?_ rfl
    simp only [comparisonTypes, List.mem_cons, List.not_mem_nil, or_false]
    rintro t (rfl | rfl | rfl) <;> rfl

theorem ofNode_namesAggregation {n : Expr.Node} {h : Having} (hn : n.namesNonBlank = true)
    (hr : ofNode n = .ok h) : h.everyNode namesAggregation = true := by
  refine ofNode_induction (fun n h => n.namesNonBlank = true → h.everyNode namesAggregation = true)
    ?negation ?combination ?comparison hr hn
  case negation =>
    intro op operand h _ _ ih hn
    exact everyNode_negate rfl (ih hn)
  case combination =>
    intro op left right l r hop _ _ ihl ihr hn
    simp only [Expr.Node.namesNonBlank, Bool.and_eq_true] at hn
    have hops : ∀ c ∈ [some l, some r], ∀ g ∈ c, g.everyNode namesAggregation = true := by
      simp [ihl hn.1, ihr hn.2]
    split
    · exact everyNode_combine rfl hops
    · exact everyNode_combine rfl hops
  case comparison =>
    intro op left right h hr hn
    simp only [Expr.Node.namesNonBlank, Bool.and_eq_true] at hn
    obtain ⟨name, value, hname, hh⟩ := readComparison_eq hr
    have hblank : Text.isBlank name = false := by
      rcases hname with hname | hname
      · exact Expr.Node.isBlank_path? hn.1 hname
      · exact Expr.Node.isBlank_path? hn.2 hname
    exact everyNode_comparison hh (fun t _ => by simp [namesAggregation, hblank]) rfl

end Having

namespace PostAggregation

abbrev everyNode (q : PostAggregation → Bool) : PostAggregation → Bool := branching.every q

section Every

variable {q : PostAggregation → Bool}

theorem everyNode_arithmetic {fn : String} {l r : PostAggregation}
    (hq : q (arithmetic fn (some l) (some r)) = true) (hl : everyNode q l = true)
    (hr : everyNode q r = true) : everyNode q (arithmetic fn (some l) (some r)) = true :=
  Branching.every_iff.mpr ⟨hq, by simp [arithmetic], by simp [arithmetic, hl, hr]⟩

end Every

theorem readCall_cases {n : Expr.Node} {p : PostAggregation} (h : readCall n = .ok p) :
    (∃ f, p = script f) ∨ ∃ name, p = hyperUnique name := by
  unfold readCall at h
  split at h
  · cases h
  · split at h
    · obtain ⟨src, -, h⟩ := bind_eq_ok h
      split at h
      · rename_i q hq
        cases h
        unfold ofScript at hq
        cases hs : Script.parse src with
        | error e => rw [hs] at hq; cases hq
        | ok f =>
          rw [hs] at hq
          cases hq
          exact .inl ⟨f, rfl⟩
      · cases h
    · split at h
      · cases ht : textArgument _ _ with
        | error e => rw [ht] at h; cases h
        | ok name =>
          rw [ht] at h
          cases h
          exact .inr ⟨name, rfl⟩
      · cases h

theorem ofNode_leaf {n : Expr.Node} {p : PostAggregation} (hn : ∀ op l r, n ≠ .binary op l r)
    (h : ofNode n = .ok p) :
    (∃ name, p = fieldAccess name) ∨ (∃ i, p = constant (.int i)) ∨ (∃ x, p = constant (.float x)) ∨
      (∃ f, p = script f) ∨ ∃ name, p = hyperUnique name := by
  unfold ofNode at h
  split at h
  · exact absurd rfl (hn _ _ _)
  · split at h
    · cases h
      exact .inl ⟨_, rfl⟩
    · split at h
      · cases h
        exact .inr (.inl ⟨_, rfl⟩)
      · cases h
        exact .inr (.inr (.inl ⟨_, rfl⟩))
      · cases h
        exact .inl ⟨_, rfl⟩
      · cases h
      · split at h
        · rcases readCall_cases h with hf | hh
          · exact .inr (.inr (.inr (.inl hf)))
          · exact .inr (.inr (.inr (.inr hh)))
        · cases h

theorem ofNode_induction (motive : Expr.Node → PostAggregation → Prop)
    (harith : ∀ op left right l r, ["+", "-", "*", "/"].contains op = true →
      ofNode left = .ok l → ofNode right = .ok r → motive left l → motive right r →
      motive (.binary op left right) (arithmetic op (some l) (some r)))
    (hleaf : ∀ n p, ((∃ name, p = fieldAccess name) ∨ (∃ i, p = constant (.int i)) ∨
      (∃ x, p = constant (.float x)) ∨ (∃ f, p = script f) ∨ ∃ name, p = hyperUnique name) →
      motive n p) :
    ∀ {n : Expr.Node} {p : PostAggregation}, ofNode n = .ok p → motive n p
  | .binary op left right, p, h => by
    unfold ofNode at h
    split at h
    · rename_i hop
      obtain ⟨l, hl, h⟩ := bind_eq_ok h
      obtain ⟨r, hr, h⟩ := bind_eq_ok h
      cases h
      exact harith op left right l r hop hl hr (ofNode_induction motive harith hleaf hl)
        (ofNode_induction motive harith hleaf hr)
    · cases h
  | .identifier _, _, h | .integer _, _, h | .float _, _, h | .string _, _, h | .bool _, _, h
  | .nil, _, h | .unary .., _, h | .array _, _, h | .map _, _, h | .pair .., _, h
  | .call .., _, h | .builtin .., _, h | .member .., _, h | .chain _, _, h | .slice .., _, h
  | .conditional .., _, h | .declaration .., _, h | .closure _, _, h | .pointer _, _, h =>
    hleaf _ _ (ofNode_leaf (fun _ _ _ hb => Expr.Node.noConfusion hb) h)

def wellFormedNode (p : PostAggregation) : Bool :=
  knownTypes.contains p.type && table.rules.all (fun ρ => ρ.appliesTo p.type || !ρ.present p) &&
    (p.type != "thetaSketchEstimate" || p.field.isSome) && p.fields.all Option.isSome

def binaryArithmetic (p : PostAggregation) : Bool :=
  p.type != "arithmetic" || (p.fields.length == 2 && ["+", "-", "*", "/"].contains p.fn)

theorem zero_ne_nan : ¬ (0 : Float) = Float.nan := by decide

theorem wellFormedNode_arithmetic (fn : String) (l r : PostAggregation) :
    (arithmetic fn (some l) (some r)).wellFormedNode = true := by
  simp [wellFormedNode, table, rules, Rule.appliesTo, knownTypes, histogramTypes, arithmetic,
    zero_ne_nan]

theorem wellFormedNode_leaf {p : PostAggregation}
    (hp : (∃ name, p = fieldAccess name) ∨ (∃ i, p = constant (.int i)) ∨
      (∃ x, p = constant (.float x)) ∨ (∃ f, p = script f) ∨ ∃ name, p = hyperUnique name) :
    p.wellFormedNode = true := by
  rcases hp with ⟨_, rfl⟩ | ⟨_, rfl⟩ | ⟨_, rfl⟩ | ⟨_, rfl⟩ | ⟨_, rfl⟩ <;>
    simp [wellFormedNode, table, rules, Rule.appliesTo, knownTypes, histogramTypes, fieldAccess,
      constant, script, hyperUnique, zero_ne_nan]

theorem ofNode_wellFormed {n : Expr.Node} {p : PostAggregation} (h : ofNode n = .ok p) :
    p.everyNode wellFormedNode = true ∧ p.everyNode binaryArithmetic = true := by
  refine ofNode_induction (fun _ p => p.everyNode wellFormedNode = true ∧ p.everyNode binaryArithmetic = true)
    ?arithmetic ?leaf h
  case arithmetic =>
    intro op left right l r hop _ _ ihl ihr
    refine ⟨everyNode_arithmetic (wellFormedNode_arithmetic _ _ _) ihl.1 ihr.1,
      everyNode_arithmetic ?_ ihl.2 ihr.2⟩
    simpa [binaryArithmetic, arithmetic] using hop
  case leaf =>
    intro n p hp
    have hleaf : p.fields = [] ∧ p.field = none := by
      rcases hp with ⟨_, rfl⟩ | ⟨_, rfl⟩ | ⟨_, rfl⟩ | ⟨_, rfl⟩ | ⟨_, rfl⟩ <;> exact ⟨rfl, rfl⟩
    have harith : p.binaryArithmetic = true := by
      rcases hp with ⟨_, rfl⟩ | ⟨_, rfl⟩ | ⟨_, rfl⟩ | ⟨_, rfl⟩ | ⟨_, rfl⟩ <;> rfl
    exact ⟨Branching.every_of_leaf hleaf.2 hleaf.1 (wellFormedNode_leaf hp),
      Branching.every_of_leaf hleaf.2 hleaf.1 harith⟩

end PostAggregation

end DruidQuery
