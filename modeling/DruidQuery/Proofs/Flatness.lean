import DruidQuery.Proofs.Clauses

namespace DruidQuery

theorem bind_eq_ok {ε α β : Type} {x : Except ε α} {f : α → Except ε β} {b : β}
    (h : x >>= f = .ok b) : ∃ a, x = .ok a ∧ f a = .ok b := by
  cases x with
  | error e => cases h
  | ok a => exact ⟨a, rfl, h⟩

theorem foldl_chain_keeps {β : Type} {P : β → Prop} {ch : Option β → Option β → Option β}
    (hch : ∀ x y, (∀ z ∈ x, P z) → (∀ z ∈ y, P z) → ∀ z ∈ ch x y, P z)
    {xs : List (Option β)} (hxs : ∀ x ∈ xs, ∀ z ∈ x, P z) {init : Option β}
    (hinit : ∀ z ∈ init, P z) : ∀ z ∈ xs.foldl ch init, P z := by
  induction xs generalizing init with
  | nil => exact hinit
  | cons x xs ih =>
    rw [List.foldl_cons]
    exact ih (fun o ho => hxs o (List.mem_cons_of_mem _ ho)) (hch _ _ hinit (hxs x List.mem_cons_self))

namespace Flattening

def nests (parent child : String) : Bool :=
  (parent == "and" || parent == "or") && child == parent

theorem not_nests_of_ne {parent child : String} (h : child ≠ parent) : nests parent child = false := by
  simp [nests, h]

variable {α : Type} {F : Flattening α}

theorem combine_flat {flat : α → Prop}
    (hnode : ∀ t cs, flat (F.node t cs) ↔ ∀ c ∈ cs, ∀ y ∈ c, nests t (F.kind y) = false ∧ flat y)
    (hchildren : ∀ x, flat x → ∀ c ∈ F.children x, ∀ y ∈ c, nests (F.kind x) (F.kind y) = false ∧ flat y)
    (t : String) {xs : List (Option α)} (hxs : ∀ x ∈ xs, ∀ y ∈ x, flat y) :
    flat (F.combine t xs) := by
  rw [combine, hnode]
  intro c hc y hy
  obtain ⟨x, hx, hcx⟩ := List.mem_flatMap.mp hc
  cases x with
  | none => simp at hcx
  | some x =>
    simp only at hcx
    have hflat := hxs (some x) hx x rfl
    by_cases hk : F.kind x = t
    · -- an operand of the node's own type gives its children, which are of another type
      rw [if_pos hk] at hcx
      exact hk ▸ hchildren x hflat c hcx y hy
    · -- any other operand stands for itself
      rw [if_neg hk, List.mem_singleton] at hcx
      subst hcx
      rw [Option.mem_def, Option.some.injEq] at hy
      exact hy ▸ ⟨not_nests_of_ne hk, hflat⟩

theorem chain_flat {flat : α → Prop}
    (hnode : ∀ t cs, flat (F.node t cs) ↔ ∀ c ∈ cs, ∀ y ∈ c, nests t (F.kind y) = false ∧ flat y)
    (hchildren : ∀ x, flat x → ∀ c ∈ F.children x, ∀ y ∈ c, nests (F.kind x) (F.kind y) = false ∧ flat y)
    {x y : Option α} (hx : ∀ z ∈ x, flat z) (hy : ∀ z ∈ y, flat z) :
    ∀ z ∈ F.chain x y, flat z := by
  cases x with
  | none => simpa using hy
  | some x =>
    cases y with
    | none => simpa using hx
    | some y =>
      intro z hz
      rw [chain, Option.mem_def, Option.some.injEq] at hz
      subst hz
      refine combine_flat hnode hchildren "and" fun o ho w hw => ?_
      simp only [List.mem_cons, List.not_mem_nil, or_false] at ho
      rcases ho with rfl | rfl
      · exact hx w hw
      · exact hy w hw

end Flattening

namespace Filter

mutual

/-- Whether no `and` node of a filter has an `and` child and no `or` node an `or` child, at any
depth. -/
def flat : Filter → Bool
  | ⟨type, _, _, _, _, _, field, fields, _⟩ => flatChild type field && flatList type fields

def flatChild (parent : String) : Option Filter → Bool
  | none => true
  | some f => !Flattening.nests parent f.type && flat f

def flatList (parent : String) : List (Option Filter) → Bool
  | [] => true
  | c :: cs => flatChild parent c && flatList parent cs

end

theorem flatChild_iff {parent : String} {c : Option Filter} :
    flatChild parent c = true ↔ ∀ y ∈ c, Flattening.nests parent y.type = false ∧ y.flat = true := by
  cases c <;> simp [flatChild]

theorem flatList_iff {parent : String} {cs : List (Option Filter)} :
    flatList parent cs = true ↔
      ∀ c ∈ cs, ∀ y ∈ c, Flattening.nests parent y.type = false ∧ y.flat = true := by
  induction cs with
  | nil => simp [flatList]
  | cons c cs ih => simp [flatList, ih, flatChild_iff]

theorem flat_iff {f : Filter} :
    f.flat = true ↔ flatChild f.type f.field = true ∧ flatList f.type f.fields = true := by
  cases f
  simp [flat]

theorem flat_node (t : String) (cs : List (Option Filter)) :
    (flattening.node t cs).flat = true ↔
      ∀ c ∈ cs, ∀ y ∈ c, Flattening.nests t (flattening.kind y) = false ∧ y.flat = true := by
  show ({ type := t, fields := cs } : Filter).flat = true ↔ _
  rw [flat_iff]
  simp [flatChild, flatList_iff, flattening]

theorem flat_children (f : Filter) (hf : f.flat = true) :
    ∀ c ∈ flattening.children f, ∀ y ∈ c,
      Flattening.nests (flattening.kind f) (flattening.kind y) = false ∧ y.flat = true :=
  flatList_iff.mp (flat_iff.mp hf).2

@[simp] theorem flat_selector (dimension : String) (value : Value) : (selector dimension value).flat := rfl

@[simp] theorem flat_regex (dimension pattern : String) : (regex dimension pattern).flat := rfl

@[simp] theorem flat_javascript (dimension function : String) :
    (javascript dimension function).flat := rfl

@[simp] theorem flat_spatial (dimension : String) (bound : Bound) : (spatial dimension bound).flat := rfl

@[simp] theorem flat_negate (f : Option Filter) : (negate f).flat = (∀ g ∈ f, g.flat = true) := by
  cases f <;> simp [negate, flat, flatChild, flatList, Flattening.nests]

theorem combine_flat (t : String) {fs : List (Option Filter)} (hfs : ∀ f ∈ fs, ∀ g ∈ f, g.flat = true) :
    (combine t fs).flat := by
  rw [combine_eq]
  exact Flattening.combine_flat flat_node flat_children t hfs

theorem chain_flat {f g : Option Filter} (hf : ∀ x ∈ f, x.flat = true) (hg : ∀ x ∈ g, x.flat = true) :
    ∀ x ∈ chain f g, x.flat = true := by
  rw [chain_eq]
  exact Flattening.chain_flat flat_node flat_children hf hg

theorem flat_of_leaf {f : Filter} (hfield : f.field = none) (hfields : f.fields = []) : f.flat := by
  rw [flat_iff, hfield, hfields]
  exact ⟨rfl, rfl⟩

@[simp] theorem flat_matchValue (dimension : String) (v : Value) : (matchValue dimension v).flat := by
  cases v <;> rfl

theorem matchValue_type (dimension : String) (v : Value) :
    (matchValue dimension v).type = "selector" ∨ (matchValue dimension v).type = "regex" := by
  cases v <;> simp [matchValue, selector, regex]

theorem isIn_flat (dimension : String) (values : List Value) : (isIn dimension values).flat := by
  unfold isIn
  split
  · exact flat_matchValue dimension _
  · rw [flat_iff]
    simp only [flatChild, flatList_iff, List.mem_map, true_and, forall_exists_index, and_imp]
    rintro _ v - rfl y hy
    rw [Option.mem_def, Option.some.injEq] at hy
    subst hy
    refine ⟨Flattening.not_nests_of_ne ?_, flat_matchValue dimension v⟩
    rcases matchValue_type dimension v with h | h <;> simp [h]

theorem notIn_flat (dimension : String) (values : List Value) : (notIn dimension values).flat := by
  unfold notIn
  split
  · simp
  · rw [flat_iff]
    simp only [flatChild, flatList_iff, List.mem_map, true_and, forall_exists_index, and_imp]
    rintro _ v - rfl y hy
    rw [Option.mem_def, Option.some.injEq] at hy
    subst hy
    exact ⟨Flattening.not_nests_of_ne (by simp [negate]), by simp⟩

theorem ofMap_flat {entries : List (String × Value)} {mode : String} {f : Option Filter}
    (h : ofMap entries mode = .ok f) : ∀ g ∈ f, g.flat = true := by
  -- each key adds a flat membership or absence test to the chain built so far
  have hfold : ∀ (build : String → List Value → Filter), (∀ k v, (build k [v]).flat = true) →
      ∀ (xs : List (String × Value)) (acc : Option Filter), (∀ g ∈ acc, g.flat = true) →
      ∀ r : Option Filter, xs.foldlM (fun acc kv =>
        if (expandValues [kv.2]).isEmpty then (throw (MapError.emptyValues kv.1) : Except MapError _)
        else pure (chain acc (some (build kv.1 [kv.2])))) acc = .ok r → ∀ g ∈ r, g.flat = true := by
    intro build hbuild xs
    induction xs with
    | nil =>
      intro acc hacc r hr
      cases hr
      exact hacc
    | cons x xs ih =>
      intro acc hacc r hr
      rw [List.foldlM_cons] at hr
      obtain ⟨acc', hstep, hrest⟩ := bind_eq_ok hr
      split at hstep
      · cases hstep
      · cases hstep
        exact ih _ (chain_flat hacc (by simpa using hbuild x.1 x.2)) r hrest
  unfold ofMap at h
  simp only at h
  split at h
  · exact hfold isIn (fun k v => isIn_flat k [v]) _ none (by simp) f h
  · exact hfold isIn (fun k v => isIn_flat k [v]) _ none (by simp) f h
  · exact hfold notIn (fun k v => notIn_flat k [v]) _ none (by simp) f h
  · cases h

theorem readMembership_flat {left right : Expr.Node} {negated : Bool} {f : Filter}
    (h : readMembership left right negated = .ok f) : f.flat := by
  unfold readMembership at h
  split at h
  · split at h
    · obtain ⟨values, -, h⟩ := bind_eq_ok h
      cases h
      cases negated
      · exact isIn_flat _ _
      · exact notIn_flat _ _
    · cases h
  · cases h

theorem readCall_cases {n : Expr.Node} {f : Filter} (h : readCall n = .ok f) :
    (∃ dim s, f = regex dim s) ∨ (∃ dim s, f = javascript dim s) ∨
      (∃ dim centre radius, f = inCircle dim centre radius) ∨
        ∃ dim lo hi, f = inRectangle dim lo hi := by
  unfold readCall at h
  split at h
  · split at h
    · obtain ⟨⟨dim, s⟩, -, h⟩ := bind_eq_ok h
      cases h
      exact .inl ⟨dim, s, rfl⟩
    · split at h
      · obtain ⟨⟨dim, s⟩, -, h⟩ := bind_eq_ok h
        cases h
        exact .inr (.inl ⟨dim, s, rfl⟩)
      · -- `in_circ` and `in_rec`, through their argument checks
        split at h
        · split at h
          · split at h
            · split at h
              · split at h
                · split at h
                  · cases h
                    exact .inr (.inr (.inl ⟨_, _, _, rfl⟩))
                  · cases h
                · cases h
              · split at h
                · cases h
                  exact .inr (.inr (.inr ⟨_, _, _, rfl⟩))
                · cases h
            · cases h
          · cases h
        · cases h
  · cases h

theorem readCall_leaf {n : Expr.Node} {f : Filter} (h : readCall n = .ok f) :
    f.field = none ∧ f.fields = [] := by
  rcases readCall_cases h with ⟨_, _, rfl⟩ | ⟨_, _, rfl⟩ | ⟨_, _, _, rfl⟩ | ⟨_, _, _, rfl⟩ <;>
    exact ⟨rfl, rfl⟩

theorem ofNode_unary_flat {op : String} {operand : Expr.Node} {f : Filter}
    (ih : ∀ g, ofNode operand = .ok g → g.flat) (h : ofNode (.unary op operand) = .ok f) : f.flat := by
  unfold ofNode at h
  split at h
  · cases h
  · split at h
    · exact readMembership_flat h
    · obtain ⟨g, hg, rfl⟩ : ∃ g, ofNode operand = .ok g ∧ negate (some g) = f := by
        cases ho : ofNode operand with
        | error e => rw [ho] at h; cases h
        | ok g => rw [ho] at h; cases h; exact ⟨g, rfl, rfl⟩
      simpa using ih g hg

theorem ofNode_binary_flat {op : String} {left right : Expr.Node} {f : Filter}
    (ihl : ∀ g, ofNode left = .ok g → g.flat) (ihr : ∀ g, ofNode right = .ok g → g.flat)
    (h : ofNode (.binary op left right) = .ok f) : f.flat := by
  unfold ofNode at h
  simp only at h
  split at h
  · -- a combination of two flat operands
    obtain ⟨l, hl, h⟩ := bind_eq_ok h
    obtain ⟨r, hr, h⟩ := bind_eq_ok h
    cases h
    have hops : ∀ o ∈ [some l, some r], ∀ g ∈ o, g.flat = true := by
      simp [ihl l hl, ihr r hr]
    split
    · exact combine_flat "and" hops
    · exact combine_flat "or" hops
  · split at h
    · exact readMembership_flat h
    · split at h
      · -- `matches`
        split at h
        · cases h
        · split at h
          · cases h
            rfl
          · cases h
      · split at h
        · -- a comparison: a selector, its negation, or a script
          obtain ⟨⟨dim, v, o⟩, -, h⟩ := bind_eq_ok h
          cases h
          split
          · rfl
          · split
            · simp [neq, eq]
            · rfl
        · cases h

theorem ofNode_flat : ∀ {n : Expr.Node} {f : Filter}, ofNode n = .ok f → f.flat
  | .unary _ operand, _, h => ofNode_unary_flat (fun _ hg => ofNode_flat (n := operand) hg) h
  | .binary _ left right, _, h =>
    ofNode_binary_flat (fun _ hg => ofNode_flat (n := left) hg) (fun _ hg => ofNode_flat (n := right) hg) h
  | .call _ _, _, h => flat_of_leaf (readCall_leaf h).1 (readCall_leaf h).2
  | .identifier _, _, h | .integer _, _, h | .float _, _, h | .string _, _, h | .bool _, _, h
  | .nil, _, h | .array _, _, h | .map _, _, h | .pair .., _, h | .builtin .., _, h
  | .member .., _, h | .chain _, _, h | .slice .., _, h | .conditional .., _, h
  | .declaration .., _, h | .closure _, _, h | .pointer _, _, h => by cases h

theorem parse_flat {src : String} {f : Filter} (h : parse src = .ok f) : f.flat := by
  unfold parse at h
  obtain ⟨n, -, h⟩ := bind_eq_ok h
  cases ho : ofNode n with
  | error e => rw [ho] at h; cases h
  | ok g =>
    rw [ho] at h
    cases h
    exact ofNode_flat ho

end Filter

namespace Having

mutual

def flat : Having → Bool
  | ⟨type, _, _, spec, specs, _⟩ => flatChild type spec && flatList type specs

def flatChild (parent : String) : Option Having → Bool
  | none => true
  | some h => !Flattening.nests parent h.type && flat h

def flatList (parent : String) : List (Option Having) → Bool
  | [] => true
  | c :: cs => flatChild parent c && flatList parent cs

end

theorem flatChild_iff {parent : String} {c : Option Having} :
    flatChild parent c = true ↔ ∀ y ∈ c, Flattening.nests parent y.type = false ∧ y.flat = true := by
  cases c <;> simp [flatChild]

theorem flatList_iff {parent : String} {cs : List (Option Having)} :
    flatList parent cs = true ↔
      ∀ c ∈ cs, ∀ y ∈ c, Flattening.nests parent y.type = false ∧ y.flat = true := by
  induction cs with
  | nil => simp [flatList]
  | cons c cs ih => simp [flatList, ih, flatChild_iff]

theorem flat_iff {h : Having} :
    h.flat = true ↔ flatChild h.type h.havingSpec = true ∧ flatList h.type h.havingSpecs = true := by
  cases h
  simp [flat]

theorem flat_node (t : String) (cs : List (Option Having)) :
    (flattening.node t cs).flat = true ↔
      ∀ c ∈ cs, ∀ y ∈ c, Flattening.nests t (flattening.kind y) = false ∧ y.flat = true := by
  show ({ type := t, havingSpecs := cs } : Having).flat = true ↔ _
  rw [flat_iff]
  simp [flatChild, flatList_iff, flattening]

theorem flat_children (h : Having) (hf : h.flat = true) :
    ∀ c ∈ flattening.children h, ∀ y ∈ c,
      Flattening.nests (flattening.kind h) (flattening.kind y) = false ∧ y.flat = true :=
  flatList_iff.mp (flat_iff.mp hf).2

@[simp] theorem flat_equalTo (aggregation : String) (value : Value) :
    (equalTo aggregation value).flat := rfl

@[simp] theorem flat_greaterThan (aggregation : String) (value : Value) :
    (greaterThan aggregation value).flat := rfl

@[simp] theorem flat_lessThan (aggregation : String) (value : Value) :
    (lessThan aggregation value).flat := rfl

@[simp] theorem flat_negate (h : Option Having) : (negate h).flat = (∀ g ∈ h, g.flat = true) := by
  cases h <;> simp [negate, flat, flatChild, flatList, Flattening.nests]

@[simp] theorem flat_notEqualTo (aggregation : String) (value : Value) :
    (notEqualTo aggregation value).flat := by
  simp [notEqualTo]

theorem combine_flat (t : String) {hs : List (Option Having)} (hhs : ∀ h ∈ hs, ∀ g ∈ h, g.flat = true) :
    (combine t hs).flat := by
  rw [combine_eq]
  exact Flattening.combine_flat flat_node flat_children t hhs

theorem chain_flat {h g : Option Having} (hh : ∀ x ∈ h, x.flat = true) (hg : ∀ x ∈ g, x.flat = true) :
    ∀ x ∈ chain h g, x.flat = true := by
  rw [chain_eq]
  exact Flattening.chain_flat flat_node flat_children hh hg

theorem comparisonSpec_flat (name o : String) (value : Value) :
    (if o = "==" then equalTo name value else if o = "!=" then notEqualTo name value
      else if o = ">" then greaterThan name value else lessThan name value).flat := by
  split
  · simp
  · split
    · simp
    · split <;> simp

theorem readComparison_flat {n left right : Expr.Node} {op : String} {h : Having}
    (hr : readComparison n left right op = .ok h) : h.flat := by
  unfold readComparison at hr
  simp only at hr
  -- whichever side names the aggregation, the spec is built from the literal on the other
  split at hr
  · obtain ⟨_, hx, hr⟩ := bind_eq_ok hr
    cases hx
    split at hr <;> cases hr
    exact comparisonSpec_flat _ _ _
  · split at hr
    · obtain ⟨_, hx, hr⟩ := bind_eq_ok hr
      cases hx
      split at hr <;> cases hr
      exact comparisonSpec_flat _ _ _
    · cases hr

theorem ofNode_unary_flat {op : String} {operand : Expr.Node} {h : Having}
    (ih : ∀ g, ofNode operand = .ok g → g.flat) (hr : ofNode (.unary op operand) = .ok h) : h.flat := by
  unfold ofNode at hr
  split at hr
  · cases hr
  · obtain ⟨g, hg, rfl⟩ : ∃ g, ofNode operand = .ok g ∧ negate (some g) = h := by
      cases ho : ofNode operand with
      | error e => rw [ho] at hr; cases hr
      | ok g => rw [ho] at hr; cases hr; exact ⟨g, rfl, rfl⟩
    simpa using ih g hg

theorem ofNode_binary_flat {op : String} {left right : Expr.Node} {h : Having}
    (ihl : ∀ g, ofNode left = .ok g → g.flat) (ihr : ∀ g, ofNode right = .ok g → g.flat)
    (hr : ofNode (.binary op left right) = .ok h) : h.flat := by
  unfold ofNode at hr
  simp only at hr
  split at hr
  · -- a combination of two flat operands
    obtain ⟨l, hl, hr⟩ := bind_eq_ok hr
    obtain ⟨r, hr', hr⟩ := bind_eq_ok hr
    cases hr
    have hops : ∀ o ∈ [some l, some r], ∀ g ∈ o, g.flat = true := by
      simp [ihl l hl, ihr r hr']
    split
    · exact combine_flat "and" hops
    · exact combine_flat "or" hops
  · split at hr
    · exact readComparison_flat hr
    · cases hr

theorem ofNode_flat : ∀ {n : Expr.Node} {h : Having}, ofNode n = .ok h → h.flat
  | .unary _ operand, _, hr => ofNode_unary_flat (fun _ hg => ofNode_flat (n := operand) hg) hr
  | .binary _ left right, _, hr =>
    ofNode_binary_flat (fun _ hg => ofNode_flat (n := left) hg) (fun _ hg => ofNode_flat (n := right) hg) hr
  | .identifier _, _, hr | .integer _, _, hr | .float _, _, hr | .string _, _, hr
  | .bool _, _, hr | .nil, _, hr | .array _, _, hr | .map _, _, hr | .pair .., _, hr
  | .call .., _, hr | .builtin .., _, hr | .member .., _, hr | .chain _, _, hr
  | .slice .., _, hr | .conditional .., _, hr | .declaration .., _, hr | .closure _, _, hr
  | .pointer _, _, hr => by cases hr

theorem parse_flat {src : String} {h : Having} (hp : parse src = .ok h) : h.flat := by
  unfold parse at hp
  obtain ⟨n, -, hp⟩ := bind_eq_ok hp
  cases ho : ofNode n with
  | error e => rw [ho] at hp; cases hp
  | ok g =>
    rw [ho] at hp
    cases hp
    exact ofNode_flat ho

end Having

namespace Builder

theorem addedFilters_flat {c : Call} {f : Option Filter} (hc : f ∈ c.addedFilters)
    (hgiven : ∀ g, c = .filter (some g) → g.flat) : ∀ g ∈ f, g.flat = true := by
  intro g hg
  rw [Option.mem_def] at hg
  subst hg
  cases c with
  | filter f' =>
    rw [Call.addedFilters, List.mem_singleton] at hc
    exact hgiven g (hc ▸ rfl)
  | filterExpr src =>
    simp only [Call.addedFilters] at hc
    split at hc
    · rename_i f' hparse
      rw [List.mem_singleton, Option.some.injEq] at hc
      exact hc ▸ Filter.parse_flat hparse
    · simp at hc
  | filterMap entries mode =>
    simp only [Call.addedFilters] at hc
    split at hc
    · rename_i f' hmap
      rw [List.mem_singleton] at hc
      exact Filter.ofMap_flat hmap g (hc ▸ rfl)
    · simp at hc
  | _ => simp [Call.addedFilters] at hc

theorem addedHavings_flat {c : Call} {h : Option Having} (hc : h ∈ c.addedHavings)
    (hgiven : ∀ g, c = .having (some g) → g.flat) : ∀ g ∈ h, g.flat = true := by
  intro g hg
  rw [Option.mem_def] at hg
  subst hg
  cases c with
  | having h' =>
    rw [Call.addedHavings, List.mem_singleton] at hc
    exact hgiven g (hc ▸ rfl)
  | havingExpr src =>
    simp only [Call.addedHavings] at hc
    split at hc
    · rename_i h' hparse
      rw [List.mem_singleton, Option.some.injEq] at hc
      exact hc ▸ Having.parse_flat hparse
    · simp at hc
  | _ => simp [Call.addedHavings] at hc

theorem run_filter_flat (b : Builder) (calls : List Call) (hb : ∀ f ∈ b.query.filter, f.flat = true)
    (hgiven : ∀ f, Call.filter (some f) ∈ calls → f.flat) :
    ∀ f ∈ (b.run calls).query.filter, f.flat = true := by
  rw [run_filter]
  refine foldl_chain_keeps (fun _ _ => Filter.chain_flat) (fun x hx => ?_) hb
  obtain ⟨c, hc, hx⟩ := List.mem_flatMap.mp hx
  exact addedFilters_flat hx fun g hg => hgiven g (hg ▸ hc)

theorem run_having_flat (b : Builder) (calls : List Call) (hb : ∀ h ∈ b.query.having, h.flat = true)
    (hgiven : ∀ h, Call.having (some h) ∈ calls → h.flat) :
    ∀ h ∈ (b.run calls).query.having, h.flat = true := by
  rw [run_having]
  refine foldl_chain_keeps (fun _ _ => Having.chain_flat) (fun x hx => ?_) hb
  obtain ⟨c, hc, hx⟩ := List.mem_flatMap.mp hx
  exact addedHavings_flat hx fun g hg => hgiven g (hg ▸ hc)

end Builder

/-- Every constructor and combinator of filters and having specs gives a flat tree from flat
operands: leaves, negations, `and`, `or`, chaining, membership and absence tests, comparisons and
spatial bounds. So every tree the two text parsers and the dictionary filter return is flat, and a
builder whose filter and having clause are flat, given flat clauses, keeps them flat through any
calls. -/
theorem constructors_keep_trees_flat :
    (∀ d v, (Filter.selector d v).flat ∧ (Filter.eq d v).flat ∧ (Filter.neq d v).flat) ∧
    (∀ d p, (Filter.regex d p).flat) ∧ (∀ d s, (Filter.javascript d s).flat) ∧
    (∀ d b, (Filter.spatial d b).flat) ∧
    (∀ d vs, (Filter.isIn d vs).flat ∧ (Filter.notIn d vs).flat) ∧
    (∀ d op v, (Filter.compare d op v).flat) ∧
    (∀ d c r, (Filter.inCircle d c r).flat) ∧ (∀ d lo hi, (Filter.inRectangle d lo hi).flat) ∧
    (∀ f : Option Filter, (∀ g ∈ f, g.flat) → (Filter.negate f).flat) ∧
    (∀ fs : List (Option Filter), (∀ f ∈ fs, ∀ g ∈ f, g.flat) →
      (Filter.all fs).flat ∧ (Filter.any fs).flat) ∧
    (∀ f g : Option Filter, (∀ x ∈ f, x.flat) → (∀ x ∈ g, x.flat) →
      ∀ x ∈ Filter.chain f g, x.flat) ∧
    (∀ entries mode (f : Option Filter), Filter.ofMap entries mode = .ok f → ∀ g ∈ f, g.flat) ∧
    (∀ src (f : Filter), Filter.parse src = .ok f → f.flat) ∧
    (∀ a v, (Having.equalTo a v).flat ∧ (Having.notEqualTo a v).flat ∧
      (Having.greaterThan a v).flat ∧ (Having.lessThan a v).flat) ∧
    (∀ h : Option Having, (∀ g ∈ h, g.flat) → (Having.negate h).flat) ∧
    (∀ hs : List (Option Having), (∀ h ∈ hs, ∀ g ∈ h, g.flat) →
      (Having.all hs).flat ∧ (Having.any hs).flat) ∧
    (∀ h g : Option Having, (∀ x ∈ h, x.flat) → (∀ x ∈ g, x.flat) →
      ∀ x ∈ Having.chain h g, x.flat) ∧
    (∀ src (h : Having), Having.parse src = .ok h → h.flat) ∧
    (∀ (b : Builder) (calls : List Call), (∀ f ∈ b.query.filter, f.flat) →
      (∀ h ∈ b.query.having, h.flat) → (∀ f, Call.filter (some f) ∈ calls → f.flat) →
      (∀ h, Call.having (some h) ∈ calls → h.flat) →
      (∀ f ∈ (b.run calls).query.filter, f.flat) ∧ (∀ h ∈ (b.run calls).query.having, h.flat)) := by
  refine ⟨fun d v => ⟨rfl, rfl, by simp [Filter.neq, Filter.eq]⟩, fun _ _ => rfl, fun _ _ => rfl,
    fun _ _ => rfl, fun d vs => ⟨Filter.isIn_flat d vs, Filter.notIn_flat d vs⟩,
    fun _ _ _ => rfl, fun _ _ _ => rfl, fun _ _ _ => rfl, fun f hf => by simpa using hf,
    fun fs hfs => ⟨Filter.combine_flat "and" hfs, Filter.combine_flat "or" hfs⟩,
    fun _ _ => Filter.chain_flat, fun _ _ _ => Filter.ofMap_flat, fun _ _ => Filter.parse_flat,
    fun a v => ⟨rfl, by simp, rfl, rfl⟩, fun h hh => by simpa using hh,
    fun hs hhs => ⟨Having.combine_flat "and" hhs, Having.combine_flat "or" hhs⟩,
    fun _ _ => Having.chain_flat, fun _ _ => Having.parse_flat, ?_⟩
  intro b calls hf hh hgf hgh
  exact ⟨Builder.run_filter_flat b calls hf hgf, Builder.run_having_flat b calls hh hgh⟩

theorem text_and_dictionary_clauses_flat :
    let b := Builder.create ⟨1359203400, 0, 0⟩ []
    let calls := [Call.filter (some (Filter.isIn "country" [.str "DE", .str "FR"])),
      .filterExpr "a > 1 && (b == 2 && c not in [3, 4])", .filterMap [("d", .int 1)] "nin",
      .having (some (Having.notEqualTo "total" (.int 0))), .havingExpr "x > 1 || y < 2"]
    ((∀ f ∈ b.query.filter, f.flat) ∧ (∀ h ∈ b.query.having, h.flat) ∧
      (∀ f, Call.filter (some f) ∈ calls → f.flat) ∧ (∀ h, Call.having (some h) ∈ calls → h.flat)) ∧
    (∀ f ∈ (b.run calls).query.filter, f.flat) ∧ (∀ h ∈ (b.run calls).query.having, h.flat) := by
  intro b calls
  have hfresh : b.query.filter = none ∧ b.query.having = none := by
    have h := Builder.create_contents ⟨1359203400, 0, 0⟩ []
    exact ⟨congrArg (fun x => x.2.2.1) h, congrArg (fun x => x.2.2.2) h⟩
  have hgiven : (∀ f ∈ b.query.filter, f.flat) ∧ (∀ h ∈ b.query.having, h.flat) ∧
      (∀ f, Call.filter (some f) ∈ calls → f.flat) ∧ (∀ h, Call.having (some h) ∈ calls → h.flat) := by
    refine ⟨by simp [hfresh.1], by simp [hfresh.2], fun f hf => ?_, fun h hh => ?_⟩
    · simp only [calls, List.mem_cons, List.not_mem_nil, or_false, reduceCtorEq, Call.filter.injEq,
        Option.some.injEq] at hf
      rw [hf]
      rfl
    · simp only [calls, List.mem_cons, List.not_mem_nil, or_false, reduceCtorEq, Call.having.injEq,
        Option.some.injEq, false_or] at hh
      rw [hh]
      rfl
  exact ⟨hgiven, constructors_keep_trees_flat.2.2.2.2.2.2.2.2.2.2.2.2.2.2.2.2.2.2 b calls
    hgiven.1 hgiven.2.1 hgiven.2.2.1 hgiven.2.2.2⟩

end DruidQuery
