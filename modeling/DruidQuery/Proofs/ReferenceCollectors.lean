import DruidQuery.Proofs.Clauses

namespace DruidQuery

theorem appendNew_append (acc l m : List String) :
    appendNew acc (l ++ m) = appendNew (appendNew acc l) m :=
  List.foldl_append

theorem appendNew_concat (acc l : List String) (n : String) :
    appendNew acc (l ++ [n]) =
      if (appendNew acc l).contains n then appendNew acc l else appendNew acc l ++ [n] := by
  rw [appendNew_append]
  rfl

theorem mem_appendNew {acc l : List String} {n : String} :
    n ∈ appendNew acc l ↔ n ∈ acc ∨ n ∈ l := by
  induction l using List.reverseRecOn generalizing n with
  | nil => simp [appendNew]
  | append_singleton l m ih =>
    rw [appendNew_concat]
    split
    · rename_i hm
      have hm' : m ∈ acc ∨ m ∈ l := ih.mp (by simpa using hm)
      rw [ih, List.mem_append, List.mem_singleton]
      constructor
      · rintro (h | h)
        · exact .inl h
        · exact .inr (.inl h)
      · rintro (h | h | rfl)
        · exact .inl h
        · exact .inr h
        · exact hm'
    · rw [List.mem_append, ih, List.mem_append, List.mem_singleton, or_assoc]

theorem appendNew_nil_eq_eraseDups (l : List String) : appendNew [] l = l.eraseDups := by
  induction l using List.reverseRecOn with
  | nil => rfl
  | append_singleton l n ih =>
    rw [appendNew_concat, ih, List.eraseDups_append]
    by_cases hn : n ∈ l
    · simp [List.removeAll, hn, List.mem_eraseDups]
    · have hrem : [n].removeAll l = [n] := by simp [List.removeAll, hn]
      simp only [hrem, List.mem_eraseDups, hn, List.contains_iff_mem, if_false]
      rfl

theorem appendNew_eraseDups (acc l : List String) : appendNew acc l.eraseDups = appendNew acc l := by
  induction l using List.reverseRecOn with
  | nil => rfl
  | append_singleton l n ih =>
    rw [List.eraseDups_append, appendNew_append, ih, appendNew_concat]
    by_cases hn : n ∈ l
    · have hin : (appendNew acc l).contains n = true := by
        simpa using mem_appendNew.mpr (.inr hn)
      have hrem : [n].removeAll l = [] := by simp [List.removeAll, hn]
      rw [hrem, if_pos hin]
      rfl
    · have hrem : [n].removeAll l = [n] := by simp [List.removeAll, hn]
      rw [hrem]
      rfl

theorem eraseDups_flatMap_eraseDups {γ : Type} (L : List γ) (g : γ → List String) :
    (L.flatMap fun x => (g x).eraseDups).eraseDups = (L.flatMap g).eraseDups := by
  rw [← appendNew_nil_eq_eraseDups, ← appendNew_nil_eq_eraseDups]
  suffices h : ∀ acc, appendNew acc (L.flatMap fun x => (g x).eraseDups) = appendNew acc (L.flatMap g) from
    h []
  induction L with
  | nil => intro acc; rfl
  | cons x L ih =>
    intro acc
    rw [List.flatMap_cons, List.flatMap_cons, appendNew_append, appendNew_append, appendNew_eraseDups, ih]

theorem eraseDups_eraseDups (l : List String) : l.eraseDups.eraseDups = l.eraseDups := by
  simpa using eraseDups_flatMap_eraseDups [l] id

namespace Flattening

variable {α β : Type} {F : Flattening α}

theorem refs_combine {refs : Option α → List β} {t : String} (hnone : refs none = [])
    (hnode : ∀ cs, refs (some (F.node t cs)) = cs.flatMap refs) {xs : List (Option α)}
    (hbare : ∀ x, some x ∈ xs → F.kind x = t → refs (some x) = (F.children x).flatMap refs) :
    refs (some (F.combine t xs)) = xs.flatMap refs := by
  rw [combine, hnode, operands, List.flatMap_assoc]
  apply List.flatMap_congr
  intro c hc
  cases c with
  | none => simp [hnone]
  | some x =>
    dsimp only
    split
    · rename_i hk
      exact (hbare x hc hk).symm
    · simp

theorem flatMap_reduceOption {refs : Option α → List β} (hnone : refs none = [])
    (xs : List (Option α)) : xs.reduceOption.flatMap (fun x => refs (some x)) = xs.flatMap refs := by
  induction xs with
  | nil => rfl
  | cons c cs ih =>
    cases c with
    | none => simp [List.reduceOption_cons_of_none, hnone, ih]
    | some x => simp [List.reduceOption_cons_of_some, ih]

theorem refs_accumulated {refs : Option α → List β} (hnone : refs none = [])
    (hnode : ∀ cs, refs (some (F.node "and" cs)) = cs.flatMap refs) {xs : List (Option α)}
    (hbare : ∀ x, some x ∈ xs → F.kind x = "and" → refs (some x) = (F.children x).flatMap refs) :
    refs (F.accumulated xs) = xs.flatMap refs := by
  rw [← flatMap_reduceOption hnone, accumulated]
  have hbare' : ∀ x, some x ∈ xs.reduceOption.map some → F.kind x = "and" →
      refs (some x) = (F.children x).flatMap refs := by
    intro x hx
    simp only [List.mem_map, Option.some.injEq, exists_eq_right] at hx
    exact hbare x (List.reduceOption_mem_iff.mp hx)
  rcases hr : xs.reduceOption with _ | ⟨x, _ | ⟨x', rest⟩⟩
  · simp [hnone]
  · simp
  · -- more than one clause: the `and` node is the combination of the clauses
    rw [hr] at hbare'
    have hcomb := refs_combine hnone hnode hbare'
    simp only [combine, operands, List.flatMap_map] at hcomb
    dsimp only
    rw [hcomb]

end Flattening

namespace Filter

mutual

def dimensionRefs : Filter → List String
  | ⟨_, dimension, _, _, _, _, field, fields, _⟩ =>
    (if dimension.isEmpty then [] else [dimension]) ++ dimensionRefsOfChild field ++
      dimensionRefsOfList fields

def dimensionRefsOfChild : Option Filter → List String
  | none => []
  | some f => dimensionRefs f

def dimensionRefsOfList : List (Option Filter) → List String
  | [] => []
  | c :: cs => dimensionRefsOfChild c ++ dimensionRefsOfList cs

end

theorem dimensionRefsOfList_eq (cs : List (Option Filter)) :
    dimensionRefsOfList cs = cs.flatMap dimensionRefsOfChild := by
  induction cs with
  | nil => rfl
  | cons c cs ih => rw [dimensionRefsOfList, ih, List.flatMap_cons]

mutual

theorem dimensionsInto_eq (acc : List String) :
    ∀ f : Filter, f.dimensionsInto acc = appendNew acc f.dimensionRefs
  | ⟨_, dimension, _, _, _, _, field, fields, _⟩ => by
    have hown : (if dimension.isEmpty then acc else appendNew acc [dimension]) =
        appendNew acc (if dimension.isEmpty then [] else [dimension]) := by
      split <;> rfl
    rw [dimensionsInto, dimensionRefs, hown, dimensionsOfChild_eq, dimensionsOfList_eq,
      appendNew_append, appendNew_append]

theorem dimensionsOfChild_eq (acc : List String) :
    ∀ c : Option Filter, dimensionsOfChild acc c = appendNew acc (dimensionRefsOfChild c)
  | none => rfl
  | some f => dimensionsInto_eq acc f

theorem dimensionsOfList_eq (acc : List String) :
    ∀ cs : List (Option Filter), dimensionsOfList acc cs = appendNew acc (dimensionRefsOfList cs)
  | [] => rfl
  | c :: cs => by
    rw [dimensionsOfList, dimensionRefsOfList, dimensionsOfChild_eq, dimensionsOfList_eq,
      appendNew_append]

end

theorem elim_dimensions (c : Option Filter) :
    c.elim [] dimensions = (dimensionRefsOfChild c).eraseDups := by
  cases c with
  | none => rfl
  | some f => simp [dimensions, dimensionsInto_eq, dimensionRefsOfChild, appendNew_nil_eq_eraseDups]

theorem eraseDups_dimensions (f : Filter) : f.dimensions.eraseDups = f.dimensions := by
  have h := elim_dimensions (some f)
  rw [Option.elim_some] at h
  rw [h, eraseDups_eraseDups]

theorem dimensionRefs_node (t : String) (cs : List (Option Filter)) :
    dimensionRefsOfChild (some (flattening.node t cs)) = cs.flatMap dimensionRefsOfChild := by
  simp [flattening, dimensionRefsOfChild, dimensionRefs, dimensionRefsOfList_eq]

theorem dimensionRefs_bare {f : Filter} (hd : f.dimension = "") (hf : f.field = none) :
    dimensionRefsOfChild (some f) = (flattening.children f).flatMap dimensionRefsOfChild := by
  obtain ⟨_, dimension, _, _, _, _, field, fields, _⟩ := f
  simp only at hd hf
  subst hd hf
  simp [flattening, dimensionRefsOfChild, dimensionRefs, dimensionRefsOfList_eq]

theorem dimensions_combine {t : String} {xs : List (Option Filter)}
    (hbare : ∀ x ∈ xs, ∀ f ∈ x, f.type = t → f.dimension = "" ∧ f.field = none) :
    (combine t xs).dimensions = (xs.flatMap fun x => x.elim [] dimensions).eraseDups := by
  have h := elim_dimensions (some (combine t xs))
  rw [Option.elim_some, combine_eq, Flattening.refs_combine rfl (dimensionRefs_node t)] at h
  · rw [combine_eq, h, ← eraseDups_flatMap_eraseDups]
    simp only [elim_dimensions]
  · intro f hf hk
    obtain ⟨hd, hfield⟩ := hbare (some f) hf f rfl hk
    exact dimensionRefs_bare hd hfield

theorem dimensions_chain {x y : Option Filter}
    (hx : ∀ f ∈ x, f.type = "and" → f.dimension = "" ∧ f.field = none)
    (hy : ∀ f ∈ y, f.type = "and" → f.dimension = "" ∧ f.field = none) :
    (chain x y).elim [] dimensions = (x.elim [] dimensions ++ y.elim [] dimensions).eraseDups := by
  cases x with
  | none => cases y <;> simp [chain, eraseDups_dimensions]
  | some f =>
    cases y with
    | none => simp [chain, eraseDups_dimensions]
    | some g =>
      have hbare : ∀ c ∈ [some f, some g], ∀ h ∈ c, h.type = "and" → h.dimension = "" ∧ h.field = none := by
        simp only [List.mem_cons, List.not_mem_nil, or_false]
        rintro c (rfl | rfl)
        · exact hx
        · exact hy
      simp [chain, all, dimensions_combine hbare]

end Filter

namespace Having

mutual

def aggregationRefs : Having → List String
  | ⟨_, aggregation, _, spec, specs, _⟩ =>
    (if aggregation.isEmpty then [] else [aggregation]) ++ aggregationRefsOfChild spec ++
      aggregationRefsOfList specs

def aggregationRefsOfChild : Option Having → List String
  | none => []
  | some h => aggregationRefs h

def aggregationRefsOfList : List (Option Having) → List String
  | [] => []
  | c :: cs => aggregationRefsOfChild c ++ aggregationRefsOfList cs

end

theorem aggregationRefsOfList_eq (cs : List (Option Having)) :
    aggregationRefsOfList cs = cs.flatMap aggregationRefsOfChild := by
  induction cs with
  | nil => rfl
  | cons c cs ih => rw [aggregationRefsOfList, ih, List.flatMap_cons]

mutual

theorem aggregationsInto_eq (acc : List String) :
    ∀ h : Having, h.aggregationsInto acc = appendNew acc h.aggregationRefs
  | ⟨_, aggregation, _, spec, specs, _⟩ => by
    have hown : (if aggregation.isEmpty then acc else appendNew acc [aggregation]) =
        appendNew acc (if aggregation.isEmpty then [] else [aggregation]) := by
      split <;> rfl
    rw [aggregationsInto, aggregationRefs, hown, aggregationsOfChild_eq, aggregationsOfList_eq,
      appendNew_append, appendNew_append]

theorem aggregationsOfChild_eq (acc : List String) :
    ∀ c : Option Having, aggregationsOfChild acc c = appendNew acc (aggregationRefsOfChild c)
  | none => rfl
  | some h => aggregationsInto_eq acc h

theorem aggregationsOfList_eq (acc : List String) :
    ∀ cs : List (Option Having), aggregationsOfList acc cs = appendNew acc (aggregationRefsOfList cs)
  | [] => rfl
  | c :: cs => by
    rw [aggregationsOfList, aggregationRefsOfList, aggregationsOfChild_eq, aggregationsOfList_eq,
      appendNew_append]

end

theorem elim_aggregations (c : Option Having) :
    c.elim [] aggregations = (aggregationRefsOfChild c).eraseDups := by
  cases c with
  | none => rfl
  | some h =>
    simp [aggregations, aggregationsInto_eq, aggregationRefsOfChild, appendNew_nil_eq_eraseDups]

theorem eraseDups_aggregations (h : Having) : h.aggregations.eraseDups = h.aggregations := by
  have he := elim_aggregations (some h)
  rw [Option.elim_some] at he
  rw [he, eraseDups_eraseDups]

theorem aggregationRefs_node (t : String) (cs : List (Option Having)) :
    aggregationRefsOfChild (some (flattening.node t cs)) = cs.flatMap aggregationRefsOfChild := by
  simp [flattening, aggregationRefsOfChild, aggregationRefs, aggregationRefsOfList_eq]

theorem aggregationRefs_bare {h : Having} (ha : h.aggregation = "") (hs : h.havingSpec = none) :
    aggregationRefsOfChild (some h) = (flattening.children h).flatMap aggregationRefsOfChild := by
  obtain ⟨_, aggregation, _, spec, specs, _⟩ := h
  simp only at ha hs
  subst ha hs
  simp [flattening, aggregationRefsOfChild, aggregationRefs, aggregationRefsOfList_eq]

theorem aggregations_combine {t : String} {xs : List (Option Having)}
    (hbare : ∀ x ∈ xs, ∀ h ∈ x, h.type = t → h.aggregation = "" ∧ h.havingSpec = none) :
    (combine t xs).aggregations = (xs.flatMap fun x => x.elim [] aggregations).eraseDups := by
  have h := elim_aggregations (some (combine t xs))
  rw [Option.elim_some, combine_eq, Flattening.refs_combine rfl (aggregationRefs_node t)] at h
  · rw [combine_eq, h, ← eraseDups_flatMap_eraseDups]
    simp only [elim_aggregations]
  · intro g hg hk
    obtain ⟨ha, hs⟩ := hbare (some g) hg g rfl hk
    exact aggregationRefs_bare ha hs

theorem aggregations_chain {x y : Option Having}
    (hx : ∀ h ∈ x, h.type = "and" → h.aggregation = "" ∧ h.havingSpec = none)
    (hy : ∀ h ∈ y, h.type = "and" → h.aggregation = "" ∧ h.havingSpec = none) :
    (chain x y).elim [] aggregations =
      (x.elim [] aggregations ++ y.elim [] aggregations).eraseDups := by
  cases x with
  | none => cases y <;> simp [chain, eraseDups_aggregations]
  | some f =>
    cases y with
    | none => simp [chain, eraseDups_aggregations]
    | some g =>
      have hbare : ∀ c ∈ [some f, some g], ∀ h ∈ c,
          h.type = "and" → h.aggregation = "" ∧ h.havingSpec = none := by
        simp only [List.mem_cons, List.not_mem_nil, or_false]
        rintro c (rfl | rfl)
        · exact hx
        · exact hy
      simp [chain, all, aggregations_combine hbare]

end Having

namespace PostAggregation

def ownRefs (type fieldName : String) (fieldNames : List String) : List String :=
  if type = "fieldAccess" then (if fieldName.isEmpty then [] else [fieldName])
  else if type = "javascript" then fieldNames.filter fun n => !n.isEmpty
  else []

mutual

def requiredRefs : PostAggregation → List String
  | ⟨type, _, _, _, fieldName, fieldNames, _, _, fields, field, _, _, _, _, _, _, _, _, _, _⟩ =>
    ownRefs type fieldName fieldNames ++ requiredRefsOfList fields ++ requiredRefsOfChild field

def requiredRefsOfChild : Option PostAggregation → List String
  | none => []
  | some p => requiredRefs p

def requiredRefsOfList : List (Option PostAggregation) → List String
  | [] => []
  | c :: cs => requiredRefsOfChild c ++ requiredRefsOfList cs

end

theorem foldl_addRequired (acc names : List String) :
    names.foldl addRequired acc = appendNew acc (names.filter fun n => !n.isEmpty) := by
  induction names generalizing acc with
  | nil => rfl
  | cons n names ih =>
    rw [List.foldl_cons, ih, List.filter_cons, addRequired]
    by_cases hn : n.isEmpty <;> simp [hn, appendNew]

theorem own_eq (acc : List String) (type fieldName : String) (fieldNames : List String) :
    (if type = "fieldAccess" then addRequired acc fieldName
      else if type = "javascript" then fieldNames.foldl addRequired acc
      else acc) = appendNew acc (ownRefs type fieldName fieldNames) := by
  unfold ownRefs addRequired
  split
  · split <;> rfl
  · split
    · exact foldl_addRequired acc fieldNames
    · rfl

mutual

theorem requiredInto_eq (acc : List String) :
    ∀ p : PostAggregation, p.requiredInto acc = appendNew acc p.requiredRefs
  | ⟨type, _, _, _, fieldName, fieldNames, _, _, fields, field, _, _, _, _, _, _, _, _, _, _⟩ => by
    rw [requiredInto, requiredRefs, own_eq, requiredOfList_eq, requiredOfChild_eq,
      appendNew_append, appendNew_append]

theorem requiredOfChild_eq (acc : List String) :
    ∀ c : Option PostAggregation, requiredOfChild acc c = appendNew acc (requiredRefsOfChild c)
  | none => rfl
  | some p => requiredInto_eq acc p

theorem requiredOfList_eq (acc : List String) :
    ∀ cs : List (Option PostAggregation), requiredOfList acc cs = appendNew acc (requiredRefsOfList cs)
  | [] => rfl
  | c :: cs => by
    rw [requiredOfList, requiredRefsOfList, requiredOfChild_eq, requiredOfList_eq, appendNew_append]

end

theorem elim_requiredFields (c : Option PostAggregation) :
    c.elim [] requiredFields = (requiredRefsOfChild c).eraseDups := by
  cases c with
  | none => rfl
  | some p =>
    simp [requiredFields, requiredInto_eq, requiredRefsOfChild, appendNew_nil_eq_eraseDups]

theorem requiredFields_arithmetic (fn : String) (l r : Option PostAggregation) :
    (arithmetic fn l r).requiredFields =
      (l.elim [] requiredFields ++ r.elim [] requiredFields).eraseDups := by
  have h := elim_requiredFields (some (arithmetic fn l r))
  rw [Option.elim_some] at h
  rw [h, elim_requiredFields, elim_requiredFields]
  simpa [arithmetic, requiredRefsOfChild, requiredRefs, requiredRefsOfList, ownRefs] using
    (eraseDups_flatMap_eraseDups [l, r] requiredRefsOfChild).symm

theorem requiredFields_named (p : PostAggregation) (name : String) :
    (p.named name).requiredFields = p.requiredFields := by
  cases p
  rfl

end PostAggregation

namespace Builder

theorem run_dimensions (clock : Time.Moment) (options : List BuilderOption) (calls : List Call)
    (hbare : ∀ f ∈ calls.flatMap Call.addedFilters, ∀ g ∈ f,
      g.type = "and" → g.dimension = "" ∧ g.field = none) :
    ((create clock options).run calls).query.filter.elim [] Filter.dimensions =
      ((calls.flatMap Call.addedFilters).flatMap fun f => f.elim [] Filter.dimensions).eraseDups := by
  have hfresh : (create clock options).query.filter = none :=
    congrArg (fun x => x.2.2.1) (create_contents clock options)
  rw [run_filter, hfresh, foldl_filter_chain, Filter.elim_dimensions,
    Flattening.refs_accumulated rfl (Filter.dimensionRefs_node "and"), ← eraseDups_flatMap_eraseDups]
  · simp only [Filter.elim_dimensions]
  · intro f hf hk
    obtain ⟨hd, hfield⟩ := hbare (some f) hf f rfl hk
    exact Filter.dimensionRefs_bare hd hfield

end Builder

/-- The dimensions of `and`, `or` and `chain` of two filters whose `and` and `or` nodes carry no
dimension and no `field` (as every tree the constructors and the parsers build) are the operands'
dimensions one after the other, repeats erased and first occurrences kept; likewise the
aggregations of having specs. Arithmetic reads the fields its two operands read, in the same way,
and naming a post-aggregation changes none. So the dimensions of a builder's filter are those of
the filters its calls added, in the order of the calls, without repeats. -/
theorem collectors_distribute_over_combinators :
    (∀ x y : Option Filter,
      (∀ f ∈ x, (f.type = "and" ∨ f.type = "or") → f.dimension = "" ∧ f.field = none) →
      (∀ f ∈ y, (f.type = "and" ∨ f.type = "or") → f.dimension = "" ∧ f.field = none) →
      (Filter.all [x, y]).dimensions =
          (x.elim [] Filter.dimensions ++ y.elim [] Filter.dimensions).eraseDups ∧
        (Filter.any [x, y]).dimensions =
          (x.elim [] Filter.dimensions ++ y.elim [] Filter.dimensions).eraseDups ∧
        (Filter.chain x y).elim [] Filter.dimensions =
          (x.elim [] Filter.dimensions ++ y.elim [] Filter.dimensions).eraseDups) ∧
    (∀ x y : Option Having,
      (∀ h ∈ x, (h.type = "and" ∨ h.type = "or") → h.aggregation = "" ∧ h.havingSpec = none) →
      (∀ h ∈ y, (h.type = "and" ∨ h.type = "or") → h.aggregation = "" ∧ h.havingSpec = none) →
      (Having.all [x, y]).aggregations =
          (x.elim [] Having.aggregations ++ y.elim [] Having.aggregations).eraseDups ∧
        (Having.any [x, y]).aggregations =
          (x.elim [] Having.aggregations ++ y.elim [] Having.aggregations).eraseDups ∧
        (Having.chain x y).elim [] Having.aggregations =
          (x.elim [] Having.aggregations ++ y.elim [] Having.aggregations).eraseDups) ∧
    (∀ (fn : String) (l r : Option PostAggregation),
      (PostAggregation.arithmetic fn l r).requiredFields =
        (l.elim [] PostAggregation.requiredFields ++ r.elim [] PostAggregation.requiredFields).eraseDups) ∧
    (∀ (p : PostAggregation) (name : String), (p.named name).requiredFields = p.requiredFields) ∧
    (∀ (clock : Time.Moment) (options : List BuilderOption) (calls : List Call),
      (∀ f ∈ calls.flatMap Call.addedFilters, ∀ g ∈ f,
        (g.type = "and" ∨ g.type = "or") → g.dimension = "" ∧ g.field = none) →
      ((Builder.create clock options).run calls).query.filter.elim [] Filter.dimensions =
        ((calls.flatMap Call.addedFilters).flatMap fun f => f.elim [] Filter.dimensions).eraseDups) := by
  refine ⟨fun x y hx hy => ?_, fun x y hx hy => ?_, fun fn l r => PostAggregation.requiredFields_arithmetic fn l r,
    PostAggregation.requiredFields_named, fun clock options calls hbare => ?_⟩
  · -- each operand is bare for the node type it is combined under
    have hbare : ∀ t, (t = "and" ∨ t = "or") → ∀ c ∈ [x, y], ∀ f ∈ c,
        f.type = t → f.dimension = "" ∧ f.field = none := by
      intro t ht c hc f hf hk
      simp only [List.mem_cons, List.not_mem_nil, or_false] at hc
      rcases hc with rfl | rfl
      · exact hx f hf (hk ▸ ht)
      · exact hy f hf (hk ▸ ht)
    refine ⟨?_, ?_, Filter.dimensions_chain (fun f hf hk => hx f hf (.inl hk))
      (fun f hf hk => hy f hf (.inl hk))⟩
    · simpa [Filter.all] using Filter.dimensions_combine (hbare "and" (.inl rfl))
    · simpa [Filter.any] using Filter.dimensions_combine (hbare "or" (.inr rfl))
  · have hbare : ∀ t, (t = "and" ∨ t = "or") → ∀ c ∈ [x, y], ∀ h ∈ c,
        h.type = t → h.aggregation = "" ∧ h.havingSpec = none := by
      intro t ht c hc h hh hk
      simp only [List.mem_cons, List.not_mem_nil, or_false] at hc
      rcases hc with rfl | rfl
      · exact hx h hh (hk ▸ ht)
      · exact hy h hh (hk ▸ ht)
    refine ⟨?_, ?_, Having.aggregations_chain (fun h hh hk => hx h hh (.inl hk))
      (fun h hh hk => hy h hh (.inl hk))⟩
    · simpa [Having.all] using Having.aggregations_combine (hbare "and" (.inl rfl))
    · simpa [Having.any] using Having.aggregations_combine (hbare "or" (.inr rfl))
  · exact Builder.run_dimensions clock options calls fun f hf g hg hk => hbare f hf g hg (.inl hk)

theorem membership_clauses_collect_dimensions :
    let x := some (Filter.isIn "country" [.str "DE", .str "FR"])
    let y := some (Filter.notIn "city" [.str "Paris", .str "Lyon"])
    let calls := [Call.filter x, .filter (some (Filter.eq "country" (.str "IT"))), .filter y]
    ((∀ f ∈ x, (f.type = "and" ∨ f.type = "or") → f.dimension = "" ∧ f.field = none) ∧
      (∀ f ∈ y, (f.type = "and" ∨ f.type = "or") → f.dimension = "" ∧ f.field = none) ∧
      (∀ f ∈ calls.flatMap Call.addedFilters, ∀ g ∈ f,
        (g.type = "and" ∨ g.type = "or") → g.dimension = "" ∧ g.field = none)) ∧
    ((Filter.all [x, y]).dimensions =
        (x.elim [] Filter.dimensions ++ y.elim [] Filter.dimensions).eraseDups ∧
      (Filter.any [x, y]).dimensions =
        (x.elim [] Filter.dimensions ++ y.elim [] Filter.dimensions).eraseDups ∧
      (Filter.chain x y).elim [] Filter.dimensions =
        (x.elim [] Filter.dimensions ++ y.elim [] Filter.dimensions).eraseDups) ∧
    ((Builder.create ⟨1359203400, 0, 0⟩ []).run calls).query.filter.elim [] Filter.dimensions =
      ((calls.flatMap Call.addedFilters).flatMap fun f => f.elim [] Filter.dimensions).eraseDups := by
  intro x y calls
  have hx : ∀ f ∈ x, (f.type = "and" ∨ f.type = "or") → f.dimension = "" ∧ f.field = none := by
    simp [x, Filter.isIn, Filter.expandValues]
  have hy : ∀ f ∈ y, (f.type = "and" ∨ f.type = "or") → f.dimension = "" ∧ f.field = none := by
    simp [y, Filter.notIn, Filter.expandValues]
  have hcalls : ∀ f ∈ calls.flatMap Call.addedFilters, ∀ g ∈ f,
      (g.type = "and" ∨ g.type = "or") → g.dimension = "" ∧ g.field = none := by
    simp only [calls, List.flatMap_cons, List.flatMap_nil, Call.addedFilters, List.append_nil,
      List.singleton_append, List.mem_cons, List.not_mem_nil, or_false]
    rintro f (rfl | rfl | rfl)
    · exact hx
    · simp [Filter.eq, Filter.selector]
    · exact hy
  exact ⟨⟨hx, hy, hcalls⟩, collectors_distribute_over_combinators.1 x y hx hy,
    collectors_distribute_over_combinators.2.2.2.2 _ [] calls hcalls⟩

end DruidQuery
