import DruidQuery.Proofs.Steps

namespace DruidQuery

open Time

def Call.registersFields : Call → Bool
  | .postAggregationWith .. | .postAggregationExpr .. | .postAggregationScript .. => true
  | _ => false

def Call.registersFold : Call → Bool
  | .histogram .. | .histograms .. => true
  | _ => false

theorem Query.containsAggregation_iff (q : Query) (name : String) :
    q.containsAggregation name = true ↔ name ∈ q.aggregationNames := by
  simp [Query.containsAggregation, Query.aggregationNames]

theorem Aggregation.outputName_ofType (type metric : String) :
    (Aggregation.ofType type metric).outputName = metric := by
  simp only [Aggregation.ofType, Aggregation.outputName]
  split
  · -- a filtered aggregation of the empty column has no inner aggregator and writes `""`
    rename_i h
    simp only [Bool.and_eq_true, String.isEmpty_iff, decide_eq_true_eq] at h
    exact h.1.symm
  · rfl

namespace Builder

structure Grows (b b' : Builder) : Prop where
  kept : b.query.aggregations <+: b'.query.aggregations
  distinct : b.query.aggregationNames.Nodup → b'.query.aggregationNames.Nodup

theorem Grows.refl (b : Builder) : Grows b b := ⟨List.prefix_refl _, id⟩

theorem Grows.trans {b b' b'' : Builder} (h : Grows b b') (h' : Grows b' b'') : Grows b b'' :=
  ⟨h.kept.trans h'.kept, h'.distinct ∘ h.distinct⟩

theorem Grows.of_eq {b b' : Builder} (h : b'.query.aggregations = b.query.aggregations) :
    Grows b b' := by
  have hn : b'.query.aggregationNames = b.query.aggregationNames := by
    simp [Query.aggregationNames, h]
  exact ⟨h ▸ List.prefix_refl _, hn ▸ id⟩

theorem Grows.names_subset {b b' : Builder} (h : Grows b b') :
    b.query.aggregationNames ⊆ b'.query.aggregationNames :=
  ((h.kept.map _).sublist).subset

theorem add_aggregations (b : Builder) (a : Aggregation) :
    (b.add a).1.query.aggregations =
      if a.outputName ∈ b.query.aggregationNames then b.query.aggregations
      else b.query.aggregations ++ [some a] := by
  rw [add_eq]
  by_cases h : a.outputName ∈ b.query.aggregationNames
  · have h' := (Query.containsAggregation_iff _ _).2 h
    simp [h, h']
  · have h' : b.query.containsAggregation a.outputName = false := by
      simpa [← Query.containsAggregation_iff] using h
    simp [h, h']

theorem add_grows (b : Builder) (a : Aggregation) : Grows b (b.add a).1 := by
  by_cases h : a.outputName ∈ b.query.aggregationNames
  · exact Grows.of_eq (by rw [add_aggregations, if_pos h])
  · have ha := add_aggregations b a
    rw [if_neg h] at ha
    have hn : (b.add a).1.query.aggregationNames = b.query.aggregationNames ++ [a.outputName] := by
      simp [Query.aggregationNames, ha]
    refine ⟨ha ▸ List.prefix_append _ _, fun hd => ?_⟩
    rw [hn, List.nodup_append]
    exact ⟨hd, by simp, fun x hx y hy => by simp at hy; exact hy ▸ fun e => h (e ▸ hx)⟩

theorem outputName_mem_add (b : Builder) (a : Aggregation) :
    a.outputName ∈ (b.add a).1.query.aggregationNames := by
  by_cases h : a.outputName ∈ b.query.aggregationNames
  · exact (add_grows b a).names_subset h
  · have ha := add_aggregations b a
    rw [if_neg h] at ha
    simp [Query.aggregationNames, ha]

theorem record_grows (b : Builder) (line : String) : Grows b (b.record line) :=
  Grows.of_eq (by rw [record_query])

theorem simple_grows (b : Builder) (type : String) (metrics : List String) :
    Grows b (b.simple type metrics) := by
  unfold simple
  apply List.foldlRecOn (motive := fun b' : Builder => Grows b b') metrics _ (Grows.refl b)
  intro b' hb' m _
  split
  · exact hb'
  · exact hb'.trans (add_grows b' _)

theorem postAggregationWith_grows (b : Builder) (type : String) (p : Option PostAggregation) :
    Grows b (b.postAggregationWith type p) := by
  cases p with
  | none => exact Grows.refl b
  | some p =>
    unfold postAggregationWith
    have hstart : Grows b (b.appendPostAggregation p) := Grows.of_eq rfl
    apply List.foldlRecOn (motive := fun b' : Builder => Grows b b') _ _ hstart
    intro b' hb' name _
    rcases hadd : b'.add (Aggregation.ofType type name) with ⟨b'', added⟩
    have h'' : Grows b b'' := by
      have hg := add_grows b' (Aggregation.ofType type name)
      rw [hadd] at hg
      exact hb'.trans hg
    cases added
    · exact h''
    · exact h''.trans (record_grows b'' _)

theorem histogram_grows {b b' : Builder} {metric strategy : String}
    {options : List (String × Value)} (h : b.histogram metric strategy options = .ok b') :
    Grows b b' := by
  obtain ⟨p, -, rfl⟩ := histogram_ok h
  exact (add_grows b _).trans (Grows.of_eq rfl)

theorem histograms_grows (b : Builder) (metrics : List String) :
    Grows b (b.histograms metrics).1 := by
  induction metrics generalizing b with
  | nil => exact Grows.refl b
  | cons m ms ih =>
    simp only [histograms, histogram_equalBuckets]
    exact (histogram_grows (histogram_equalBuckets b m)).trans (ih _)

theorem perform_grows (b : Builder) (c : Call) : Grows b (b.perform c).1 := by
  cases hr : c.registers
  · cases hc : c.addsClause
    · exact Grows.of_eq (congrArg Prod.fst (perform_setting b c hr hc))
    · exact Grows.of_eq (perform_clause b c hc).1
  · cases c with
    | simple type metrics => exact simple_grows b type metrics
    | aggregate typeName metrics =>
      refine attempt_fst_of (P := Grows b) (Grows.refl b) fun b' hx => ?_
      obtain ⟨type, rfl⟩ := aggregate_ok hx
      exact simple_grows b type metrics
    | cardinality name dimensions byRow => exact add_grows b _
    | javascript name columns aggregate combine reset => exact add_grows b _
    | thetaSketch metric name => exact add_grows b _
    | filtered metric name type f => exact add_grows b _
    | histogram metric strategy options =>
      exact attempt_fst_of (P := Grows b) (Grows.refl b) fun b' hx => histogram_grows hx
    | histograms metrics =>
      simp only [perform, settle_fst]
      exact histograms_grows b metrics
    | postAggregationWith type p => exact postAggregationWith_grows b type p
    | postAggregationExpr name src =>
      refine attempt_fst_of (P := Grows b) (Grows.refl b) fun b' hx => ?_
      obtain ⟨p, rfl⟩ := postAggregationExpr_ok hx
      exact postAggregationWith_grows b "longSum" (some (p.named name))
    | postAggregationScript name src =>
      refine attempt_fst_of (P := Grows b) (Grows.refl b) fun b' hx => ?_
      obtain ⟨p, rfl⟩ := postAggregationScript_ok hx
      exact postAggregationWith_grows b "longSum" (some (p.named name))
    | thetaSketchPostAggregation name fn fields => exact Grows.of_eq rfl
    | _ => simp [Call.registers] at hr

theorem run_grows (b : Builder) (calls : List Call) : Grows b (b.run calls) := by
  induction calls generalizing b with
  | nil => exact Grows.refl b
  | cons c calls ih => exact (perform_grows b c).trans (ih _)

/-- The columns the aggregations of a built query write are distinct, and each call keeps the
aggregations before it as a prefix: aggregations are only ever appended. -/
theorem aggregations_distinct_and_append_only (clock : Moment) (options : List BuilderOption)
    (calls : List Call) (c : Call) :
    ((create clock options).run calls).query.aggregationNames.Nodup ∧
      ((create clock options).run calls).query.aggregations <+:
        (((create clock options).run calls).perform c).1.query.aggregations := by
  have hfresh : (create clock options).query.aggregationNames = [] := by
    have h := congrArg Prod.fst (create_contents clock options)
    simp only [contents] at h
    simp [Query.aggregationNames, h]
  have hstart : (create clock options).query.aggregationNames.Nodup := by
    rw [hfresh]
    exact List.nodup_nil
  exact ⟨(run_grows _ calls).distinct hstart, (perform_grows _ c).kept⟩

theorem appendNew_nodup {acc : List String} (names : List String) (h : acc.Nodup) :
    (appendNew acc names).Nodup := by
  unfold appendNew
  apply List.foldlRecOn (motive := fun l : List String => l.Nodup) names _ h
  intro l hl n _
  split
  · exact hl
  · rename_i hn
    rw [List.nodup_append]
    exact ⟨hl, by simp, fun x hx y hy => by
      simp only [List.mem_singleton] at hy
      exact hy ▸ fun e => hn (by simpa [e] using hx)⟩

theorem addRequired_nodup {acc : List String} (name : String) (h : acc.Nodup) :
    (PostAggregation.addRequired acc name).Nodup := by
  unfold PostAggregation.addRequired
  split
  · exact h
  · exact appendNew_nodup [name] h

mutual

theorem requiredInto_nodup {acc : List String} (h : acc.Nodup) :
    ∀ p : PostAggregation, (PostAggregation.requiredInto acc p).Nodup
  | ⟨type, _, _, _, fieldName, fieldNames, _, _, fields, field, _, _, _, _, _, _, _, _, _, _⟩ => by
    have hacc : (if type = "fieldAccess" then PostAggregation.addRequired acc fieldName
        else if type = "javascript" then fieldNames.foldl PostAggregation.addRequired acc
        else acc).Nodup := by
      split
      · exact addRequired_nodup fieldName h
      · split
        · exact List.foldlRecOn (motive := fun l : List String => l.Nodup) fieldNames _ h
            fun l hl n _ => addRequired_nodup n hl
        · exact h
    exact requiredOfChild_nodup (requiredOfList_nodup hacc fields) field

theorem requiredOfChild_nodup {acc : List String} (h : acc.Nodup) :
    ∀ p : Option PostAggregation, (PostAggregation.requiredOfChild acc p).Nodup
  | none => h
  | some p => requiredInto_nodup h p

theorem requiredOfList_nodup {acc : List String} (h : acc.Nodup) :
    ∀ ps : List (Option PostAggregation), (PostAggregation.requiredOfList acc ps).Nodup
  | [] => h
  | p :: ps => requiredOfList_nodup (requiredOfChild_nodup h p) ps

end

theorem requiredFields_nodup (p : PostAggregation) : p.requiredFields.Nodup :=
  requiredInto_nodup List.nodup_nil p

theorem histogram_fieldName {strategy name fieldName : String} {options : List (String × Value)}
    {p : PostAggregation} (h : PostAggregation.histogram strategy name fieldName options = .ok p) :
    p.fieldName = fieldName := by
  unfold PostAggregation.histogram at h
  simp only [bind, Except.bind, Functor.map, Except.map, pure, Except.pure] at h
  -- every branch either fails or builds its record on the same base
  repeat' split at h
  all_goals cases h
  all_goals rfl

theorem foldl_add_aggregations {f : Builder → String → Builder} (type : String)
    (hf : ∀ b n, (f b n).query.aggregations = (b.add (Aggregation.ofType type n)).1.query.aggregations) :
    ∀ (names : List String) (b : Builder), names.Nodup →
      (names.foldl f b).query.aggregations = b.query.aggregations ++
        (names.filter fun n => n ∉ b.query.aggregationNames).map
          fun n => some (Aggregation.ofType type n)
  | [], b, _ => by simp
  | n :: ns, b, hnd => by
    rw [List.nodup_cons] at hnd
    have hfirst := hf b n
    rw [add_aggregations, Aggregation.outputName_ofType] at hfirst
    rw [List.foldl_cons, foldl_add_aggregations type hf ns (f b n) hnd.2]
    by_cases hn : n ∈ b.query.aggregationNames
    · rw [if_pos hn] at hfirst
      have hnames : (f b n).query.aggregationNames = b.query.aggregationNames := by
        simp [Query.aggregationNames, hfirst]
      rw [hfirst, hnames, List.filter_cons_of_neg (by simpa using hn)]
    · -- `n` is written now, and no later column of the list is `n`
      rw [if_neg hn] at hfirst
      have hnames : (f b n).query.aggregationNames = b.query.aggregationNames ++ [n] := by
        simp [Query.aggregationNames, hfirst, Aggregation.outputName_ofType]
      have hrest : (ns.filter fun m => m ∉ (f b n).query.aggregationNames) =
          ns.filter fun m => m ∉ b.query.aggregationNames := by
        rw [hnames]
        apply List.filter_congr
        intro m hm
        have hmn : m ≠ n := fun e => hnd.1 (e ▸ hm)
        simp [hmn]
      rw [hfirst, hrest, List.filter_cons_of_pos (by simpa using hn)]
      simp

theorem postAggregationWith_aggregations (b : Builder) (type : String) (p : PostAggregation) :
    (b.postAggregationWith type (some p)).query.aggregations =
      b.query.aggregations ++ (p.requiredFields.filter fun n => n ∉ b.query.aggregationNames).map
        fun n => some (Aggregation.ofType type n) := by
  unfold postAggregationWith
  rw [foldl_add_aggregations type _ p.requiredFields _ (requiredFields_nodup p)]
  · rfl
  · intro b' n
    rcases hadd : b'.add (Aggregation.ofType type n) with ⟨b'', added⟩
    cases added <;> simp

theorem postAggregationWith_postAggregations (b : Builder) (type : String) (p : PostAggregation) :
    (b.postAggregationWith type (some p)).query.postAggregations =
      b.query.postAggregations ++ [some p] := by
  unfold postAggregationWith
  apply List.foldlRecOn (motive := fun b' : Builder =>
    b'.query.postAggregations = b.query.postAggregations ++ [some p]) _ _ rfl
  intro b' hb' name _
  rcases hadd : b'.add (Aggregation.ofType type name) with ⟨b'', added⟩
  have h'' : b''.query.postAggregations = b.query.postAggregations ++ [some p] := by
    rw [← hb', ← add_postAggregations b' (Aggregation.ofType type name), hadd]
  cases added
  · exact h''
  · simpa using h''

theorem required_mem_postAggregationWith (b : Builder) (type : String) (p : PostAggregation) :
    ∀ n ∈ p.requiredFields, n ∈ (b.postAggregationWith type (some p)).query.aggregationNames := by
  intro n hn
  have hnames : (b.postAggregationWith type (some p)).query.aggregationNames =
      b.query.aggregationNames ++ p.requiredFields.filter fun n => n ∉ b.query.aggregationNames := by
    simp [Query.aggregationNames, postAggregationWith_aggregations, Function.comp_def,
      Aggregation.outputName_ofType]
  rw [hnames]
  by_cases h : n ∈ b.query.aggregationNames
  · exact List.mem_append_left _ h
  · exact List.mem_append_right _ (List.mem_filter.2 ⟨hn, by simpa using h⟩)

theorem postAggregationWith_appended_registered (b : Builder) (type : String)
    (q p : PostAggregation)
    (hp : some p ∈ (b.postAggregationWith type (some q)).query.postAggregations.drop
      b.query.postAggregations.length) :
    ∀ n ∈ p.requiredFields, n ∈ (b.postAggregationWith type (some q)).query.aggregationNames := by
  simp only [postAggregationWith_postAggregations, List.drop_left, List.mem_singleton,
    Option.some.injEq] at hp
  subst hp
  exact required_mem_postAggregationWith b type p

theorem outputName_approxHistogramFold (metric : String) :
    (Aggregation.approxHistogramFold metric).outputName = "raw_" ++ metric := by
  simp [Aggregation.approxHistogramFold, Aggregation.outputName]

theorem histogram_fold_registered {b b' : Builder} {metric strategy : String}
    {options : List (String × Value)} (h : b.histogram metric strategy options = .ok b') :
    ∃ p, b'.query.postAggregations = b.query.postAggregations ++ [some p] ∧
      p.fieldName ∈ b'.query.aggregationNames := by
  obtain ⟨p, hp, rfl⟩ := histogram_ok h
  refine ⟨p, by simp, ?_⟩
  rw [histogram_fieldName hp, ← outputName_approxHistogramFold]
  exact outputName_mem_add b _

theorem histograms_folds_registered (b : Builder) (metrics : List String) :
    ∃ added, (b.histograms metrics).1.query.postAggregations = b.query.postAggregations ++ added ∧
      ∀ p, some p ∈ added → p.fieldName ∈ (b.histograms metrics).1.query.aggregationNames := by
  induction metrics generalizing b with
  | nil => exact ⟨[], by simp [histograms], by simp⟩
  | cons m ms ih =>
    obtain ⟨b₁, hb₁⟩ : ∃ b₁, b.histogram m "equalBuckets" [] = .ok b₁ :=
      ⟨_, histogram_equalBuckets b m⟩
    obtain ⟨p, hp, hfold⟩ := histogram_fold_registered hb₁
    obtain ⟨added, hadded, hcovered⟩ := ih b₁
    have hrun : (b.histograms (m :: ms)).1 = (b₁.histograms ms).1 := by
      simp only [histograms, hb₁]
    rw [hrun]
    refine ⟨some p :: added, by rw [hadded, hp, List.append_assoc, List.singleton_append], ?_⟩
    intro q hq
    rcases List.mem_cons.1 hq with hq | hq
    · -- the first histogram's fold stays written through the later metrics
      cases hq
      exact (histograms_grows b₁ ms).names_subset hfold
    · exact hcovered q hq

theorem perform_appended_registered (b : Builder) (c : Call) (p : PostAggregation)
    (hp : some p ∈ (b.perform c).1.query.postAggregations.drop b.query.postAggregations.length) :
    (c.registersFields = true →
        ∀ n ∈ p.requiredFields, n ∈ (b.perform c).1.query.aggregationNames) ∧
      (c.registersFold = true → p.fieldName ∈ (b.perform c).1.query.aggregationNames) := by
  cases c with
  | postAggregationWith type q =>
    cases q with
    | none => simp [perform, postAggregationWith] at hp
    | some q =>
      exact ⟨fun _ => postAggregationWith_appended_registered b type q p hp,
        by simp [Call.registersFold]⟩
  | postAggregationExpr name src =>
    simp only [perform] at hp ⊢
    cases hx : b.postAggregationExpr name src with
    | ok b' =>
      obtain ⟨q, rfl⟩ := postAggregationExpr_ok hx
      rw [hx] at hp
      exact ⟨fun _ => postAggregationWith_appended_registered b _ _ p hp,
        by simp [Call.registersFold]⟩
    | error e => simp [hx, attempt] at hp
  | postAggregationScript name src =>
    simp only [perform] at hp ⊢
    cases hx : b.postAggregationScript name src with
    | ok b' =>
      obtain ⟨q, rfl⟩ := postAggregationScript_ok hx
      rw [hx] at hp
      exact ⟨fun _ => postAggregationWith_appended_registered b _ _ p hp,
        by simp [Call.registersFold]⟩
    | error e => simp [hx, attempt] at hp
  | histogram metric strategy options =>
    simp only [perform] at hp ⊢
    cases hx : b.histogram metric strategy options with
    | ok b' =>
      obtain ⟨q, hq, hfold⟩ := histogram_fold_registered hx
      simp only [hx, attempt, hq, List.drop_left, List.mem_singleton, Option.some.injEq] at hp
      subst hp
      exact ⟨by simp [Call.registersFields], fun _ => hfold⟩
    | error e => simp [hx, attempt] at hp
  | histograms metrics =>
    obtain ⟨added, hadded, hcovered⟩ := histograms_folds_registered b metrics
    simp only [perform, settle_fst, hadded, List.drop_left] at hp ⊢
    exact ⟨by simp [Call.registersFields], fun _ => hcovered p hp⟩
  | _ => simp [Call.registersFields, Call.registersFold]

/-- A post-aggregation added with registration reads only columns that some aggregation writes,
and a histogram its registered fold, in every state after the call that added it. Adding a
post-aggregation with registration appends it last, and appends, in the order it reads them, one
aggregation `{type, name := n, fieldName := n}` for each column `n` it reads that no aggregation
wrote before, and no other aggregation. -/
theorem post_aggregations_read_registered_columns :
    (∀ (b : Builder) (before : List Call) (c : Call) (after : List Call) (p : PostAggregation),
      some p ∈ ((b.run before).perform c).1.query.postAggregations.drop
          (b.run before).query.postAggregations.length →
        (c.registersFields = true →
          ∀ n ∈ p.requiredFields, n ∈ (b.run (before ++ c :: after)).query.aggregationNames) ∧
        (c.registersFold = true →
          p.fieldName ∈ (b.run (before ++ c :: after)).query.aggregationNames)) ∧
    ∀ (b : Builder) (type : String) (p : PostAggregation),
      (b.perform (.postAggregationWith type (some p))).1.query.postAggregations =
          b.query.postAggregations ++ [some p] ∧
        (b.perform (.postAggregationWith type (some p))).1.query.aggregations =
          b.query.aggregations ++
            (p.requiredFields.filter fun n => n ∉ b.query.aggregationNames).map
              fun n => some { type, name := n, fieldName := n } := by
  refine ⟨fun b before c after p hp => ?_, fun b type p => ?_⟩
  · -- the call registers what its post-aggregation reads; later calls only append aggregations
    have hstep := perform_appended_registered (b.run before) c p hp
    have hlater : Grows ((b.run before).perform c).1 (b.run (before ++ c :: after)) := by
      rw [run_append, run_cons]
      exact run_grows _ after
    exact ⟨fun hc n hn => hlater.names_subset (hstep.1 hc n hn),
      fun hc => hlater.names_subset (hstep.2 hc)⟩
  · exact ⟨postAggregationWith_postAggregations b type p, postAggregationWith_aggregations b type p⟩

theorem field_access_column_registered :
    some (PostAggregation.fieldAccess "clicks") ∈
        (((create ⟨1359203400, 0, 0⟩ []).run []).perform
          (.postAggregationWith "longSum" (some (.fieldAccess "clicks")))).1.query.postAggregations.drop
          ((create ⟨1359203400, 0, 0⟩ []).run []).query.postAggregations.length ∧
      "clicks" ∈ ((create ⟨1359203400, 0, 0⟩ []).run
        ([] ++ .postAggregationWith "longSum" (some (.fieldAccess "clicks")) ::
          [.timeseries])).query.aggregationNames := by
  have hp : some (PostAggregation.fieldAccess "clicks") ∈
      (((create ⟨1359203400, 0, 0⟩ []).run []).perform
        (.postAggregationWith "longSum" (some (.fieldAccess "clicks")))).1.query.postAggregations.drop
        ((create ⟨1359203400, 0, 0⟩ []).run []).query.postAggregations.length := by
    simp [perform, postAggregationWith_postAggregations]
  exact ⟨hp, (post_aggregations_read_registered_columns.1 _ [] _ [.timeseries] _ hp).1 rfl "clicks"
    (by decide)⟩

end Builder

end DruidQuery
