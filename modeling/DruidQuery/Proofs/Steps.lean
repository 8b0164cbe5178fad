import DruidQuery.Builder.Call
/-!
What each call of a builder changes; a call that fails gives back the builder it was given.
-/

namespace DruidQuery

open Time

def Call.registers : Call → Bool
  | .simple .. | .aggregate .. | .cardinality .. | .javascript .. | .thetaSketch .. | .filtered ..
  | .histogram .. | .histograms .. | .postAggregationWith .. | .postAggregationExpr ..
  | .postAggregationScript .. | .thetaSketchPostAggregation .. => true
  | _ => false

def Call.addsClause : Call → Bool
  | .filter .. | .filterExpr .. | .filterMap .. | .having .. | .havingExpr .. => true
  | _ => false

namespace Builder

def settings (b : Builder) : Builder :=
  { b with query := { b.query with aggregations := [], postAggregations := [] }, log := [] }

def contents (b : Builder) :
    List (Option Aggregation) × List (Option PostAggregation) × Option Filter × Option Having :=
  (b.query.aggregations, b.query.postAggregations, b.query.filter, b.query.having)

section Primitives

variable (b : Builder)

@[simp] theorem record_query (line : String) : (b.record line).query = b.query := by
  unfold record
  split <;> rfl

@[simp] theorem edit_query (f : Query → Query) : (b.edit f).query = f b.query := rfl

@[simp] theorem edit_log (f : Query → Query) : (b.edit f).log = b.log := rfl

@[simp] theorem appendPostAggregation_query (p : PostAggregation) :
    (b.appendPostAggregation p).query =
      { b.query with postAggregations := b.query.postAggregations ++ [some p] } := rfl

theorem record_settings (line : String) : (b.record line).settings = b.settings := by
  unfold record
  split <;> rfl

theorem appendPostAggregation_settings (p : PostAggregation) :
    (b.appendPostAggregation p).settings = b.settings := rfl

theorem add_eq (a : Aggregation) :
    b.add a = if b.query.containsAggregation a.outputName then
      (b.record ("DEBUG skip duplicate aggregation " ++ a.outputName ++ " (" ++ a.type ++ ")"), false)
    else (b.edit fun q => { q with aggregations := q.aggregations ++ [some a] }, true) := rfl

theorem add_settings (a : Aggregation) : (b.add a).1.settings = b.settings := by
  rw [add_eq]
  split
  · exact record_settings b _
  · rfl

@[simp] theorem add_postAggregations (a : Aggregation) :
    (b.add a).1.query.postAggregations = b.query.postAggregations := by
  rw [add_eq]
  split <;> simp

end Primitives

theorem attempt_failed {b : Builder} {x : Except BuildError Builder} {e : BuildError}
    (h : (b.attempt x).2 = .failed e) : (b.attempt x).1 = b := by
  cases x with
  | ok b' => cases h
  | error e' => rfl

theorem attempt_fst_of {P : Builder → Prop} {b : Builder} {x : Except BuildError Builder}
    (hb : P b) (hok : ∀ b', x = .ok b' → P b') : P (b.attempt x).1 := by
  cases x with
  | ok b' => exact hok b' rfl
  | error e => exact hb

theorem intervals_ok {b b' : Builder} {pairs : List (String × String)}
    (h : b.intervals pairs = .ok b') : ∃ texts, b' = b.edit fun q => { q with intervals := texts } := by
  unfold intervals at h
  simp only [bind, Except.bind] at h
  split at h
  · cases h
  · simp only [pure, Except.pure, Except.ok.injEq] at h
    exact ⟨_, h.symm⟩

theorem filterExpr_ok {b b' : Builder} {src : String} (h : b.filterExpr src = .ok b') :
    ∃ f, Filter.parse src = .ok f ∧ b' = b.filter (some f) := by
  unfold filterExpr at h
  split at h
  · cases h
    exact ⟨_, ‹_›, rfl⟩
  · cases h

theorem filterMap_ok {b b' : Builder} {entries : List (String × Value)} {mode : String}
    (h : b.filterMap entries mode = .ok b') :
    ∃ f, Filter.ofMap entries mode = .ok f ∧ b' = b.filter f := by
  unfold filterMap at h
  split at h
  · cases h
    exact ⟨_, ‹_›, rfl⟩
  · cases h

theorem havingExpr_ok {b b' : Builder} {src : String} (h : b.havingExpr src = .ok b') :
    ∃ h', Having.parse src = .ok h' ∧ b' = b.having (some h') := by
  unfold havingExpr at h
  split at h
  · cases h
    exact ⟨_, ‹_›, rfl⟩
  · cases h

theorem aggregate_ok {b b' : Builder} {typeName : String} {metrics : List String}
    (h : b.aggregate typeName metrics = .ok b') : ∃ type, b' = b.simple type metrics := by
  unfold aggregate at h
  split at h
  · cases h
    exact ⟨_, rfl⟩
  · cases h

theorem histogram_ok {b b' : Builder} {metric strategy : String} {options : List (String × Value)}
    (h : b.histogram metric strategy options = .ok b') :
    ∃ p, PostAggregation.histogram (if strategy.isEmpty then "equalBuckets" else strategy) metric
        ("raw_" ++ metric) options = .ok p ∧
      b' = (b.add (Aggregation.approxHistogramFold metric)).1.appendPostAggregation p := by
  cases hp : PostAggregation.histogram (if strategy.isEmpty then "equalBuckets" else strategy)
      metric ("raw_" ++ metric) options with
  | ok p =>
    simp only [histogram, Aggregation.approxHistogramFold, hp, Except.ok.injEq] at h
    exact ⟨p, rfl, h.symm⟩
  | error e =>
    simp only [histogram, Aggregation.approxHistogramFold, hp] at h
    cases h

theorem postAggregationExpr_ok {b b' : Builder} {name src : String}
    (h : b.postAggregationExpr name src = .ok b') :
    ∃ p : PostAggregation, b' = b.postAggregationWith "longSum" (some (p.named name)) := by
  unfold postAggregationExpr at h
  split at h
  · cases h
    exact ⟨_, rfl⟩
  · cases h

theorem postAggregationScript_ok {b b' : Builder} {name src : String}
    (h : b.postAggregationScript name src = .ok b') :
    ∃ p : PostAggregation, b' = b.postAggregationWith "longSum" (some (p.named name)) := by
  unfold postAggregationScript at h
  split at h
  · cases h
    exact ⟨_, rfl⟩
  · cases h

theorem histogram_equalBuckets_default (name fieldName : String) :
    PostAggregation.histogram "equalBuckets" name fieldName [] =
      .ok { type := "equalBuckets", name, fieldName, numBuckets := 10 } := rfl

theorem histogram_equalBuckets (b : Builder) (metric : String) :
    b.histogram metric "equalBuckets" [] =
      .ok ((b.add (Aggregation.approxHistogramFold metric)).1.appendPostAggregation
        { type := "equalBuckets", name := metric, fieldName := "raw_" ++ metric,
          numBuckets := 10 }) := by
  have h : "equalBuckets".isEmpty = false := by decide
  simp only [histogram, h, Bool.false_eq_true, if_false, Aggregation.approxHistogramFold,
    histogram_equalBuckets_default]

theorem histograms_succeed (b : Builder) (metrics : List String) :
    (b.histograms metrics).2 = none := by
  induction metrics generalizing b with
  | nil => rfl
  | cons m ms ih => simp only [histograms, histogram_equalBuckets, ih]

@[simp] theorem settle_fst (x : Builder × Option BuildError) : (settle x).1 = x.1 := by
  obtain ⟨b, _ | e⟩ := x <;> rfl

theorem histograms_settings (b : Builder) (metrics : List String) :
    (b.histograms metrics).1.settings = b.settings := by
  induction metrics generalizing b with
  | nil => rfl
  | cons m ms ih =>
    simp only [histograms, histogram_equalBuckets]
    rw [ih, appendPostAggregation_settings, add_settings]

theorem simple_settings (b : Builder) (type : String) (metrics : List String) :
    (b.simple type metrics).settings = b.settings := by
  unfold simple
  apply List.foldlRecOn (motive := fun b' : Builder => b'.settings = b.settings) metrics _ rfl
  intro b' hb' m _
  split
  · exact hb'
  · rw [add_settings, hb']

theorem postAggregationWith_settings (b : Builder) (type : String) (p : Option PostAggregation) :
    (b.postAggregationWith type p).settings = b.settings := by
  cases p with
  | none => rfl
  | some p =>
    unfold postAggregationWith
    apply List.foldlRecOn (motive := fun b' : Builder => b'.settings = b.settings) _ _
      (appendPostAggregation_settings b p)
    intro b' hb' name _
    rcases hadd : b'.add (Aggregation.ofType type name) with ⟨b'', added⟩
    have h'' : b''.settings = b.settings := by
      rw [← hb', ← add_settings b' (Aggregation.ofType type name), hadd]
    cases added
    · exact h''
    · exact (record_settings b'' _).trans h''

theorem perform_registration (b : Builder) (c : Call) (hr : c.registers = true) :
    (b.perform c).1.settings = b.settings := by
  cases c with
  | simple type metrics => exact simple_settings b type metrics
  | aggregate typeName metrics =>
    refine attempt_fst_of (P := fun b' => b'.settings = b.settings) rfl fun b' hx => ?_
    obtain ⟨type, rfl⟩ := aggregate_ok hx
    exact simple_settings b type metrics
  | cardinality name dimensions byRow => exact add_settings b _
  | javascript name columns aggregate combine reset => exact add_settings b _
  | thetaSketch metric name => exact add_settings b _
  | filtered metric name type f => exact add_settings b _
  | histogram metric strategy options =>
    refine attempt_fst_of (P := fun b' => b'.settings = b.settings) rfl fun b' hx => ?_
    obtain ⟨p, -, rfl⟩ := histogram_ok hx
    rw [appendPostAggregation_settings, add_settings]
  | histograms metrics =>
    simp only [perform, settle_fst]
    exact histograms_settings b metrics
  | postAggregationWith type p => exact postAggregationWith_settings b type p
  | postAggregationExpr name src =>
    refine attempt_fst_of (P := fun b' => b'.settings = b.settings) rfl fun b' hx => ?_
    obtain ⟨p, rfl⟩ := postAggregationExpr_ok hx
    exact postAggregationWith_settings b _ _
  | postAggregationScript name src =>
    refine attempt_fst_of (P := fun b' => b'.settings = b.settings) rfl fun b' hx => ?_
    obtain ⟨p, rfl⟩ := postAggregationScript_ok hx
    exact postAggregationWith_settings b _ _
  | thetaSketchPostAggregation name fn fields => exact appendPostAggregation_settings b _
  | _ => simp [Call.registers] at hr

theorem perform_clause (b : Builder) (c : Call) (hc : c.addsClause = true) :
    (b.perform c).1.query.aggregations = b.query.aggregations ∧
      (b.perform c).1.query.postAggregations = b.query.postAggregations := by
  cases c with
  | filter f => exact ⟨rfl, rfl⟩
  | filterExpr src =>
    refine attempt_fst_of (P := fun b' => b'.query.aggregations = b.query.aggregations ∧
      b'.query.postAggregations = b.query.postAggregations) ⟨rfl, rfl⟩ fun b' hx => ?_
    obtain ⟨f, -, rfl⟩ := filterExpr_ok hx
    exact ⟨rfl, rfl⟩
  | filterMap entries mode =>
    refine attempt_fst_of (P := fun b' => b'.query.aggregations = b.query.aggregations ∧
      b'.query.postAggregations = b.query.postAggregations) ⟨rfl, rfl⟩ fun b' hx => ?_
    obtain ⟨f, -, rfl⟩ := filterMap_ok hx
    exact ⟨rfl, rfl⟩
  | having h => exact ⟨rfl, rfl⟩
  | havingExpr src =>
    refine attempt_fst_of (P := fun b' => b'.query.aggregations = b.query.aggregations ∧
      b'.query.postAggregations = b.query.postAggregations) ⟨rfl, rfl⟩ fun b' hx => ?_
    obtain ⟨h', -, rfl⟩ := havingExpr_ok hx
    exact ⟨rfl, rfl⟩
  | _ => simp [Call.addsClause] at hc

theorem perform_setting (b : Builder) (c : Call) (hr : c.registers = false)
    (hc : c.addsClause = false) : (b.perform c).1.contents = b.contents := by
  cases c <;> simp only [Call.registers, Call.addsClause, Bool.true_eq_false] at hr hc
  -- what is left are the settings: each edits another part of the query, or logs
  case intervalText start stop =>
    -- name the fallible method's result, so that unification never runs the date reader
    change (b.attempt (b.intervalText start stop)).1.contents = b.contents
    refine attempt_fst_of (P := fun b' => b'.contents = b.contents) rfl fun b' hx => ?_
    obtain ⟨texts, rfl⟩ := intervals_ok hx
    rfl
  case intervals pairs =>
    refine attempt_fst_of (P := fun b' => b'.contents = b.contents) rfl fun b' hx => ?_
    obtain ⟨texts, rfl⟩ := intervals_ok hx
    rfl
  case search what dimensions limit =>
    -- the dimensions and the limit are set only when given
    by_cases hd : dimensions.isEmpty <;> by_cases hl : limit > 0 <;>
      simp [perform, search, queryType, contents, hd, hl]
  case validate =>
    simp only [perform, validate]
    split <;> simp [contents]
  all_goals rfl

theorem applyOption_contents (acc : Builder × Option Config) (o : BuilderOption) :
    (applyOption acc o).1.contents = acc.1.contents := by
  cases o with
  | logLevel rank => simp [applyOption, setLevel, contents]
  | _ => rfl

theorem applyConfig_frame {α : Type} (f : Builder → α) (b : Builder) (c : Config)
    (hlevel : ∀ b r, f (b.setLevel r) = f b) (hsource : ∀ b s, f (b.dataSource s) = f b)
    (htype : ∀ b t, f (b.queryType t) = f b) (hgranularity : ∀ b n z, f (b.granularity n z) = f b)
    (hcontext : ∀ b g, f (b.editContext g) = f b) :
    f (b.applyConfig c) = f b := by
  unfold applyConfig
  lift_lets
  extract_lets b1 b2 b3 b4 b5 b6 b7
  have h1 : f b1 = f b := by
    simp only [b1]
    split
    · rfl
    · exact hlevel _ _
  have h2 : f b2 = f b1 := by
    simp only [b2]
    split
    · rfl
    · exact hsource _ _
  have h3 : f b3 = f b2 := by
    simp only [b3]
    split
    · rfl
    · exact htype _ _
  have h4 : f b4 = f b3 := by
    simp only [b4]
    split
    · rfl
    · exact hgranularity _ _ _
  -- the cache flags, the timeout and the priority all edit the context
  have h5 : f b5 = f b4 := by
    simp only [b5]
    split
    · exact hcontext _ _
    · rfl
  have h6 : f b6 = f b5 := by
    simp only [b6]
    split
    · exact hcontext _ _
    · rfl
  have h7 : f b7 = f b6 := by
    simp only [b7]
    split
    · exact hcontext _ _
    · rfl
  have h : f b7 = f b := by rw [h7, h6, h5, h4, h3, h2, h1]
  split
  · exact (hcontext _ _).trans h
  · exact h

theorem applyConfig_contents (b : Builder) (c : Config) :
    (b.applyConfig c).contents = b.contents := by
  apply applyConfig_frame contents b c
  · intro b r
    simp [setLevel, record]
    split <;> rfl
  all_goals intros; rfl

theorem create_contents (clock : Moment) (options : List BuilderOption) :
    (create clock options).contents = ([], [], none, none) := by
  have hopts : (options.foldl applyOption
      ({ query := Query.ofType "timeseries", clock }, none)).1.contents = ([], [], none, none) := by
    apply List.foldlRecOn (motive := fun acc : Builder × Option Config =>
      acc.1.contents = ([], [], none, none)) options _ rfl
    intro acc hacc o _
    rw [applyOption_contents, hacc]
  unfold create
  rcases hfold : options.foldl applyOption ({ query := Query.ofType "timeseries", clock }, none)
    with ⟨b, config⟩
  rw [hfold] at hopts
  -- the defaults apply, then the default interval is set: neither touches the contents
  cases config with
  | some c =>
    have hb : (b.applyConfig c).contents = ([], [], none, none) := by
      rw [applyConfig_contents, hopts]
    dsimp only
    split <;> exact hb
  | none =>
    dsimp only
    split <;> exact hopts

/-- A call that fails leaves the builder as it was: the same query, so the same JSON text, and
nothing logged. -/
theorem perform_failed_keeps_builder (b : Builder) (c : Call) (e : BuildError)
    (h : (b.perform c).2 = .failed e) : (b.perform c).1 = b := by
  cases c with
  | intervalText start stop => exact attempt_failed h
  | intervals pairs => exact attempt_failed h
  | filterExpr src => exact attempt_failed h
  | filterMap entries mode => exact attempt_failed h
  | havingExpr src => exact attempt_failed h
  | aggregate typeName metrics => exact attempt_failed h
  | histogram metric strategy options => exact attempt_failed h
  | postAggregationExpr name src => exact attempt_failed h
  | postAggregationScript name src => exact attempt_failed h
  | histograms metrics =>
    -- the loop changes the builder metric after metric, but it never stops with an error
    have hs := histograms_succeed b metrics
    simp only [perform] at h
    revert h
    rcases hb : b.histograms metrics with ⟨b', _ | e'⟩
    · simp [settle]
    · simp [hb] at hs
  | _ => simp [perform] at h

theorem unknown_histogram_keeps_builder :
    ((create ⟨1359203400, 0, 0⟩ []).perform (.histogram "clicks" "nope" [])).2 =
        .failed (.histogram (.unknown "nope")) ∧
      ((create ⟨1359203400, 0, 0⟩ []).perform (.histogram "clicks" "nope" [])).1 =
        create ⟨1359203400, 0, 0⟩ [] := by
  have h : ((create ⟨1359203400, 0, 0⟩ []).perform (.histogram "clicks" "nope" [])).2 =
      .failed (.histogram (.unknown "nope")) := rfl
  exact ⟨h, perform_failed_keeps_builder _ _ _ h⟩

@[simp] theorem run_nil (b : Builder) : b.run [] = b := rfl

@[simp] theorem run_cons (b : Builder) (c : Call) (calls : List Call) :
    b.run (c :: calls) = (b.perform c).1.run calls := rfl

theorem run_append (b : Builder) (calls calls' : List Call) :
    b.run (calls ++ calls') = (b.run calls).run calls' := by
  simp [run, List.foldl_append]

end Builder

end DruidQuery
