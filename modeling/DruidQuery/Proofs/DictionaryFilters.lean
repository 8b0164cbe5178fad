import Mathlib
import DruidQuery.Proofs.Clauses

namespace DruidQuery.Filter

def memberOf (dimension : String) : List Value → Filter
  | [v] => matchValue dimension v
  | vs => { type := "or", fields := vs.map fun v => some (matchValue dimension v) }

def absenceTests (entries : List (String × Value)) : List Filter :=
  entries.flatMap fun e => (expandValues [e.2]).map fun v => negate (some (matchValue e.1 v))

def dictionaryOf (sorted : List (String × Value)) (mode : String) : Option Filter :=
  if mode = "nin" then
    match absenceTests sorted with
    | [] => none
    | [t] => some t
    | ts => some { type := "and", fields := ts.map some }
  else
    match sorted with
    | [] => none
    | [e] => some (memberOf e.1 (expandValues [e.2]))
    | es => some { type := "and", fields := es.map fun e => some (memberOf e.1 (expandValues [e.2])) }

theorem isIn_eq_memberOf (dimension : String) (values : List Value) :
    isIn dimension values = memberOf dimension (expandValues values) := by
  unfold isIn memberOf
  rfl

theorem memberOf_type_ne_and (dimension : String) (values : List Value) :
    (memberOf dimension values).type ≠ "and" := by
  unfold memberOf
  split
  · rename_i v
    cases v <;> simp [matchValue, regex, selector]
  · simp

theorem notIn_operands {dimension : String} {v : Value} (hv : expandValues [v] ≠ []) :
    (if (notIn dimension [v]).type = "and" then (notIn dimension [v]).fields
      else [some (notIn dimension [v])]) =
      ((expandValues [v]).map fun x => negate (some (matchValue dimension x))).map some := by
  unfold notIn
  rcases hvs : expandValues [v] with _ | ⟨x, _ | ⟨y, rest⟩⟩
  · exact absurd hvs hv
  · simp [negate]
  · simp

theorem foldlM_entries (build : String → List Value → Filter) :
    ∀ (l : List (String × Value)) (acc : Option Filter),
      l.foldlM (fun acc (kv : String × Value) =>
          if (expandValues [kv.2]).isEmpty then
            (throw (MapError.emptyValues kv.1) : Except MapError (Option Filter))
          else pure (chain acc (some (build kv.1 [kv.2])))) acc =
        (l.find? fun e => (expandValues [e.2]).isEmpty).elim
          (.ok (l.foldl (fun acc e => chain acc (some (build e.1 [e.2]))) acc))
          (fun e => .error (.emptyValues e.1))
  | [], _ => rfl
  | (k, v) :: l, acc => by
    rw [List.foldlM_cons, List.find?_cons]
    by_cases h : (expandValues [v]).isEmpty
    · simp only [h, if_true]
      rfl
    · simp only [h, Bool.false_eq_true, if_false]
      exact foldlM_entries build l _

def testFor (mode : String) : String → List Value → Filter :=
  if mode = "nin" then notIn else isIn

theorem ofMap_of_mode {mode : String} (hm : mode ∈ ["", "in", "nin"]) (entries : List (String × Value)) :
    ofMap entries mode =
      (entries.mergeSort fun a b => decide (a.1 ≤ b.1)).foldlM (fun acc (kv : String × Value) =>
          if (expandValues [kv.2]).isEmpty then
            (throw (MapError.emptyValues kv.1) : Except MapError (Option Filter))
          else pure (chain acc (some (testFor mode kv.1 [kv.2])))) none := by
  simp only [List.mem_cons, List.not_mem_nil, or_false] at hm
  rcases hm with rfl | rfl | rfl <;> rfl

theorem ofMap_of_unknown {mode : String} (hm : mode ∉ ["", "in", "nin"]) (entries : List (String × Value)) :
    ofMap entries mode = .error (.unsupportedMode mode) := by
  simp only [List.mem_cons, List.not_mem_nil, or_false, not_or] at hm
  obtain ⟨h1, h2, h3⟩ := hm
  unfold ofMap
  split
  · contradiction
  · contradiction
  · contradiction
  · rfl

section Sorted

variable {entries sorted : List (String × Value)}

theorem mergeSort_pairwise_le (entries : List (String × Value)) :
    (entries.mergeSort fun a b => decide (a.1 ≤ b.1)).Pairwise fun a b => a.1 ≤ b.1 := by
  have h : (entries.mergeSort fun a b => decide (a.1 ≤ b.1)).Pairwise
      fun a b => decide (a.1 ≤ b.1) = true := List.pairwise_mergeSort
    (fun a b c hab hbc => by
      simp only [decide_eq_true_eq] at hab hbc ⊢
      exact le_trans hab hbc)
    (fun a b => by
      simp only [Bool.or_eq_true, decide_eq_true_eq]
      exact le_total a.1 b.1) entries
  exact h.imp fun hab => of_decide_eq_true hab

theorem mergeSort_pairwise_lt (hkeys : (entries.map Prod.fst).Nodup) :
    (entries.mergeSort fun a b => decide (a.1 ≤ b.1)).Pairwise fun a b => a.1 < b.1 := by
  have hsorted_keys : ((entries.mergeSort fun a b => decide (a.1 ≤ b.1)).map Prod.fst).Nodup :=
    ((List.mergeSort_perm _ _).map Prod.fst).nodup_iff.mpr hkeys
  exact ((mergeSort_pairwise_le entries).and (List.pairwise_map.mp hsorted_keys)).imp
    fun h => lt_of_le_of_ne h.1 h.2

theorem mergeSort_eq_of_sorted (hperm : sorted.Perm entries)
    (hsorted : sorted.Pairwise fun a b => a.1 < b.1) :
    entries.mergeSort (fun a b => decide (a.1 ≤ b.1)) = sorted := by
  have hkeys : (entries.map Prod.fst).Nodup :=
    (hperm.map Prod.fst).nodup_iff.mp (List.pairwise_map.mpr (hsorted.imp fun h => ne_of_lt h))
  exact List.Perm.eq_of_pairwise (fun a b _ _ hab hba => absurd hba (not_lt_of_gt hab))
    (mergeSort_pairwise_lt hkeys) hsorted ((List.mergeSort_perm _ _).trans hperm.symm)

end Sorted

theorem foldl_chain_tests (build : String → List Value → Filter) (l : List (String × Value)) :
    l.foldl (fun acc e => chain acc (some (build e.1 [e.2]))) none =
      flattening.accumulated (l.map fun e => some (build e.1 [e.2])) := by
  rw [← Builder.foldl_filter_chain, List.foldl_map]

theorem reduceOption_map_some {α β : Type} (g : α → β) (xs : List α) :
    (xs.map fun x => some (g x)).reduceOption = xs.map g := by
  induction xs with
  | nil => rfl
  | cons x xs ih => rw [List.map_cons, List.reduceOption_cons_of_some, ih, List.map_cons]

theorem flatMap_memberOf (l : List (String × Value)) :
    (l.map fun e => memberOf e.1 (expandValues [e.2])).flatMap
        (fun x => if x.type = "and" then x.fields else [some x]) =
      l.map fun e => some (memberOf e.1 (expandValues [e.2])) := by
  induction l with
  | nil => rfl
  | cons e l ih => simp only [List.map_cons, List.flatMap_cons, ih, memberOf_type_ne_and, if_false,
      List.singleton_append]

theorem chain_membership (sorted : List (String × Value)) :
    sorted.foldl (fun acc e => chain acc (some (isIn e.1 [e.2]))) none = dictionaryOf sorted "in" := by
  rw [foldl_chain_tests, Flattening.accumulated, reduceOption_map_some]
  simp only [dictionaryOf, if_neg (show ("in" : String) ≠ "nin" by decide), isIn_eq_memberOf]
  rcases sorted with _ | ⟨e, _ | ⟨e', rest⟩⟩
  · rfl
  · rfl
  · have h := flatMap_memberOf (e :: e' :: rest)
    simp only [List.map_cons] at h
    simp only [List.map_cons, flattening]
    exact congrArg (fun fs => some ({ type := "and", fields := fs } : Filter)) h

theorem length_le_absenceTests {l : List (String × Value)} (hne : ∀ e ∈ l, expandValues [e.2] ≠ []) :
    l.length ≤ (absenceTests l).length := by
  induction l with
  | nil => exact Nat.zero_le _
  | cons e l ih =>
    have he : 0 < (expandValues [e.2]).length := List.length_pos_iff.mpr (hne e List.mem_cons_self)
    have hl := ih fun e' he' => hne e' (List.mem_cons_of_mem e he')
    simp only [absenceTests, List.flatMap_cons, List.length_append, List.length_map,
      List.length_cons] at hl ⊢
    omega

theorem flatMap_notIn {l : List (String × Value)} (hne : ∀ e ∈ l, expandValues [e.2] ≠ []) :
    (l.map fun e => notIn e.1 [e.2]).flatMap
        (fun x => if x.type = "and" then x.fields else [some x]) =
      (absenceTests l).map some := by
  induction l with
  | nil => rfl
  | cons e l ih =>
    rw [List.map_cons, List.flatMap_cons, notIn_operands (hne e List.mem_cons_self),
      ih fun e' he' => hne e' (List.mem_cons_of_mem e he')]
    simp [absenceTests]

theorem chain_absence {sorted : List (String × Value)} (hne : ∀ e ∈ sorted, expandValues [e.2] ≠ []) :
    sorted.foldl (fun acc e => chain acc (some (notIn e.1 [e.2]))) none = dictionaryOf sorted "nin" := by
  rw [foldl_chain_tests, Flattening.accumulated, reduceOption_map_some]
  simp only [dictionaryOf, if_pos]
  rcases sorted with _ | ⟨e, _ | ⟨e', rest⟩⟩
  · rfl
  · -- one key: its own test, negated values under `and` when it has several
    have he := hne e List.mem_cons_self
    simp only [absenceTests, List.flatMap_cons, List.flatMap_nil, List.append_nil, List.map_cons,
      List.map_nil]
    unfold notIn
    rcases hvs : expandValues [e.2] with _ | ⟨x, _ | ⟨y, vs⟩⟩
    · exact absurd hvs he
    · rfl
    · simp [List.map_map, Function.comp_def]
  · -- several keys: every negated value is spliced into the one `and` node
    have hlen := length_le_absenceTests hne
    have h := flatMap_notIn hne
    rcases hts : absenceTests (e :: e' :: rest) with _ | ⟨a, _ | ⟨b, ts⟩⟩
    · simp [hts] at hlen
    · simp [hts] at hlen
    · rw [hts] at h
      simp only [List.map_cons] at h ⊢
      exact congrArg (fun fs => some ({ type := "and", fields := fs } : Filter)) h

section Dictionary

variable {mode : String} {entries : List (String × Value)}

theorem ofMap_sorted (hm : mode ∈ ["", "in", "nin"]) {sorted : List (String × Value)}
    (hperm : sorted.Perm entries) (hsorted : sorted.Pairwise fun a b => a.1 < b.1)
    (hne : ∀ e ∈ entries, expandValues [e.2] ≠ []) :
    ofMap entries mode = .ok (dictionaryOf sorted mode) := by
  have hne' : ∀ e ∈ sorted, expandValues [e.2] ≠ [] := fun e he => hne e (hperm.subset he)
  have hfind : sorted.find? (fun e => (expandValues [e.2]).isEmpty) = none := by
    rw [List.find?_eq_none]
    intro e he
    simpa using hne' e he
  rw [ofMap_of_mode hm, mergeSort_eq_of_sorted hperm hsorted, foldlM_entries, hfind, Option.elim_none]
  unfold testFor
  split
  · rename_i hn
    subst hn
    rw [chain_absence hne']
  · rename_i hn
    rw [chain_membership]
    simp [dictionaryOf, hn]

theorem ofMap_smallest_empty (hm : mode ∈ ["", "in", "nin"]) {k : String} {v : Value}
    (hkv : (k, v) ∈ entries) (hv : expandValues [v] = [])
    (hmin : ∀ e ∈ entries, expandValues [e.2] = [] → k ≤ e.1) :
    ofMap entries mode = .error (.emptyValues k) := by
  rw [ofMap_of_mode hm, foldlM_entries]
  have hmem : (k, v) ∈ entries.mergeSort fun a b => decide (a.1 ≤ b.1) := List.mem_mergeSort.mpr hkv
  obtain ⟨e, he⟩ : ∃ e, (entries.mergeSort fun a b => decide (a.1 ≤ b.1)).find?
      (fun e => (expandValues [e.2]).isEmpty) = some e :=
    Option.isSome_iff_exists.mp (List.find?_isSome.mpr ⟨(k, v), hmem, by simp [hv]⟩)
  rw [he, Option.elim_some]
  -- the first entry in key order with an empty list has the smallest such key
  obtain ⟨hpe, before, after, hsplit, hbefore⟩ := List.find?_eq_some_iff_append.mp he
  have hek : e.1 ≤ k := by
    have hpair := mergeSort_pairwise_le entries
    rw [hsplit] at hmem hpair
    rcases List.mem_append.mp hmem with h | h
    · exact absurd (hbefore _ h) (by simp [hv])
    · rcases List.mem_cons.mp h with h | h
      · rw [← h]
      · exact (List.pairwise_cons.mp (List.pairwise_append.mp hpair).2.1).1 _ h
  have hke : k ≤ e.1 :=
    hmin e (List.mem_mergeSort.mp (List.mem_of_find?_eq_some he)) (by simpa using hpe)
  rw [le_antisymm hek hke]

theorem ofMap_not_unknown (hm : mode ∈ ["", "in", "nin"]) (m : String) :
    ofMap entries mode ≠ .error (.unsupportedMode m) := by
  rw [ofMap_of_mode hm, foldlM_entries]
  cases (entries.mergeSort fun a b => decide (a.1 ≤ b.1)).find?
      (fun e => (expandValues [e.2]).isEmpty) with
  | none => simp
  | some e => simp

theorem ofMap_perm {entries' : List (String × Value)} (hperm : entries.Perm entries')
    (hkeys : (entries.map Prod.fst).Nodup) : ofMap entries mode = ofMap entries' mode := by
  by_cases hm : mode ∈ ["", "in", "nin"]
  · rw [ofMap_of_mode hm, ofMap_of_mode hm,
      mergeSort_eq_of_sorted ((List.mergeSort_perm _ _).trans hperm) (mergeSort_pairwise_lt hkeys)]
  · rw [ofMap_of_unknown hm, ofMap_of_unknown hm]

end Dictionary

/-- The filter of a dictionary in closed form. An unknown mode, and only an unknown mode, fails
with that mode. Otherwise an empty dictionary gives nothing; a key whose value is an empty list
fails with the smallest such key; and without one the result is that of the entries sorted by
key (`dictionaryOf`): the membership test of the one key, or an `and` node over the tests of the
keys in order, in membership mode; the one negated value, or a single `and` node over the
negation of every value of every key in order, in absence mode. The order in which the
dictionary lists its entries does not matter. -/
theorem dictionary_filter_closed_form :
    (∀ entries mode, (∃ m, ofMap entries mode = .error (.unsupportedMode m)) ↔
      mode ∉ ["", "in", "nin"]) ∧
    (∀ entries mode, mode ∉ ["", "in", "nin"] → ofMap entries mode = .error (.unsupportedMode mode)) ∧
    (∀ mode, mode ∈ ["", "in", "nin"] → ofMap [] mode = .ok none) ∧
    (∀ entries mode (k : String) (v : Value), mode ∈ ["", "in", "nin"] → (k, v) ∈ entries →
      expandValues [v] = [] → (∀ e ∈ entries, expandValues [e.2] = [] → k ≤ e.1) →
      ofMap entries mode = .error (.emptyValues k)) ∧
    (∀ entries sorted mode, mode ∈ ["", "in", "nin"] → sorted.Perm entries →
      (sorted.Pairwise fun a b => a.1 < b.1) → (∀ e ∈ entries, expandValues [e.2] ≠ []) →
      ofMap entries mode = .ok (dictionaryOf sorted mode)) ∧
    (∀ entries entries' mode, entries.Perm entries' → (entries.map Prod.fst).Nodup →
      ofMap entries mode = ofMap entries' mode) := by
  refine ⟨fun entries mode => ⟨?_, fun hm => ⟨mode, ofMap_of_unknown hm entries⟩⟩,
    fun entries mode hm => ofMap_of_unknown hm entries, fun mode hm => ?_,
    fun entries mode k v hm hkv hv hmin => ofMap_smallest_empty hm hkv hv hmin,
    fun entries sorted mode hm hperm hsorted hne => ofMap_sorted hm hperm hsorted hne,
    fun entries entries' mode hperm hkeys => ofMap_perm hperm hkeys⟩
  · rintro ⟨m, h⟩ hm
    exact ofMap_not_unknown hm m h
  · have h := ofMap_sorted hm (List.Perm.refl []) List.Pairwise.nil (by simp)
    rw [h]
    unfold dictionaryOf
    split <;> rfl

theorem two_key_dictionary_filter :
    let entries := [("country", Value.list [.str "DE", .str "FR"]), ("city", .str "Paris")]
    let sorted := [("city", Value.str "Paris"), ("country", .list [.str "DE", .str "FR"])]
    ("nin" ∈ ["", "in", "nin"] ∧ sorted.Perm entries ∧ (sorted.Pairwise fun a b => a.1 < b.1) ∧
      ∀ e ∈ entries, expandValues [e.2] ≠ []) ∧
    ofMap entries "nin" = .ok (dictionaryOf sorted "nin") ∧
    dictionaryOf sorted "nin" = some { type := "and", fields := [
      some (negate (some (selector "city" (.str "Paris")))),
      some (negate (some (selector "country" (.str "DE")))),
      some (negate (some (selector "country" (.str "FR"))))] } := by
  intro entries sorted
  have hperm : sorted.Perm entries := List.Perm.swap _ _ []
  have hsorted : sorted.Pairwise fun a b => a.1 < b.1 := by
    rw [List.pairwise_pair]
    decide
  have hne : ∀ e ∈ entries, expandValues [e.2] ≠ [] := by
    simp [entries, expandValues]
  exact ⟨⟨by simp, hperm, hsorted, hne⟩,
    dictionary_filter_closed_form.2.2.2.2.1 entries sorted "nin" (by simp) hperm hsorted hne, rfl⟩

end DruidQuery.Filter
