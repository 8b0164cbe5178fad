import Mathlib.Data.List.Induction
import Mathlib.Data.List.ReduceOption
import DruidQuery.Proofs.Steps
/-!
Filters and having specs flatten their `and` and `or` nodes, which makes combination associative
and `chain` a monoid with the absent clause as unit.
-/

namespace DruidQuery

open Time

/-- Trees whose combination nodes flatten: each tree has a kind and children, and the node built
of a kind and children has exactly those. -/
structure Flattening (α : Type) where
  kind : α → String
  children : α → List (Option α)
  node : String → List (Option α) → α
  kind_node : ∀ t cs, kind (node t cs) = t
  children_node : ∀ t cs, children (node t cs) = cs

namespace Flattening

variable {α : Type} (F : Flattening α)

def operands (t : String) (xs : List (Option α)) : List (Option α) :=
  xs.flatMap fun
    | none => []
    | some x => if F.kind x = t then F.children x else [some x]

def combine (t : String) (xs : List (Option α)) : α := F.node t (F.operands t xs)

def chain : Option α → Option α → Option α
  | none, next => next
  | prev, none => prev
  | some prev, some next => some (F.combine "and" [some prev, some next])

def accumulated (xs : List (Option α)) : Option α :=
  match xs.reduceOption with
  | [] => none
  | [x] => some x
  | present => some (F.node "and" (present.flatMap fun x =>
      if F.kind x = "and" then F.children x else [some x]))

section Laws

variable {F} {t : String}

theorem operands_append (xs ys : List (Option α)) :
    F.operands t (xs ++ ys) = F.operands t xs ++ F.operands t ys :=
  List.flatMap_append

theorem operands_combine (xs : List (Option α)) :
    F.operands t [some (F.combine t xs)] = F.operands t xs := by
  simp [operands, combine, F.kind_node, F.children_node]

theorem combine_combine_left (xs ys : List (Option α)) :
    F.combine t (some (F.combine t xs) :: ys) = F.combine t (xs ++ ys) := by
  rw [combine, ← List.singleton_append, operands_append, operands_combine, ← operands_append]
  rfl

theorem combine_combine_right (xs ys : List (Option α)) :
    F.combine t (xs ++ [some (F.combine t ys)]) = F.combine t (xs ++ ys) := by
  rw [combine, operands_append, operands_combine, ← operands_append]
  rfl

theorem combine_assoc_left (x y z : Option α) :
    F.combine t [some (F.combine t [x, y]), z] = F.combine t [x, y, z] :=
  combine_combine_left [x, y] [z]

theorem combine_assoc_right (x y z : Option α) :
    F.combine t [x, some (F.combine t [y, z])] = F.combine t [x, y, z] :=
  combine_combine_right [x] [y, z]

@[simp] theorem chain_none_left (x : Option α) : F.chain none x = x := by
  cases x <;> rfl

@[simp] theorem chain_none_right (x : Option α) : F.chain x none = x := by
  cases x <;> rfl

theorem chain_assoc (x y z : Option α) : F.chain (F.chain x y) z = F.chain x (F.chain y z) := by
  cases x with
  | none => simp
  | some x =>
    cases y with
    | none => simp
    | some y =>
      cases z with
      | none => simp
      | some z =>
        simp only [chain, Option.some.injEq]
        rw [combine_assoc_left, combine_assoc_right]

end Laws

theorem accumulated_append (xs : List (Option α)) (x : Option α) :
    F.accumulated (xs ++ [x]) = F.chain (F.accumulated xs) x := by
  cases x with
  | none =>
    simp only [accumulated, List.reduceOption_append, List.reduceOption_singleton,
      Option.toList_none, List.append_nil, chain_none_right]
  | some g =>
    simp only [accumulated, List.reduceOption_append, List.reduceOption_singleton,
      Option.toList_some]
    rcases xs.reduceOption with _ | ⟨f, _ | ⟨f', rest⟩⟩
    · rfl
    · -- the two clauses are combined
      simp [chain, combine, operands]
    · -- the `and` node so far gives its children, and the new clause its operands after them
      simp [chain, combine, operands, F.kind_node, F.children_node]

theorem foldl_chain (xs : List (Option α)) : xs.foldl F.chain none = F.accumulated xs := by
  induction xs using List.reverseRecOn with
  | nil => rfl
  | append_singleton xs x ih => rw [List.foldl_append, ih, accumulated_append]; rfl

end Flattening

def Filter.flattening : Flattening Filter where
  kind := Filter.type
  children := Filter.fields
  node t cs := { type := t, fields := cs }
  kind_node _ _ := rfl
  children_node _ _ := rfl

def Having.flattening : Flattening Having where
  kind := Having.type
  children := Having.havingSpecs
  node t cs := { type := t, havingSpecs := cs }
  kind_node _ _ := rfl
  children_node _ _ := rfl

theorem Filter.combine_eq (t : String) (xs : List (Option Filter)) :
    Filter.combine t xs = Filter.flattening.combine t xs := by
  unfold Filter.combine Flattening.combine Filter.operandsOf Flattening.operands
  congr 1
  congr 1
  funext x
  cases x <;> rfl

theorem Filter.chain_eq (x y : Option Filter) : Filter.chain x y = Filter.flattening.chain x y := by
  cases x <;> cases y <;> simp [Filter.chain, Flattening.chain, Filter.all, Filter.combine_eq]

theorem Having.combine_eq (t : String) (xs : List (Option Having)) :
    Having.combine t xs = Having.flattening.combine t xs := by
  unfold Having.combine Flattening.combine Having.operandsOf Flattening.operands
  congr 1
  congr 1
  funext x
  cases x <;> rfl

theorem Having.chain_eq (x y : Option Having) : Having.chain x y = Having.flattening.chain x y := by
  cases x <;> cases y <;> simp [Having.chain, Flattening.chain, Having.all, Having.combine_eq]

def Call.addedFilters : Call → List (Option Filter)
  | .filter f => [f]
  | .filterExpr src =>
    match Filter.parse src with
    | .ok f => [some f]
    | .error _ => []
  | .filterMap entries mode =>
    match Filter.ofMap entries mode with
    | .ok f => [f]
    | .error _ => []
  | _ => []

def Call.addedHavings : Call → List (Option Having)
  | .having h => [h]
  | .havingExpr src =>
    match Having.parse src with
    | .ok h => [some h]
    | .error _ => []
  | _ => []

namespace Builder

theorem perform_filter_of_not_clause (b : Builder) (c : Call) (hc : c.addsClause = false) :
    (b.perform c).1.query.filter = b.query.filter := by
  cases hr : c.registers
  · exact congrArg (fun x => x.2.2.1) (perform_setting b c hr hc)
  · exact congrArg (fun b => b.query.filter) (perform_registration b c hr)

theorem perform_having_of_not_clause (b : Builder) (c : Call) (hc : c.addsClause = false) :
    (b.perform c).1.query.having = b.query.having := by
  cases hr : c.registers
  · exact congrArg (fun x => x.2.2.2) (perform_setting b c hr hc)
  · exact congrArg (fun b => b.query.having) (perform_registration b c hr)

theorem perform_filter (b : Builder) (c : Call) :
    (b.perform c).1.query.filter = c.addedFilters.foldl Filter.chain b.query.filter := by
  cases c with
  | filter f => rfl
  | filterExpr src =>
    simp only [perform, Call.addedFilters, filterExpr]
    cases Filter.parse src <;> rfl
  | filterMap entries mode =>
    simp only [perform, Call.addedFilters, filterMap]
    cases Filter.ofMap entries mode <;> rfl
  | having h => rfl
  | havingExpr src =>
    simp only [perform, Call.addedFilters, havingExpr]
    cases Having.parse src <;> rfl
  | _ => exact perform_filter_of_not_clause b _ rfl

theorem perform_having (b : Builder) (c : Call) :
    (b.perform c).1.query.having = c.addedHavings.foldl Having.chain b.query.having := by
  cases c with
  | filter f => rfl
  | filterExpr src =>
    simp only [perform, Call.addedHavings, filterExpr]
    cases Filter.parse src <;> rfl
  | filterMap entries mode =>
    simp only [perform, Call.addedHavings, filterMap]
    cases Filter.ofMap entries mode <;> rfl
  | having h => rfl
  | havingExpr src =>
    simp only [perform, Call.addedHavings, havingExpr]
    cases Having.parse src <;> rfl
  | _ => exact perform_having_of_not_clause b _ rfl

theorem run_filter (b : Builder) (calls : List Call) :
    (b.run calls).query.filter = (calls.flatMap Call.addedFilters).foldl Filter.chain b.query.filter := by
  induction calls generalizing b with
  | nil => rfl
  | cons c calls ih => rw [run_cons, ih, perform_filter, List.flatMap_cons, List.foldl_append]

theorem run_having (b : Builder) (calls : List Call) :
    (b.run calls).query.having = (calls.flatMap Call.addedHavings).foldl Having.chain b.query.having := by
  induction calls generalizing b with
  | nil => rfl
  | cons c calls ih => rw [run_cons, ih, perform_having, List.flatMap_cons, List.foldl_append]

theorem foldl_filter_chain (xs : List (Option Filter)) :
    xs.foldl Filter.chain none = Filter.flattening.accumulated xs := by
  have hchain : Filter.chain = Filter.flattening.chain := funext fun x => funext (Filter.chain_eq x)
  rw [hchain, Flattening.foldl_chain]

theorem foldl_having_chain (xs : List (Option Having)) :
    xs.foldl Having.chain none = Having.flattening.accumulated xs := by
  have hchain : Having.chain = Having.flattening.chain := funext fun x => funext (Having.chain_eq x)
  rw [hchain, Flattening.foldl_chain]

/-- `and` and `or` of filters and of having specs are associative, grouped either way or taken as
one combination of three, whatever the operands (absent, flattened or read from a document), and
`chain` is associative with the absent clause as unit on both sides. So the filter of a built query
is none when every filter the calls added is absent, the only present one when exactly one is, and
otherwise an `and` node whose children are, in the order of the calls, the children of each present
added filter that is an `and` node and the filter itself otherwise; likewise the having clause. -/
theorem clauses_accumulate_by_flattening :
    (∀ x y z : Option Filter,
      Filter.all [some (Filter.all [x, y]), z] = Filter.all [x, y, z] ∧
      Filter.all [x, some (Filter.all [y, z])] = Filter.all [x, y, z] ∧
      Filter.any [some (Filter.any [x, y]), z] = Filter.any [x, y, z] ∧
      Filter.any [x, some (Filter.any [y, z])] = Filter.any [x, y, z]) ∧
    (∀ x y z : Option Having,
      Having.all [some (Having.all [x, y]), z] = Having.all [x, y, z] ∧
      Having.all [x, some (Having.all [y, z])] = Having.all [x, y, z] ∧
      Having.any [some (Having.any [x, y]), z] = Having.any [x, y, z] ∧
      Having.any [x, some (Having.any [y, z])] = Having.any [x, y, z]) ∧
    (∀ x y z : Option Filter,
      Filter.chain (Filter.chain x y) z = Filter.chain x (Filter.chain y z) ∧
      Filter.chain none x = x ∧ Filter.chain x none = x) ∧
    (∀ x y z : Option Having,
      Having.chain (Having.chain x y) z = Having.chain x (Having.chain y z) ∧
      Having.chain none x = x ∧ Having.chain x none = x) ∧
    (∀ (clock : Moment) (options : List BuilderOption) (calls : List Call),
      ((create clock options).run calls).query.filter =
        match (calls.flatMap Call.addedFilters).reduceOption with
        | [] => none
        | [f] => some f
        | fs => some
          { type := "and", fields := fs.flatMap fun f => if f.type = "and" then f.fields else [some f] }) ∧
    (∀ (clock : Moment) (options : List BuilderOption) (calls : List Call),
      ((create clock options).run calls).query.having =
        match (calls.flatMap Call.addedHavings).reduceOption with
        | [] => none
        | [h] => some h
        | hs => some
          { type := "and",
            havingSpecs := hs.flatMap fun h => if h.type = "and" then h.havingSpecs else [some h] }) := by
  refine ⟨fun x y z => ?_, fun x y z => ?_, fun x y z => ?_, fun x y z => ?_,
    fun clock options calls => ?_, fun clock options calls => ?_⟩
  · simp only [Filter.all, Filter.any, Filter.combine_eq]
    exact ⟨Flattening.combine_assoc_left x y z, Flattening.combine_assoc_right x y z,
      Flattening.combine_assoc_left x y z, Flattening.combine_assoc_right x y z⟩
  · simp only [Having.all, Having.any, Having.combine_eq]
    exact ⟨Flattening.combine_assoc_left x y z, Flattening.combine_assoc_right x y z,
      Flattening.combine_assoc_left x y z, Flattening.combine_assoc_right x y z⟩
  · simp only [Filter.chain_eq]
    exact ⟨Flattening.chain_assoc x y z, Flattening.chain_none_left x, Flattening.chain_none_right x⟩
  · simp only [Having.chain_eq]
    exact ⟨Flattening.chain_assoc x y z, Flattening.chain_none_left x, Flattening.chain_none_right x⟩
  · -- a new builder has no filter, and each call chains what it adds
    have hfresh : (create clock options).query.filter = none :=
      congrArg (fun x => x.2.2.1) (create_contents clock options)
    rw [run_filter, hfresh, foldl_filter_chain, Flattening.accumulated]
    rcases (calls.flatMap Call.addedFilters).reduceOption with _ | ⟨f, _ | ⟨f', rest⟩⟩ <;> rfl
  · have hfresh : (create clock options).query.having = none :=
      congrArg (fun x => x.2.2.2) (create_contents clock options)
    rw [run_having, hfresh, foldl_having_chain, Flattening.accumulated]
    rcases (calls.flatMap Call.addedHavings).reduceOption with _ | ⟨h, _ | ⟨h', rest⟩⟩ <;> rfl

end Builder

end DruidQuery
