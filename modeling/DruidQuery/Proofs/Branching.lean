import Mathlib
import DruidQuery.Filter.Basic
import DruidQuery.Having.Basic
import DruidQuery.PostAggregation.Basic

namespace DruidQuery

/-- Trees whose nodes hold an optional child, a list of optional children and the room a decoder
leaves past the end of that list, with the recursion over them. -/
structure Branching (α : Type) where
  child : α → Option α
  children : α → List (Option α)
  spare : α → List (Option α)
  fold {β : Type} : (α → Option β → List (Option β) → List (Option β) → β) → α → β
  fold_eq {β : Type} (g : α → Option β → List (Option β) → List (Option β) → β) (x : α) :
    fold g x = g x ((child x).map (fold g)) ((children x).map (Option.map (fold g)))
      ((spare x).map (Option.map (fold g)))

namespace Branching

variable {α : Type} (B : Branching α)

def size : α → Nat :=
  B.fold fun _ c cs _ => c.getD 0 + (cs.map (·.getD 0)).sum + 1

/-- Whether a test holds at every node of a tree: the tree itself, its child and every child of
its list, at any depth. -/
def every (p : α → Bool) : α → Bool :=
  B.fold fun x c cs _ => p x && c.getD true && cs.all (·.getD true)

/-- A property of every node of a tree, those in the room past its lists included. -/
def All (P : α → Prop) : α → Prop :=
  B.fold fun x c cs sp => P x ∧ (∀ q ∈ c, q) ∧ (∀ o ∈ cs, ∀ q ∈ o, q) ∧ ∀ o ∈ sp, ∀ q ∈ o, q

variable {B}

theorem size_eq (x : α) :
    B.size x = ((B.child x).map B.size).getD 0 +
      ((B.children x).map fun c => (c.map B.size).getD 0).sum + 1 := by
  unfold size
  rw [B.fold_eq, List.map_map]
  rfl

theorem size_child_lt {x y : α} (hy : y ∈ B.child x) : B.size y < B.size x := by
  rw [size_eq x, Option.mem_def.mp hy, Option.map_some, Option.getD_some]
  omega

theorem size_lt_of_mem_children {x y : α} {c : Option α} (hc : c ∈ B.children x) (hy : y ∈ c) :
    B.size y < B.size x := by
  have hle : B.size y ≤ ((B.children x).map fun c => (c.map B.size).getD 0).sum := by
    refine List.le_sum_of_mem (List.mem_map.mpr ⟨c, hc, ?_⟩)
    rw [Option.mem_def.mp hy, Option.map_some, Option.getD_some]
  rw [size_eq x]
  omega

/-- Induction over trees: what holds of a node whenever it holds of the node's present child and
of every present child of its list holds of every tree. -/
@[elab_as_elim]
theorem induction {motive : α → Prop}
    (node : ∀ x, (∀ y ∈ B.child x, motive y) → (∀ c ∈ B.children x, ∀ y ∈ c, motive y) → motive x)
    (x : α) : motive x := by
  -- strong induction on the number of nodes, which every child has fewer of
  induction hn : B.size x using Nat.strong_induction_on generalizing x with
  | _ n ih =>
    subst hn
    exact node x (fun y hy => ih _ (size_child_lt hy) y rfl)
      (fun c hc y hy => ih _ (size_lt_of_mem_children hc hy) y rfl)

section Every

variable {p : α → Bool}

theorem getD_map_eq_true {c : Option α} {f : α → Bool} :
    (c.map f).getD true = true ↔ ∀ y ∈ c, f y = true := by
  cases c <;> simp

theorem every_iff {x : α} :
    B.every p x = true ↔ p x = true ∧ (∀ y ∈ B.child x, B.every p y = true) ∧
      ∀ c ∈ B.children x, ∀ y ∈ c, B.every p y = true := by
  unfold every
  rw [B.fold_eq]
  simp only [Bool.and_eq_true, List.all_map, List.all_eq_true, Function.comp_apply,
    getD_map_eq_true, and_assoc]

@[elab_as_elim]
theorem every_induction {motive : α → Prop}
    (node : ∀ x, p x = true → (∀ y ∈ B.child x, motive y) →
      (∀ c ∈ B.children x, ∀ y ∈ c, motive y) → motive x)
    (x : α) (hx : B.every p x = true) : motive x := by
  induction x using B.induction with
  | node x hchild hchildren =>
    obtain ⟨hp, hpchild, hpchildren⟩ := every_iff.mp hx
    exact node x hp (fun y hy => hchild y hy (hpchild y hy))
      (fun c hc y hy => hchildren c hc y hy (hpchildren c hc y hy))

theorem every_of_leaf {x : α} (hchild : B.child x = none) (hchildren : B.children x = [])
    (hp : p x = true) : B.every p x = true := by
  rw [every_iff, hchild, hchildren]
  simp [hp]

theorem every_of_closed {P : α → Prop}
    (hstep : ∀ x, P x → p x = true ∧ (∀ y ∈ B.child x, P y) ∧ ∀ c ∈ B.children x, ∀ y ∈ c, P y)
    {x : α} (hx : P x) : B.every p x = true := by
  induction x using B.induction with
  | node x hchild hchildren =>
    obtain ⟨hp, hPchild, hPchildren⟩ := hstep x hx
    exact every_iff.mpr ⟨hp, fun y hy => hchild y hy (hPchild y hy),
      fun c hc y hy => hchildren c hc y hy (hPchildren c hc y hy)⟩

theorem every_and {q : α → Bool} {x : α} (hp : B.every p x = true) (hq : B.every q x = true) :
    B.every (fun y => p y && q y) x = true := by
  refine every_of_closed (P := fun y => B.every p y = true ∧ B.every q y = true)
    (fun y hy => ?_) ⟨hp, hq⟩
  obtain ⟨hpy, hpchild, hpchildren⟩ := every_iff.mp hy.1
  obtain ⟨hqy, hqchild, hqchildren⟩ := every_iff.mp hy.2
  exact ⟨by simp [hpy, hqy], fun z hz => ⟨hpchild z hz, hqchild z hz⟩,
    fun c hc z hz => ⟨hpchildren c hc z hz, hqchildren c hc z hz⟩⟩

end Every

theorem all_iff {P : α → Prop} {x : α} :
    B.All P x ↔ P x ∧ (∀ y ∈ B.child x, B.All P y) ∧ (∀ c ∈ B.children x, ∀ y ∈ c, B.All P y) ∧
      ∀ c ∈ B.spare x, ∀ y ∈ c, B.All P y := by
  unfold All
  rw [B.fold_eq]
  simp only [Option.forall_mem_map, List.forall_mem_map]

theorem all_of_leaf {P : α → Prop} {x : α} (hchild : B.child x = none)
    (hchildren : B.children x = []) (hspare : B.spare x = []) (hp : P x) : B.All P x := by
  rw [all_iff, hchild, hchildren, hspare]
  simp [hp]

end Branching

namespace Filter

mutual

def fold {β : Type} (g : Filter → Option β → List (Option β) → List (Option β) → β) : Filter → β
  | f@⟨_, _, _, _, _, _, field, fields, fieldsSpare⟩ =>
    g f (foldChild g field) (foldList g fields) (foldList g fieldsSpare)

def foldChild {β : Type} (g : Filter → Option β → List (Option β) → List (Option β) → β) :
    Option Filter → Option β
  | none => none
  | some f => some (fold g f)

def foldList {β : Type} (g : Filter → Option β → List (Option β) → List (Option β) → β) :
    List (Option Filter) → List (Option β)
  | [] => []
  | c :: cs => foldChild g c :: foldList g cs

end

theorem foldChild_eq {β : Type} (g : Filter → Option β → List (Option β) → List (Option β) → β)
    (c : Option Filter) : foldChild g c = c.map (fold g) := by
  cases c <;> rfl

theorem foldList_eq {β : Type} (g : Filter → Option β → List (Option β) → List (Option β) → β)
    (cs : List (Option Filter)) : foldList g cs = cs.map (Option.map (fold g)) := by
  induction cs with
  | nil => rfl
  | cons c cs ih => rw [foldList, ih, foldChild_eq, List.map_cons]

def branching : Branching Filter where
  child := field
  children := fields
  spare := fieldsSpare
  fold := fold
  fold_eq g f := by
    cases f
    rw [fold, foldChild_eq, foldList_eq, foldList_eq]

@[simp] theorem branching_child (f : Filter) : branching.child f = f.field := rfl
@[simp] theorem branching_children (f : Filter) : branching.children f = f.fields := rfl
@[simp] theorem branching_spare (f : Filter) : branching.spare f = f.fieldsSpare := rfl

end Filter

namespace Having

mutual

def fold {β : Type} (g : Having → Option β → List (Option β) → List (Option β) → β) : Having → β
  | h@⟨_, _, _, havingSpec, havingSpecs, havingSpecsSpare⟩ =>
    g h (foldChild g havingSpec) (foldList g havingSpecs) (foldList g havingSpecsSpare)

def foldChild {β : Type} (g : Having → Option β → List (Option β) → List (Option β) → β) :
    Option Having → Option β
  | none => none
  | some h => some (fold g h)

def foldList {β : Type} (g : Having → Option β → List (Option β) → List (Option β) → β) :
    List (Option Having) → List (Option β)
  | [] => []
  | c :: cs => foldChild g c :: foldList g cs

end

theorem foldChild_eq {β : Type} (g : Having → Option β → List (Option β) → List (Option β) → β)
    (c : Option Having) : foldChild g c = c.map (fold g) := by
  cases c <;> rfl

theorem foldList_eq {β : Type} (g : Having → Option β → List (Option β) → List (Option β) → β)
    (cs : List (Option Having)) : foldList g cs = cs.map (Option.map (fold g)) := by
  induction cs with
  | nil => rfl
  | cons c cs ih => rw [foldList, ih, foldChild_eq, List.map_cons]

def branching : Branching Having where
  child := havingSpec
  children := havingSpecs
  spare := havingSpecsSpare
  fold := fold
  fold_eq g h := by
    cases h
    rw [fold, foldChild_eq, foldList_eq, foldList_eq]

@[simp] theorem branching_child (h : Having) : branching.child h = h.havingSpec := rfl
@[simp] theorem branching_children (h : Having) : branching.children h = h.havingSpecs := rfl
@[simp] theorem branching_spare (h : Having) : branching.spare h = h.havingSpecsSpare := rfl

end Having

namespace PostAggregation

mutual

def fold {β : Type} (g : PostAggregation → Option β → List (Option β) → List (Option β) → β) :
    PostAggregation → β
  | p@⟨_, _, _, _, _, _, _, _, fields, field, _, _, _, _, _, _, _, fieldsSpare, _, _⟩ =>
    g p (foldChild g field) (foldList g fields) (foldList g fieldsSpare)

def foldChild {β : Type} (g : PostAggregation → Option β → List (Option β) → List (Option β) → β) :
    Option PostAggregation → Option β
  | none => none
  | some p => some (fold g p)

def foldList {β : Type} (g : PostAggregation → Option β → List (Option β) → List (Option β) → β) :
    List (Option PostAggregation) → List (Option β)
  | [] => []
  | c :: cs => foldChild g c :: foldList g cs

end

theorem foldChild_eq {β : Type}
    (g : PostAggregation → Option β → List (Option β) → List (Option β) → β)
    (c : Option PostAggregation) : foldChild g c = c.map (fold g) := by
  cases c <;> rfl

theorem foldList_eq {β : Type}
    (g : PostAggregation → Option β → List (Option β) → List (Option β) → β)
    (cs : List (Option PostAggregation)) : foldList g cs = cs.map (Option.map (fold g)) := by
  induction cs with
  | nil => rfl
  | cons c cs ih => rw [foldList, ih, foldChild_eq, List.map_cons]

def branching : Branching PostAggregation where
  child := field
  children := fields
  spare := fieldsSpare
  fold := fold
  fold_eq g p := by
    cases p
    rw [fold, foldChild_eq, foldList_eq, foldList_eq]

@[simp] theorem branching_child (p : PostAggregation) : branching.child p = p.field := rfl
@[simp] theorem branching_children (p : PostAggregation) : branching.children p = p.fields := rfl
@[simp] theorem branching_spare (p : PostAggregation) : branching.spare p = p.fieldsSpare := rfl

end PostAggregation

end DruidQuery
