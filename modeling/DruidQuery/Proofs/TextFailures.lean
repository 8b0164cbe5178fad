import DruidQuery.Filter.Text
import DruidQuery.Having.Text
import DruidQuery.PostAggregation.Text
/-!
Every failure of the three text grammars is a syntax error or a translation error that names the
grammar, and matches exactly one of the two sentinels.
-/

namespace DruidQuery

def RaisesOnly {ε α : Type} (P : ε → Prop) (x : Except ε α) : Prop := ∀ e, x = .error e → P e

namespace RaisesOnly

variable {ε α β : Type} {P : ε → Prop}

theorem ok (a : α) : RaisesOnly P (.ok a : Except ε α) := by
  intro e h
  cases h

theorem error {e : ε} (h : P e) : RaisesOnly P (.error e : Except ε α) := by
  intro e' h'
  cases h'
  exact h

theorem pure (a : α) : RaisesOnly P (Pure.pure a : Except ε α) := ok a

theorem bind {x : Except ε α} {f : α → Except ε β} (hx : RaisesOnly P x) (hf : ∀ a, RaisesOnly P (f a)) :
    RaisesOnly P (x >>= f) := by
  intro e h
  cases hx' : x with
  | error e' =>
    rw [hx'] at h
    cases h
    exact hx _ hx'
  | ok a =>
    rw [hx'] at h
    exact hf a e h

theorem map (f : α → β) {x : Except ε α} (hx : RaisesOnly P x) : RaisesOnly P (f <$> x) := by
  intro e h
  cases hx' : x with
  | error e' =>
    rw [hx'] at h
    cases h
    exact hx _ hx'
  | ok a =>
    rw [hx'] at h
    cases h

theorem mapM {f : α → Except ε β} : ∀ {l : List α}, (∀ a ∈ l, RaisesOnly P (f a)) → RaisesOnly P (l.mapM f)
  | [], _ => ok []
  | a :: l, h => by
    rw [List.mapM_cons]
    exact (h a List.mem_cons_self).bind fun b =>
      (mapM fun x hx => h x (List.mem_cons_of_mem a hx)).bind fun bs => pure (b :: bs)

end RaisesOnly

namespace Expr

structure Error.Raised (g : String) (e : Error) : Prop where
  grammar_eq : e.grammar = g
  kind_ne : e.kind ≠ .parseFailure
  expression_eq : e.expression = ""

theorem unsupported_raised (g : String) (n : Node) (message : String) :
    (unsupported g n message).Raised g :=
  ⟨rfl, nofun, rfl⟩

theorem invalidArgument_raised (g fn message : String) : (invalidArgument g fn message).Raised g :=
  ⟨rfl, nofun, rfl⟩

theorem Error.is_parseFailure (e : Error) : e.is .parseFailure = !e.is .unsupported := by
  cases e with
  | mk kind grammar message node expression => cases kind <;> rfl

end Expr

open Expr

namespace Filter

theorem readMembership_raises (left right : Node) (negated : Bool) :
    RaisesOnly (Error.Raised grammar) (readMembership left right negated) := by
  unfold readMembership
  split
  · split
    · refine (RaisesOnly.mapM fun item _ => ?_).bind fun _ => .pure _
      split
      · exact .pure _
      · exact .error (unsupported_raised _ _ _)
    · exact .error (unsupported_raised _ _ _)
  · exact .error (unsupported_raised _ _ _)

theorem readComparison_raises (n left right : Node) (op : String) :
    RaisesOnly (Error.Raised grammar) (readComparison n left right op) := by
  unfold readComparison
  split
  · split
    · exact .ok _
    · exact .error (unsupported_raised _ _ _)
  · split
    · split
      · exact .ok _
      · exact .error (unsupported_raised _ _ _)
    · exact .error (unsupported_raised _ _ _)

theorem dimensionAndText_raises (fn : String) (args : List Node) :
    RaisesOnly (Error.Raised grammar) (dimensionAndText fn args) := by
  unfold dimensionAndText
  split
  · split
    · split
      · exact .ok _
      · exact .error (invalidArgument_raised _ _ _)
    · exact .error (invalidArgument_raised _ _ _)
  · exact .error (invalidArgument_raised _ _ _)

theorem readCall_raises (n : Node) : RaisesOnly (Error.Raised grammar) (readCall n) := by
  unfold readCall
  split
  · split
    · exact (dimensionAndText_raises _ _).bind fun _ => .pure _
    · split
      · exact (dimensionAndText_raises _ _).bind fun _ => .pure _
      · split
        · split
          · split
            · split
              · split
                · split
                  · exact .pure _
                  · exact .error (invalidArgument_raised _ _ _)
                · exact .error (invalidArgument_raised _ _ _)
              · split
                · exact .pure _
                · exact .error (invalidArgument_raised _ _ _)
            · exact .error (invalidArgument_raised _ _ _)
          · exact .error (invalidArgument_raised _ _ _)
        · exact .error (unsupported_raised _ _ _)
  · exact .error (unsupported_raised _ _ _)

theorem ofNode_raises : ∀ n : Node, RaisesOnly (Error.Raised grammar) (ofNode n)
  | .unary op operand => by
    unfold ofNode
    split
    · exact .error (unsupported_raised _ _ _)
    · split
      · exact readMembership_raises _ _ _
      · exact (ofNode_raises operand).map _
  | .binary op left right => by
    unfold ofNode
    dsimp only
    split
    · exact (ofNode_raises left).bind fun _ => (ofNode_raises right).bind fun _ => .pure _
    · split
      · exact readMembership_raises _ _ _
      · split
        · split
          · exact .error (unsupported_raised _ _ _)
          · split
            · exact .ok _
            · exact .error (unsupported_raised _ _ _)
        · split
          · exact (readComparison_raises _ _ _ _).bind fun _ => .pure _
          · exact .error (unsupported_raised _ _ _)
  | .call callee args => by
    unfold ofNode
    exact readCall_raises _
  | .identifier _ | .integer _ | .float _ | .string _ | .bool _ | .nil | .array _ | .map _
  | .pair .. | .builtin .. | .member .. | .chain _ | .slice .. | .conditional .. | .declaration ..
  | .closure _ | .pointer _ => by
    unfold ofNode
    exact .error (unsupported_raised _ _ _)

end Filter

namespace Having

theorem readComparison_raises (n left right : Node) (op : String) :
    RaisesOnly (Error.Raised grammar) (readComparison n left right op) := by
  unfold readComparison
  -- the comparison is first turned to `name op value`, then its value read as a literal
  extract_lets compare
  have hcompare : ∀ c, RaisesOnly (Error.Raised grammar) (compare c) := by
    intro c
    simp only [compare]
    split
    · exact .pure _
    · exact .error (unsupported_raised _ _ _)
  split
  · exact (RaisesOnly.pure _).bind hcompare
  · split
    · exact (RaisesOnly.pure _).bind hcompare
    · exact (RaisesOnly.error (unsupported_raised _ _ _)).bind hcompare

theorem ofNode_raises : ∀ n : Node, RaisesOnly (Error.Raised grammar) (ofNode n)
  | .unary op operand => by
    unfold ofNode
    split
    · exact .error (unsupported_raised _ _ _)
    · exact (ofNode_raises operand).map _
  | .binary op left right => by
    unfold ofNode
    dsimp only
    split
    · exact (ofNode_raises left).bind fun _ => (ofNode_raises right).bind fun _ => .pure _
    · split
      · exact readComparison_raises _ _ _ _
      · exact .error (unsupported_raised _ _ _)
  | .identifier _ | .integer _ | .float _ | .string _ | .bool _ | .nil | .array _ | .map _
  | .pair .. | .call .. | .builtin .. | .member .. | .chain _ | .slice .. | .conditional ..
  | .declaration .. | .closure _ | .pointer _ => by
    unfold ofNode
    exact .error (unsupported_raised _ _ _)

end Having

namespace PostAggregation

theorem textArgument_raises (fn : String) (args : List Node) :
    RaisesOnly (Error.Raised grammar) (textArgument fn args) := by
  unfold textArgument
  split
  · split
    · exact .ok _
    · split
      · exact .ok _
      · exact .error (invalidArgument_raised _ _ _)
  · exact .error (invalidArgument_raised _ _ _)

theorem readCall_raises (n : Node) : RaisesOnly (Error.Raised grammar) (readCall n) := by
  unfold readCall
  split
  · exact .error (unsupported_raised _ _ _)
  · split
    · refine (textArgument_raises _ _).bind fun _ => ?_
      split
      · exact .pure _
      · exact .error (invalidArgument_raised _ _ _)
    · split
      · exact (textArgument_raises _ _).map _
      · exact .error (unsupported_raised _ _ _)

theorem leaf_raises {n : Node} (hn : ∀ op l r, n ≠ .binary op l r) :
    RaisesOnly (Error.Raised grammar) (ofNode n) := by
  unfold ofNode
  split
  · exact absurd rfl (hn _ _ _)
  · split
    · exact .ok _
    · split
      · exact .ok _
      · exact .ok _
      · exact .ok _
      · exact .error (unsupported_raised _ _ _)
      · split
        · exact readCall_raises _
        · exact .error (unsupported_raised _ _ _)

theorem ofNode_raises : ∀ n : Node, RaisesOnly (Error.Raised grammar) (ofNode n)
  | .binary op left right => by
    unfold ofNode
    split
    · exact (ofNode_raises left).bind fun _ => (ofNode_raises right).bind fun _ => .pure _
    · exact .error (unsupported_raised _ _ _)
  | .identifier _ | .integer _ | .float _ | .string _ | .bool _ | .nil | .unary .. | .array _
  | .map _ | .pair .. | .call .. | .builtin .. | .member .. | .chain _ | .slice .. | .conditional ..
  | .declaration .. | .closure _ | .pointer _ => leaf_raises fun _ _ _ hb => Node.noConfusion hb

end PostAggregation

namespace Expr

/-- How a failure of the text grammar `g` on the source `src` is classified: the error names the
grammar; it is a syntax error exactly when the source is blank or does not parse, and it matches
exactly one sentinel; a blank source gives the bare empty-expression error, whose text has no
expression line, and every other error carries the source. -/
structure Error.Classified (e : Error) (g src : String) : Prop where
  grammar_eq : e.grammar = g
  parseFailure_iff : e.kind = .parseFailure ↔ Text.isBlank src = true ∨ ∃ se, parse src = .error se
  one_sentinel : e.is .parseFailure = !e.is .unsupported
  blank_eq : Text.isBlank src = true →
    e = { kind := .parseFailure, grammar := g, message := "empty expression" }
  blank_render : Text.isBlank src = true →
    e.render = "[SYNTAX_ERROR] empty expression in " ++ g ++ " expression"
  expression_eq : Text.isBlank src = false → e.expression = src

theorem readThen_classified {α : Type} {g src : String} (hg : g.isEmpty = false)
    {translate : Node → Except Error α} (htranslate : ∀ n, RaisesOnly (Error.Raised g) (translate n))
    {e : Error}
    (h : (read g src >>= fun n => (translate n).mapError (Error.withExpression src)) = .error e) :
    e.Classified g src := by
  unfold read at h
  by_cases hblank : Text.isBlank src = true
  · rw [if_pos hblank] at h
    cases h
    refine ⟨rfl, by simp [hblank], Error.is_parseFailure _, fun _ => rfl, fun _ => ?_, ?_⟩
    · simp [Error.render, ErrorKind.tag, hg, ← String.append_assoc]
    · simp [hblank]
  · rw [if_neg hblank] at h
    cases hparse : parse src with
    | error se =>
      rw [hparse] at h
      cases h
      exact ⟨rfl, by simp [hparse], Error.is_parseFailure _, fun hb => absurd hb hblank,
        fun hb => absurd hb hblank, fun _ => rfl⟩
    | ok n =>
      rw [hparse] at h
      change (translate n).mapError (Error.withExpression src) = .error e at h
      cases htr : translate n with
      | ok a =>
        rw [htr] at h
        cases h
      | error e₀ =>
        rw [htr] at h
        cases h
        -- the translation's error had no source, so it now carries this one
        have hraised := htranslate n e₀ htr
        have hkind : (Error.withExpression src e₀).kind = e₀.kind := by
          unfold Error.withExpression
          split <;> rfl
        refine ⟨?_, ?_, Error.is_parseFailure _, fun hb => absurd hb hblank, fun hb => absurd hb hblank,
          fun _ => by simp [Error.withExpression, hraised.expression_eq]⟩
        · unfold Error.withExpression
          split <;> exact hraised.grammar_eq
        · rw [hkind]
          simp [hblank, hraised.kind_ne, hparse]

end Expr

/-- Every failure of the three text grammars is a classified error: it names the grammar, it is a
syntax error exactly when the text is blank or does not parse and otherwise an unsupported
construct or an invalid argument, at any depth of the tree and for scripts inside
post-aggregation calls; a blank text gives the bare empty-expression error, and every other error
carries the text. -/
theorem text_failures_classified (src : String) :
    (∀ e, Filter.parse src = .error e → e.Classified "filter" src) ∧
      (∀ e, Having.parse src = .error e → e.Classified "having" src) ∧
      (∀ e, PostAggregation.parse src = .error e → e.Classified "postagg" src) :=
  ⟨fun _ h => readThen_classified (by decide) Filter.ofNode_raises h,
    fun _ h => readThen_classified (by decide) Having.ofNode_raises h,
    fun _ h => readThen_classified (by decide) PostAggregation.ofNode_raises h⟩

theorem name_comparison_unsupported :
    ∃ e, Having.parse "x > y" = .error e ∧ e.Classified "having" "x > y" ∧ e.is .unsupported = true := by
  have hfails : (Having.parse "x > y").isOk = false := by decide +kernel
  have hparses : (Expr.parse "x > y").isOk = true := by decide +kernel
  cases h : Having.parse "x > y" with
  | ok _ =>
    rw [h] at hfails
    cases hfails
  | error e =>
    have hc := (text_failures_classified "x > y").2.1 e h
    have hkind : e.kind ≠ .parseFailure := by
      intro hk
      rcases hc.parseFailure_iff.mp hk with hblank | ⟨se, hse⟩
      · revert hblank
        decide
      · rw [hse] at hparses
        cases hparses
    refine ⟨e, rfl, hc, ?_⟩
    have hsyntax : e.is .parseFailure = false := by simp [Error.is, hkind]
    rw [hc.one_sentinel] at hsyntax
    simpa using hsyntax

end DruidQuery
