import DruidQuery.Proofs.LexedNames

namespace DruidQuery

namespace Expr

namespace Node

mutual

def namesNonBlank : Node → Bool
  | .identifier name => !Text.isBlank name
  | .unary _ operand => operand.namesNonBlank
  | .binary _ left right => left.namesNonBlank && right.namesNonBlank
  | .array items => allNamesNonBlank items
  | .map entries => allNamesNonBlank entries
  | .pair key value => key.namesNonBlank && value.namesNonBlank
  | .call callee args => callee.namesNonBlank && allNamesNonBlank args
  | .builtin _ args => allNamesNonBlank args
  | .member target property _ => target.namesNonBlank && property.namesNonBlank
  | .chain inner => inner.namesNonBlank
  | .slice target lower upper =>
    target.namesNonBlank && someNamesNonBlank lower && someNamesNonBlank upper
  | .conditional test yes no => test.namesNonBlank && yes.namesNonBlank && no.namesNonBlank
  | .declaration _ value body => value.namesNonBlank && body.namesNonBlank
  | .closure body => body.namesNonBlank
  | .integer _ | .float _ | .string _ | .bool _ | .nil | .pointer _ => true

def allNamesNonBlank : List Node → Bool
  | [] => true
  | n :: ns => n.namesNonBlank && allNamesNonBlank ns

def someNamesNonBlank : Option Node → Bool
  | none => true
  | some n => n.namesNonBlank

end

theorem isBlank_path? : ∀ {n : Node} {name : String}, n.namesNonBlank = true →
    n.path? = some name → Text.isBlank name = false
  | .identifier s, name, hn, h => by
    simp only [path?, Option.some.injEq] at h
    subst h
    simpa [namesNonBlank] using hn
  | .chain inner, name, hn, h => isBlank_path? (n := inner) hn h
  | .member target (.string p) _, name, _, h => by
    simp only [path?, Option.map_eq_some_iff] at h
    obtain ⟨t, -, rfl⟩ := h
    have hdot : Text.isSpace '.' = false := by decide
    simp [Text.isBlank, String.toList_append, hdot]
  | .integer _, _, _, h | .float _, _, _, h | .string _, _, _, h | .bool _, _, _, h | .nil, _, _, h
  | .unary .., _, _, h | .binary .., _, _, h | .array _, _, _, h | .map _, _, _, h
  | .pair .., _, _, h | .call .., _, _, h | .builtin .., _, _, h | .slice .., _, _, h
  | .conditional .., _, _, h | .declaration .., _, _, h | .closure _, _, _, h
  | .pointer _, _, _, h => by
    simp [path?] at h

theorem allNamesNonBlank_eq_all : ∀ ns : List Node, allNamesNonBlank ns = ns.all namesNonBlank
  | [] => rfl
  | n :: ns => by rw [allNamesNonBlank, allNamesNonBlank_eq_all ns, List.all_cons]

@[simp] theorem allNamesNonBlank_append_singleton {ns : List Node} {n : Node} :
    allNamesNonBlank (ns ++ [n]) = (allNamesNonBlank ns && n.namesNonBlank) := by
  simp [allNamesNonBlank_eq_all]

end Node

def ParseState.Named (s : ParseState) : Prop := ∀ t ∈ s.tokens, t.Named

namespace Parser

def Keeps {α : Type} (P : α → Prop) (m : ParseM α) : Prop :=
  ∀ s, s.Named → ∀ a s', m s = .ok (a, s') → s'.Named ∧ P a

section Keeps

variable {α β : Type} {P : α → Prop} {Q : β → Prop}

theorem run_bind_eq_ok {m : ParseM α} {f : α → ParseM β} {s s' : ParseState} {b : β} :
    (m >>= f) s = .ok (b, s') ↔ ∃ a s₁, m s = .ok (a, s₁) ∧ f a s₁ = .ok (b, s') := by
  show (m s >>= fun p => f p.1 p.2) = _ ↔ _
  cases m s with
  | error e => simp [bind, Except.bind]
  | ok p =>
    obtain ⟨a, s₁⟩ := p
    simp [bind, Except.bind, and_assoc]

theorem keeps_pure {a : α} (h : P a) : Keeps P (pure a) := by
  intro s hs a' s' hrun
  cases hrun
  exact ⟨hs, h⟩

theorem Keeps.bind {m : ParseM α} {f : α → ParseM β} (hm : Keeps P m)
    (hf : ∀ a, P a → Keeps Q (f a)) : Keeps Q (m >>= f) := by
  intro s hs b s' hrun
  obtain ⟨a, s₁, h₁, h₂⟩ := run_bind_eq_ok.mp hrun
  obtain ⟨hs₁, ha⟩ := hm s hs a s₁ h₁
  exact hf a ha s₁ hs₁ b s' h₂

theorem keeps_pure_bind {a : α} {f : α → ParseM β} (h : Keeps Q (f a)) :
    Keeps Q (pure a >>= f) := by
  rw [pure_bind]
  exact h

theorem keeps_get : Keeps ParseState.Named (get : ParseM ParseState) := by
  intro s hs a s' hrun
  cases hrun
  exact ⟨hs, hs⟩

theorem keeps_set {s₀ : ParseState} (h : s₀.Named) :
    Keeps (fun _ => True) (set s₀ : ParseM Unit) := by
  intro s _ a s' hrun
  cases hrun
  exact ⟨h, trivial⟩

theorem keeps_throw {e : SyntaxError} : Keeps P (throw e : ParseM α) := by
  intro s _ a s' hrun
  cases hrun

theorem keeps_ite {c : Prop} [Decidable c] {a b : ParseM α} (ha : c → Keeps P a)
    (hb : ¬c → Keeps P b) : Keeps P (if c then a else b) := by
  split
  · rename_i h
    exact ha h
  · rename_i h
    exact hb h

theorem Keeps.map {m : ParseM α} {f : α → β} (hm : Keeps P m) (hf : ∀ a, P a → Q (f a)) :
    Keeps Q (f <$> m) := by
  rw [← bind_pure_comp]
  exact hm.bind fun a ha => keeps_pure (hf a ha)

theorem keeps_modify {f : ParseState → ParseState} (hf : ∀ s, (f s).tokens = s.tokens) :
    Keeps (fun _ => True) (modify f : ParseM Unit) := by
  intro s hs a s' hrun
  cases hrun
  exact ⟨fun t ht => hs t (hf s ▸ ht), trivial⟩

end Keeps

section Primitives

variable {α : Type} {P : α → Prop}

theorem current_run (s : ParseState) : current s = .ok (s.tokens[s.pos]?.getD default, s) := rfl

theorem current_named {s : ParseState} (hs : s.Named) :
    (s.tokens[s.pos]?.getD default).Named := by
  cases h : s.tokens[s.pos]? with
  | none => intro h; cases h
  | some t => exact hs t (Array.mem_of_getElem? h)

theorem keeps_current : Keeps Token.Named current :=
  keeps_get.bind fun _ hs => keeps_pure (current_named hs)

theorem keeps_failAt {t : Token} {message : String} : Keeps P (failAt t message : ParseM α) :=
  keeps_throw

theorem keeps_fail {message : String} : Keeps P (fail message : ParseM α) :=
  keeps_current.bind fun _ _ => keeps_failAt

theorem keeps_fail_bind {β : Type} {Q : β → Prop} {message : String} {f : α → ParseM β} :
    Keeps Q (fail message >>= f) := by
  intro s hs b s' hrun
  obtain ⟨a, s₁, h₁, -⟩ := run_bind_eq_ok.mp hrun
  exact (keeps_fail (P := fun _ => False) s hs a s₁ h₁).2.elim

theorem keeps_exhausted : Keeps P (exhausted : ParseM α) := keeps_fail

theorem keeps_advance : Keeps (fun _ => True) advance := by
  refine keeps_get.bind fun s hs => ?_
  split
  · exact keeps_set hs
  · exact keeps_fail

theorem keeps_at {k : TokenKind} {text : String} : Keeps (fun _ => True) (at? k text) :=
  keeps_current.bind fun _ _ => keeps_pure trivial

theorem keeps_advance_or_fail {c : Prop} [Decidable c] {t : Token} {message : String} :
    Keeps (fun _ => True) (if c then advance else failAt t message) :=
  keeps_ite (fun _ => keeps_advance) (fun _ => keeps_failAt)

theorem keeps_expect {k : TokenKind} {text : String} : Keeps (fun _ => True) (expect k text) :=
  keeps_current.bind fun _ _ => keeps_advance_or_fail

theorem keeps_expectKind {k : TokenKind} : Keeps (fun _ => True) (expectKind k) :=
  keeps_current.bind fun _ _ => keeps_advance_or_fail

theorem namesNonBlank_of_literal {β : Type} {x : Except String β} {k : β → Node}
    (hk : ∀ b, (k b).namesNonBlank = true) {g : String → String} {n : Node}
    (h : (k <$> x).mapError g = .ok n) : n.namesNonBlank = true := by
  cases x with
  | error e => cases h
  | ok b =>
    cases h
    exact hk b

theorem keeps_numberNode {t : Token} : Keeps (fun n => n.namesNonBlank = true) (numberNode t) := by
  unfold numberNode
  extract_lets value lower result
  cases hn : result with
  | error e => exact keeps_fail
  | ok n =>
    refine keeps_pure ?_
    simp only [result] at hn
    repeat' split at hn
    all_goals exact namesNonBlank_of_literal (fun _ => rfl) hn

theorem kind_of_expectKind {k : TokenKind} {s s' : ParseState} {u : Unit}
    (h : expectKind k s = .ok (u, s')) : (s.tokens[s.pos]?.getD default).kind = k := by
  unfold expectKind at h
  obtain ⟨t, s₁, h₁, h⟩ := run_bind_eq_ok.mp h
  rw [current_run] at h₁
  cases h₁
  split at h
  · rename_i hk
    simpa using hk
  · cases h

theorem keeps_identifier {β : Type} {Q : β → Prop} {k : Token → ParseM β}
    (hk : ∀ t : Token, Text.isBlank t.text = false → Keeps Q (k t)) :
    Keeps Q (current >>= fun t => expectKind .identifier >>= fun _ => k t) := by
  intro s hs b s' hrun
  obtain ⟨t, s₁, h₁, hrun⟩ := run_bind_eq_ok.mp hrun
  rw [current_run] at h₁
  cases h₁
  obtain ⟨u, s₂, h₂, hrun⟩ := run_bind_eq_ok.mp hrun
  have hname := current_named hs (kind_of_expectKind h₂)
  have hs₂ := (keeps_expectKind s hs u s₂ h₂).1
  exact hk _ hname s₂ hs₂ b s' hrun

end Primitives

theorem namesNonBlank_chainTarget {node : Node} (h : node.namesNonBlank = true) :
    (chainTarget node).1.namesNonBlank = true := by
  unfold chainTarget
  split
  · simpa [Node.namesNonBlank] using h
  · exact h

structure KeepsNames (fuel : Nat) : Prop where
  keepsExpression : ∀ p, Keeps (fun n => n.namesNonBlank = true) (expression fuel p)
  keepsBinaryLoop : ∀ p left previous, left.namesNonBlank = true →
    Keeps (fun n => n.namesNonBlank = true) (binaryLoop fuel p left previous)
  keepsComparison : ∀ left op p acc, left.namesNonBlank = true →
    Node.someNamesNonBlank acc = true → Keeps (fun n => n.namesNonBlank = true) (comparison fuel left op p acc)
  keepsConditional : ∀ node, node.namesNonBlank = true →
    Keeps (fun n => n.namesNonBlank = true) (conditional fuel node)
  keepsDeclaration : Keeps (fun n => n.namesNonBlank = true) (declaration fuel)
  keepsPrimary : Keeps (fun n => n.namesNonBlank = true) (primary fuel)
  keepsSecondary : Keeps (fun n => n.namesNonBlank = true) (secondary fuel)
  keepsAccessors : ∀ node, node.namesNonBlank = true →
    Keeps (fun n => n.namesNonBlank = true) (accessors fuel node)
  keepsIndex : ∀ node t optional, node.namesNonBlank = true →
    Keeps (fun n => n.namesNonBlank = true) (index fuel node t optional)
  keepsCall : ∀ name given, Text.isBlank name.text = false →
    Node.allNamesNonBlank given = true → Keeps (fun n => n.namesNonBlank = true) (call fuel name given)
  keepsCallNamed : ∀ name given, Text.isBlank name.text = false →
    Node.allNamesNonBlank given = true → Keeps (fun n => n.namesNonBlank = true) (callNamed fuel name given)
  keepsPredicateArguments : ∀ slots total i acc, Node.allNamesNonBlank acc = true →
    Keeps (fun ns => Node.allNamesNonBlank ns = true) (predicateArguments fuel slots total i acc)
  keepsClosure : Keeps (fun n => n.namesNonBlank = true) (closure fuel)
  keepsArguments : ∀ given, Node.allNamesNonBlank given = true →
    Keeps (fun ns => Node.allNamesNonBlank ns = true) (arguments fuel given)
  keepsArgumentList : ∀ acc given, Node.allNamesNonBlank acc = true →
    Keeps (fun ns => Node.allNamesNonBlank ns = true) (argumentList fuel acc given)
  keepsArrayLiteral : Keeps (fun n => n.namesNonBlank = true) (arrayLiteral fuel)
  keepsArrayItems : ∀ acc, Node.allNamesNonBlank acc = true →
    Keeps (fun ns => Node.allNamesNonBlank ns = true) (arrayItems fuel acc)
  keepsMapLiteral : Keeps (fun n => n.namesNonBlank = true) (mapLiteral fuel)
  keepsMapEntries : ∀ acc, Node.allNamesNonBlank acc = true →
    Keeps (fun ns => Node.allNamesNonBlank ns = true) (mapEntries fuel acc)

theorem keepsNames_zero : KeepsNames 0 where
  keepsExpression _ := by rw [expression]; exact keeps_exhausted
  keepsBinaryLoop _ _ _ _ := by rw [binaryLoop]; exact keeps_exhausted
  keepsComparison _ _ _ _ _ _ := by rw [comparison]; exact keeps_exhausted
  keepsConditional _ _ := by rw [conditional]; exact keeps_exhausted
  keepsDeclaration := by rw [declaration]; exact keeps_exhausted
  keepsPrimary := by rw [primary]; exact keeps_exhausted
  keepsSecondary := by rw [secondary]; exact keeps_exhausted
  keepsAccessors _ _ := by rw [accessors]; exact keeps_exhausted
  keepsIndex _ _ _ _ := by rw [index]; exact keeps_exhausted
  keepsCall _ _ _ _ := by rw [call]; exact keeps_exhausted
  keepsCallNamed _ _ _ _ := by rw [callNamed]; exact keeps_exhausted
  keepsPredicateArguments _ _ _ _ _ := by rw [predicateArguments]; exact keeps_exhausted
  keepsClosure := by rw [closure]; exact keeps_exhausted
  keepsArguments _ _ := by rw [arguments]; exact keeps_exhausted
  keepsArgumentList _ _ _ := by rw [argumentList]; exact keeps_exhausted
  keepsArrayLiteral := by rw [arrayLiteral]; exact keeps_exhausted
  keepsArrayItems _ _ := by rw [arrayItems]; exact keeps_exhausted
  keepsMapLiteral := by rw [mapLiteral]; exact keeps_exhausted
  keepsMapEntries _ _ := by rw [mapEntries]; exact keeps_exhausted

section Step

variable {fuel : Nat} (ih : KeepsNames fuel)
include ih

theorem keeps_expression (p : Nat) :
    Keeps (fun n => n.namesNonBlank = true) (expression (fuel + 1) p) := by
  rw [expression]
  refine keeps_at.bind fun b _ => ?_
  split
  · exact ih.keepsDeclaration
  · refine ih.keepsPrimary.bind fun left hleft => ?_
    refine (ih.keepsBinaryLoop p left "" hleft).bind fun node hnode => ?_
    split
    · exact ih.keepsConditional node hnode
    · exact keeps_pure hnode

theorem keeps_binaryLoop (p : Nat) (left : Node) (previous : String)
    (hleft : left.namesNonBlank = true) : Keeps (fun n => n.namesNonBlank = true) (binaryLoop (fuel + 1) p left previous) := by
  rw [binaryLoop]
  refine keeps_current.bind fun opToken _ => ?_
  split
  · exact keeps_pure hleft
  refine keeps_get.bind fun s hs => ?_
  -- the lookahead past `not` reads no name
  refine Keeps.bind (P := fun _ => True) ?_ fun negated _ => ?_
  · split
    · refine keeps_advance.bind fun _ _ => keeps_current.bind fun t _ => ?_
      split
      · split
        · split
          · exact keeps_pure trivial
          · exact (keeps_set hs).bind fun _ _ => keeps_pure trivial
        · exact (keeps_set hs).bind fun _ _ => keeps_pure trivial
      · exact keeps_failAt
    · exact keeps_pure trivial
  split
  · exact keeps_pure hleft
  rename_i notToken
  extract_lets op
  split
  · rename_i p₁ right _
    split
    · exact keeps_pure hleft
    refine keeps_advance.bind fun _ _ => ?_
    split
    · -- a pipe into a call
      refine keeps_identifier fun name hname => ?_
      have hgiven : Node.allNamesNonBlank [left] = true := by
        simp [Node.allNamesNonBlank, hleft]
      exact (ih.keepsCall name [left] hname hgiven).bind fun node hnode =>
        ih.keepsBinaryLoop p node op.text hnode
    split
    · exact keeps_failAt
    split
    · exact (ih.keepsComparison left op p₁ none hleft rfl).bind fun node hnode =>
        ih.keepsBinaryLoop p node op.text hnode
    · refine (ih.keepsExpression _).bind fun rightNode hright => ?_
      extract_lets node negatedNode
      refine ih.keepsBinaryLoop p negatedNode op.text ?_
      have hnode : node.namesNonBlank = true := by simp [node, Node.namesNonBlank, hleft, hright]
      simp only [negatedNode]
      split
      · simpa [Node.namesNonBlank] using hnode
      · exact hnode
  · exact keeps_pure hleft

theorem keeps_comparison (left : Node) (op : Token) (p : Nat) (acc : Option Node)
    (hleft : left.namesNonBlank = true) (hacc : Node.someNamesNonBlank acc = true) :
    Keeps (fun n => n.namesNonBlank = true) (comparison (fuel + 1) left op p acc) := by
  rw [comparison]
  refine (ih.keepsExpression _).bind fun right hright => ?_
  extract_lets link chain
  have hchain : chain.namesNonBlank = true := by
    simp only [chain, link]
    split <;> simp_all [Node.namesNonBlank, Node.someNamesNonBlank]
  refine keeps_current.bind fun t _ => ?_
  split
  · exact keeps_advance.bind fun _ _ => ih.keepsComparison right t p (some chain) hright hchain
  · exact keeps_pure hchain

theorem keeps_conditional (node : Node) (hnode : node.namesNonBlank = true) :
    Keeps (fun n => n.namesNonBlank = true) (conditional (fuel + 1) node) := by
  rw [conditional]
  refine keeps_at.bind fun _ _ => ?_
  split
  · exact keeps_pure hnode
  refine keeps_advance.bind fun _ _ => keeps_at.bind fun _ _ => ?_
  split
  · -- `test ?: no`
    refine keeps_advance.bind fun _ _ => (ih.keepsExpression 0).bind fun no hno => ?_
    exact ih.keepsConditional _ (by simp [Node.namesNonBlank, hnode, hno])
  · -- `test ? yes : no`
    refine (ih.keepsExpression 0).bind fun yes hyes => keeps_expect.bind fun _ _ => ?_
    refine (ih.keepsExpression 0).bind fun no hno => ?_
    exact ih.keepsConditional _ (by simp [Node.namesNonBlank, hnode, hyes, hno])

theorem keeps_declaration : Keeps (fun n => n.namesNonBlank = true) (declaration (fuel + 1)) := by
  rw [declaration]
  refine keeps_expect.bind fun _ _ => keeps_current.bind fun name _ => ?_
  refine keeps_expectKind.bind fun _ _ => keeps_expect.bind fun _ _ => ?_
  refine (ih.keepsExpression 0).bind fun value hvalue => keeps_expect.bind fun _ _ => ?_
  refine (ih.keepsExpression 0).bind fun body hbody => keeps_pure ?_
  simp [Node.namesNonBlank, hvalue, hbody]

theorem keeps_primary : Keeps (fun n => n.namesNonBlank = true) (primary (fuel + 1)) := by
  rw [primary]
  refine keeps_current.bind fun t _ => ?_
  -- the join points of the definition: the forms after the pointers, a pointer, and the forms
  -- after a unary operator
  extract_lets afterPointer name pointer afterUnary
  have hpointer : ∀ u name, Keeps (fun n => n.namesNonBlank = true) (pointer u name) :=
    fun _ _ => ih.keepsAccessors _ rfl
  have hafterPointer : ∀ u, Keeps (fun n => n.namesNonBlank = true) (afterPointer u) := by
    intro u
    refine keeps_ite (fun _ => ?_) (fun _ => ih.keepsSecondary)
    refine keeps_advance.bind fun _ _ => keeps_identifier fun name hname => ?_
    exact (ih.keepsCallNamed name [] hname rfl).bind ih.keepsAccessors
  have hafterUnary : ∀ u, Keeps (fun n => n.namesNonBlank = true) (afterUnary u) := by
    intro u
    refine keeps_ite (fun _ => ?_) (fun _ => keeps_get.bind fun _ _ => ?_)
    · refine keeps_advance.bind fun _ _ => (ih.keepsExpression 0).bind fun inner hinner => ?_
      exact keeps_expect.bind fun _ _ => ih.keepsAccessors inner hinner
    extract_lets depth
    refine keeps_ite (fun _ => ?_) (fun _ => hafterPointer ())
    refine keeps_ite (fun _ => ?_) (fun _ => keeps_fail_bind)
    refine keeps_ite (fun _ => ?_) (fun _ => hpointer () name)
    refine keeps_advance.bind fun _ _ => keeps_current.bind fun n _ => ?_
    refine keeps_ite (fun _ => ?_) (fun _ => hpointer () name)
    extract_lets name'
    exact keeps_advance.bind fun r _ => hpointer r name'
  refine keeps_ite (fun _ => ?_) (fun _ => hafterUnary ())
  cases unaryPrecedence t.text with
  | none => exact hafterUnary ()
  | some p =>
    refine keeps_advance.bind fun _ _ => (ih.keepsExpression _).bind fun operand hoperand => ?_
    exact ih.keepsAccessors _ (by simpa [Node.namesNonBlank] using hoperand)

theorem keeps_secondary : Keeps (fun n => n.namesNonBlank = true) (secondary (fuel + 1)) := by
  rw [secondary]
  refine keeps_current.bind fun t ht => ?_
  split
  · -- a name: a constant, a call, or an identifier
    rename_i hkind
    refine keeps_advance.bind fun _ _ => ?_
    split
    · exact keeps_pure rfl
    split
    · exact keeps_pure rfl
    split
    · exact keeps_pure rfl
    refine keeps_at.bind fun _ _ => ?_
    extract_lets afterName
    split
    · exact (ih.keepsCall t [] (ht hkind) rfl).bind ih.keepsAccessors
    · exact keeps_pure_bind (ih.keepsAccessors _ (by simpa [Node.namesNonBlank] using ht hkind))
  · exact keeps_advance.bind fun _ _ => keeps_numberNode
  · exact keeps_advance.bind fun _ _ => ih.keepsAccessors _ rfl
  · split
    · exact ih.keepsArrayLiteral.bind ih.keepsAccessors
    split
    · exact ih.keepsMapLiteral.bind ih.keepsAccessors
    · exact keeps_failAt

theorem keeps_accessors (node : Node) (hnode : node.namesNonBlank = true) :
    Keeps (fun n => n.namesNonBlank = true) (accessors (fuel + 1) node) := by
  rw [accessors]
  refine keeps_current.bind fun t _ => keeps_ite (fun _ => keeps_pure hnode) (fun _ => ?_)
  extract_lets optional
  refine keeps_ite (fun _ => ?_) (fun _ => ?_)
  · refine keeps_advance.bind fun _ _ => keeps_current.bind fun property _ => ?_
    refine keeps_ite (fun _ => ?_) (fun _ => ?_)
    · exact (ih.keepsIndex node property true hnode).bind ih.keepsAccessors
    refine keeps_advance.bind fun _ _ => ?_
    extract_lets afterName
    have hafterName : ∀ u, Keeps (fun n => n.namesNonBlank = true) (afterName u) := by
      intro u
      simp -zeta only [afterName]
      have htarget := namesNonBlank_chainTarget hnode
      rcases hchain : chainTarget node with ⟨target, wasChain⟩
      rw [hchain] at htarget
      extract_lets memberNode continued
      have hmember : memberNode.namesNonBlank = true := by
        simp [memberNode, Node.namesNonBlank, htarget]
      have hcontinued : ∀ n, n.namesNonBlank = true →
          Keeps (fun n => n.namesNonBlank = true) (continued n) := by
        intro n hn
        apply ih.keepsAccessors
        split <;> simp [Node.namesNonBlank, hn]
      refine keeps_at.bind fun _ _ =>
        keeps_ite (fun _ => ?_) (fun _ => keeps_pure_bind (hcontinued _ hmember))
      refine (ih.keepsArguments [] rfl).bind fun args hargs => keeps_pure_bind (hcontinued _ ?_)
      simp [Node.namesNonBlank, hmember, hargs]
    exact keeps_ite (fun _ => keeps_fail_bind) (fun _ => hafterName ())
  refine keeps_ite (fun _ => ?_) (fun _ => keeps_pure hnode)
  exact (ih.keepsIndex node t false hnode).bind ih.keepsAccessors

theorem keeps_index (node : Node) (t : Token) (optional : Bool)
    (hnode : node.namesNonBlank = true) :
    Keeps (fun n => n.namesNonBlank = true) (index (fuel + 1) node t optional) := by
  rw [index]
  refine keeps_advance.bind fun _ _ => keeps_at.bind fun _ _ =>
    keeps_ite (fun _ => ?_) (fun _ => ?_)
  · -- `[:upper]`
    refine keeps_advance.bind fun _ _ => keeps_at.bind fun _ _ => ?_
    extract_lets slice
    have hslice : ∀ upper, Node.someNamesNonBlank upper = true →
        Keeps (fun n => n.namesNonBlank = true) (slice upper) := fun upper hupper =>
      keeps_expect.bind fun _ _ =>
        keeps_pure (by simp [Node.namesNonBlank, Node.someNamesNonBlank, hnode, hupper])
    refine keeps_ite (fun _ => keeps_pure_bind (hslice none rfl)) (fun _ => ?_)
    exact ((ih.keepsExpression 0).map fun _ h => h).bind hslice
  refine (ih.keepsExpression 0).bind fun lower hlower => keeps_at.bind fun _ _ => ?_
  refine keeps_ite (fun _ => ?_) (fun _ => ?_)
  · -- `[lower:upper]`
    refine keeps_advance.bind fun _ _ => keeps_at.bind fun _ _ => ?_
    extract_lets slice
    have hslice : ∀ upper, Node.someNamesNonBlank upper = true →
        Keeps (fun n => n.namesNonBlank = true) (slice upper) := fun upper hupper =>
      keeps_expect.bind fun _ _ =>
        keeps_pure (by simp [Node.namesNonBlank, Node.someNamesNonBlank, hnode, hlower, hupper])
    refine keeps_ite (fun _ => keeps_pure_bind (hslice none rfl)) (fun _ => ?_)
    exact ((ih.keepsExpression 0).map fun _ h => h).bind hslice
  · -- `[index]`
    extract_lets m
    refine keeps_expect.bind fun _ _ => keeps_pure ?_
    split <;> simp [m, Node.namesNonBlank, hnode, hlower]

theorem keeps_callNamed (name : Token) (given : List Node) (hname : Text.isBlank name.text = false)
    (hgiven : Node.allNamesNonBlank given = true) :
    Keeps (fun n => n.namesNonBlank = true) (callNamed (fuel + 1) name given) := by
  rw [callNamed]
  split
  · refine keeps_expect.bind fun _ _ => (ih.keepsPredicateArguments _ _ _ given hgiven).bind ?_
    intro args hargs
    exact keeps_expect.bind fun _ _ => keeps_pure (by simpa [Node.namesNonBlank] using hargs)
  · refine (ih.keepsArguments given hgiven).bind fun args hargs =>
      keeps_ite (fun _ => ?_) (fun _ => ?_)
    · exact keeps_pure (by simpa [Node.namesNonBlank] using hargs)
    · exact keeps_pure (by simp [Node.namesNonBlank, hname, hargs])

theorem keeps_predicateArguments (slots : List Slot) (total i : Nat) (acc : List Node)
    (hacc : Node.allNamesNonBlank acc = true) :
    Keeps (fun ns => Node.allNamesNonBlank ns = true)
      (predicateArguments (fuel + 1) slots total i acc) := by
  cases slots with
  | nil =>
    rw [predicateArguments]
    · exact keeps_pure hacc
    · exact Nat.succ_ne_zero fuel
  | cons slot rest =>
    rw [predicateArguments]
    extract_lets next afterComma afterCheck
    have hnext : ∀ node, node.namesNonBlank = true →
        Keeps (fun ns => Node.allNamesNonBlank ns = true) (next node) := fun node hnode =>
      ih.keepsPredicateArguments rest total (i + 1) (acc ++ [node]) (by simp [hacc, hnode])
    have hafterComma : ∀ u, Keeps (fun ns => Node.allNamesNonBlank ns = true) (afterComma u) :=
      fun _ => keeps_ite (fun _ => ih.keepsClosure.bind hnext)
        (fun _ => (ih.keepsExpression 0).bind hnext)
    have hafterCheck : ∀ u, Keeps (fun ns => Node.allNamesNonBlank ns = true) (afterCheck u) :=
      fun _ => keeps_ite (fun _ => keeps_expect.bind fun r _ => hafterComma r)
        (fun _ => hafterComma ())
    refine keeps_at.bind fun closing _ => keeps_ite (fun _ => keeps_pure hacc) (fun _ => ?_)
    exact keeps_ite (fun _ => keeps_fail_bind) (fun _ => hafterCheck ())

theorem keeps_closure : Keeps (fun n => n.namesNonBlank = true) (closure (fuel + 1)) := by
  rw [closure]
  refine keeps_at.bind fun braced _ => ?_
  extract_lets afterBrace
  have hafterBrace : ∀ u, Keeps (fun n => n.namesNonBlank = true) (afterBrace u) := by
    intro u
    -- entering and leaving the closure changes only the depth
    refine (keeps_modify (by intro; rfl)).bind fun _ _ => ?_
    refine (ih.keepsExpression 0).bind fun body hbody => ?_
    refine (keeps_modify (by intro; rfl)).bind fun _ _ => ?_
    extract_lets finish
    have hfinish : ∀ u, Keeps (fun n => n.namesNonBlank = true) (finish u) :=
      fun _ => keeps_pure hbody
    exact keeps_ite (fun _ => keeps_expect.bind fun r _ => hfinish r) (fun _ => hfinish ())
  exact keeps_ite (fun _ => keeps_advance.bind fun r _ => hafterBrace r) (fun _ => hafterBrace ())

theorem keeps_arguments (given : List Node) (hgiven : Node.allNamesNonBlank given = true) :
    Keeps (fun ns => Node.allNamesNonBlank ns = true) (arguments (fuel + 1) given) := by
  rw [arguments]
  refine keeps_expect.bind fun _ _ => (ih.keepsArgumentList given given.length hgiven).bind ?_
  exact fun args hargs => keeps_expect.bind fun _ _ => keeps_pure hargs

theorem keeps_argumentList (acc : List Node) (given : Nat)
    (hacc : Node.allNamesNonBlank acc = true) : Keeps (fun ns => Node.allNamesNonBlank ns = true) (argumentList (fuel + 1) acc given) := by
  rw [argumentList]
  extract_lets next
  have hnext : ∀ u, Keeps (fun ns => Node.allNamesNonBlank ns = true) (next u) := fun _ =>
    (ih.keepsExpression 0).bind fun node hnode =>
      ih.keepsArgumentList _ given (by simp [hacc, hnode])
  refine keeps_at.bind fun _ _ => keeps_ite (fun _ => keeps_pure hacc) (fun _ => ?_)
  exact keeps_ite (fun _ => keeps_expect.bind fun r _ => hnext r) (fun _ => hnext ())

theorem keeps_arrayItems (acc : List Node) (hacc : Node.allNamesNonBlank acc = true) :
    Keeps (fun ns => Node.allNamesNonBlank ns = true) (arrayItems (fuel + 1) acc) := by
  rw [arrayItems]
  extract_lets next
  have hnext : ∀ u, Keeps (fun ns => Node.allNamesNonBlank ns = true) (next u) := fun _ =>
    (ih.keepsExpression 0).bind fun node hnode => ih.keepsArrayItems _ (by simp [hacc, hnode])
  refine keeps_at.bind fun _ _ => keeps_ite (fun _ => keeps_pure hacc) (fun _ => ?_)
  refine keeps_ite (fun _ => ?_) (fun _ => hnext ())
  -- a trailing comma
  exact keeps_expect.bind fun _ _ => keeps_at.bind fun _ _ =>
    keeps_ite (fun _ => keeps_pure hacc) (fun _ => hnext ())

theorem keeps_mapEntries (acc : List Node) (hacc : Node.allNamesNonBlank acc = true) :
    Keeps (fun ns => Node.allNamesNonBlank ns = true) (mapEntries (fuel + 1) acc) := by
  rw [mapEntries]
  extract_lets entry afterComma
  have hentry : ∀ key : Node, key.namesNonBlank = true →
      Keeps (fun ns => Node.allNamesNonBlank ns = true) (entry key) := fun key hkey =>
    keeps_expect.bind fun _ _ => (ih.keepsExpression 0).bind fun value hvalue =>
      ih.keepsMapEntries _ (by simp [hacc, Node.namesNonBlank, hkey, hvalue])
  have hafterComma : ∀ u, Keeps (fun ns => Node.allNamesNonBlank ns = true) (afterComma u) := by
    intro u
    refine keeps_current.bind fun t _ => keeps_ite (fun _ => ?_) (fun _ => ?_)
    · exact keeps_advance.bind fun _ _ => keeps_pure_bind (hentry _ rfl)
    · exact keeps_ite (fun _ => (ih.keepsExpression 0).bind hentry)
        (fun _ => keeps_fail.bind hentry)
  refine keeps_at.bind fun _ _ => keeps_ite (fun _ => keeps_pure hacc) (fun _ => ?_)
  refine keeps_ite (fun _ => ?_) (fun _ => hafterComma ())
  -- a trailing comma, or a second comma
  refine keeps_expect.bind fun _ _ => keeps_at.bind fun _ _ => ?_
  refine keeps_ite (fun _ => keeps_pure hacc) (fun _ => keeps_at.bind fun _ _ => ?_)
  exact keeps_ite (fun _ => keeps_current.bind fun _ _ => keeps_fail_bind)
    (fun _ => hafterComma ())

end Step

theorem keepsNames : ∀ fuel, KeepsNames fuel
  | 0 => keepsNames_zero
  | fuel + 1 =>
    have ih := keepsNames fuel
    { keepsExpression := keeps_expression ih
      keepsBinaryLoop := keeps_binaryLoop ih
      keepsComparison := keeps_comparison ih
      keepsConditional := keeps_conditional ih
      keepsDeclaration := keeps_declaration ih
      keepsPrimary := keeps_primary ih
      keepsSecondary := keeps_secondary ih
      keepsAccessors := keeps_accessors ih
      keepsIndex := keeps_index ih
      keepsCall := fun name given hname hgiven => by
        rw [call]
        exact ih.keepsCallNamed name given hname hgiven
      keepsCallNamed := keeps_callNamed ih
      keepsPredicateArguments := keeps_predicateArguments ih
      keepsClosure := keeps_closure ih
      keepsArguments := keeps_arguments ih
      keepsArgumentList := keeps_argumentList ih
      keepsArrayLiteral := by
        rw [arrayLiteral]
        refine keeps_expect.bind fun _ _ => (ih.keepsArrayItems [] rfl).bind fun items hitems => ?_
        exact keeps_expect.bind fun _ _ => keeps_pure hitems
      keepsArrayItems := keeps_arrayItems ih
      keepsMapLiteral := by
        rw [mapLiteral]
        refine keeps_expect.bind fun _ _ => (ih.keepsMapEntries [] rfl).bind fun entries h => ?_
        exact keeps_expect.bind fun _ _ => keeps_pure h
      keepsMapEntries := keeps_mapEntries ih }

end Parser

theorem parse_names {src : String} {n : Node} (h : parse src = .ok n) : n.namesNonBlank = true := by
  unfold parse at h
  cases htok : tokenize src with
  | error e =>
    rw [htok] at h
    cases h
  | ok tokens =>
    rw [htok] at h
    dsimp -zeta only [bind, Except.bind] at h
    extract_lets run at h
    have hrun : Parser.Keeps (fun n => n.namesNonBlank = true) run := by
      refine ((Parser.keepsNames _).keepsExpression 0).bind fun node hnode => ?_
      refine Parser.keeps_current.bind fun t _ => ?_
      extract_lets finish
      exact Parser.keeps_ite (fun _ => (Parser.keeps_failAt (P := fun _ => True)).bind fun _ _ =>
        Parser.keeps_pure hnode) (fun _ => Parser.keeps_pure hnode)
    cases hr : StateT.run run { tokens } with
    | error e =>
      rw [hr] at h
      cases h
    | ok p =>
      rw [hr] at h
      cases h
      exact (hrun _ (tokenize_names htok) p.1 p.2 hr).2

/-- Every name of a tree read from a source text is a word. -/
theorem read_names {grammar src : String} {n : Node} (h : read grammar src = .ok n) :
    n.namesNonBlank = true := by
  unfold read at h
  split at h
  · cases h
  · split at h
    · rename_i hparse
      cases h
      exact parse_names hparse
    · cases h

end Expr

end DruidQuery
