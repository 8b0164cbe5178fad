import Mathlib
import DruidQuery.Proofs.TokenizerSteps

namespace DruidQuery.Expr

def ParseState.ahead (s : ParseState) : List (TokenKind × String) :=
  (s.tokens.toList.drop s.pos).map Token.view

namespace ParseState

variable {s : ParseState} {v : TokenKind × String} {xs rest : List (TokenKind × String)}

theorem token_of_ahead (h : s.ahead = v :: rest) : ∃ t, s.tokens[s.pos]? = some t ∧ t.view = v := by
  unfold ahead at h
  rcases hd : s.tokens.toList.drop s.pos with _ | ⟨t, ts⟩
  · simp [hd] at h
  · refine ⟨t, ?_, ?_⟩
    · have := congrArg List.head? hd
      rwa [List.head?_drop, Array.getElem?_toList] at this
    · simp only [hd, List.map_cons, List.cons.injEq] at h
      exact h.1

theorem ahead_append (h : s.ahead = xs ++ rest) : ({ s with pos := s.pos + xs.length } : ParseState).ahead = rest := by
  unfold ahead at *
  rw [← List.drop_drop, List.map_drop, h, List.drop_left' rfl]

theorem ahead_succ (h : s.ahead = v :: rest) : ({ s with pos := s.pos + 1 } : ParseState).ahead = rest :=
  ahead_append (show s.ahead = [v] ++ rest from h)

theorem lt_size_of_ahead {w : TokenKind × String} (h : s.ahead = v :: w :: rest) : s.pos + 1 < s.tokens.size := by
  have hlen := congrArg List.length h
  simp only [ahead, List.length_map, List.length_drop, Array.length_toList, List.length_cons] at hlen
  omega

end ParseState

namespace Parser

variable {α β : Type} {s s' : ParseState} {t : Token}

theorem bind_of_ok {m : ParseM α} {f : α → ParseM β} {a : α} (h : m s = .ok (a, s')) :
    (m >>= f) s = f a s' := by
  show (m s >>= fun p => f p.1 p.2) = _
  rw [h]
  rfl

theorem current_of (h : s.tokens[s.pos]? = some t) : current s = .ok (t, s) := by
  show Except.ok (s.tokens[s.pos]?.getD default, s) = _
  rw [h]
  rfl

theorem get_run : (get : ParseM ParseState) s = .ok (s, s) := rfl

theorem advance_of (h : s.pos + 1 < s.tokens.size) : advance s = .ok ((), { s with pos := s.pos + 1 }) := by
  unfold advance
  rw [bind_of_ok get_run, if_pos h]
  rfl

theorem at_of (h : s.tokens[s.pos]? = some t) (k : TokenKind) (text : String) :
    at? k text s = .ok (t.is k text, s) := by
  unfold at?
  rw [bind_of_ok (current_of h)]
  rfl

theorem expect_of {k : TokenKind} {text : String} (h : s.tokens[s.pos]? = some t) (hk : t.is k text = true)
    (hn : s.pos + 1 < s.tokens.size) : expect k text s = .ok ((), { s with pos := s.pos + 1 }) := by
  unfold expect
  rw [bind_of_ok (current_of h)]
  simp only [hk, if_true]
  exact advance_of hn

theorem expression_eq (fuel prec : Nat) (h : s.tokens[s.pos]? = some t) (hlet : t.is .operator "let" = false) :
    expression (fuel + 1) prec s =
      (do
        let left ← primary fuel
        let node ← binaryLoop fuel prec left ""
        if prec = 0 then conditional fuel node else pure node) s := by
  rw [expression, bind_of_ok (at_of h _ _)]
  simp only [hlet, Bool.and_false, Bool.false_eq_true, if_false]

theorem conditional_stop (fuel : Nat) (node : Node) (h : s.tokens[s.pos]? = some t)
    (hq : t.is .operator "?" = false) : conditional (fuel + 1) node s = .ok (node, s) := by
  rw [conditional, bind_of_ok (at_of h _ _)]
  simp only [hq, Bool.not_false, if_true]
  rfl

theorem binaryLoop_not_operator (fuel prec : Nat) (left : Node) (previous : String)
    (h : s.tokens[s.pos]? = some t) (hk : t.kind ≠ .operator) :
    binaryLoop (fuel + 1) prec left previous s = .ok (left, s) := by
  rw [binaryLoop, bind_of_ok (current_of h)]
  simp only [bne_iff_ne, ne_eq, hk, not_false_eq_true, if_true]
  rfl

theorem binaryLoop_below (fuel prec : Nat) (left : Node) (previous : String)
    (h : s.tokens[s.pos]? = some t) (hk : t.kind = .operator) (hnot : t.text ≠ "not") {p : Nat} {r : Bool}
    (hp : binaryPrecedence t.text = some (p, r)) (hlt : p < prec) :
    binaryLoop (fuel + 1) prec left previous s = .ok (left, s) := by
  rw [binaryLoop, bind_of_ok (current_of h)]
  simp only [hk, bne_self_eq_false, Bool.false_eq_true, if_false]
  rw [bind_of_ok get_run]
  simp only [hnot, if_false, pure_bind, Option.getD_none, hp, if_pos hlt]
  rfl

theorem binaryLoop_arith (fuel prec : Nat) (left : Node) (previous : String)
    (h : s.tokens[s.pos]? = some t) (hk : t.kind = .operator) (hop : t.text ∈ ["+", "-", "*", "/"])
    {p : Nat} (hp : binaryPrecedence t.text = some (p, false)) (hle : prec ≤ p) (hprev : previous ≠ "??")
    (hn : s.pos + 1 < s.tokens.size) :
    binaryLoop (fuel + 1) prec left previous s =
      (do
        let right ← expression fuel (p + 1)
        binaryLoop fuel prec (.binary t.text left right) t.text) { s with pos := s.pos + 1 } := by
  have hnot : t.text ≠ "not" := by simp at hop; rcases hop with h | h | h | h <;> simp [h]
  have hpipe : t.text ≠ "|" := by simp at hop; rcases hop with h | h | h | h <;> simp [h]
  have hord : isOrdering t.text = false := by simp at hop; rcases hop with h | h | h | h <;> simp [h] <;> rfl
  rw [binaryLoop, bind_of_ok (current_of h)]
  simp only [hk, bne_self_eq_false, Bool.false_eq_true, if_false]
  rw [bind_of_ok get_run]
  simp only [hnot, if_false, pure_bind, Option.getD_none, hp, if_neg (Nat.not_lt.mpr hle)]
  rw [bind_of_ok (advance_of hn)]
  simp only [hpipe, hprev, hord, decide_false, Bool.false_and, Bool.false_eq_true, if_false, Option.isSome_none]

theorem primary_unary (fuel : Nat) (h : s.tokens[s.pos]? = some t) (hk : t.kind = .operator) {p : Nat}
    (hu : unaryPrecedence t.text = some p) (hn : s.pos + 1 < s.tokens.size) :
    primary (fuel + 1) s =
      (do
        let operand ← expression fuel p
        accessors fuel (.unary t.text operand)) { s with pos := s.pos + 1 } := by
  rw [primary, bind_of_ok (current_of h)]
  simp only [hk, beq_self_eq_true, if_true, hu]
  rw [bind_of_ok (advance_of hn)]

theorem primary_paren (fuel : Nat) (h : s.tokens[s.pos]? = some t) (hb : t.is .bracket "(" = true)
    (hn : s.pos + 1 < s.tokens.size) :
    primary (fuel + 1) s =
      (do
        let inner ← expression fuel 0
        expect .bracket ")"
        accessors fuel inner) { s with pos := s.pos + 1 } := by
  have hk : t.kind = .bracket := by simp [Token.is] at hb; exact hb.1
  rw [primary, bind_of_ok (current_of h)]
  simp only [hk, reduceCtorEq, beq_iff_eq, if_false, hb, if_true]
  rw [bind_of_ok (advance_of hn)]

theorem primary_secondary (fuel : Nat) (h : s.tokens[s.pos]? = some t) (hk : t.kind ≠ .operator)
    (hb : t.is .bracket "(" = false) : primary (fuel + 1) s = secondary fuel s := by
  have hop : ∀ text, t.is .operator text = false := fun text => by simp [Token.is, hk]
  rw [primary, bind_of_ok (current_of h)]
  simp only [beq_iff_eq, hk, if_false, hb, Bool.false_eq_true]
  rw [bind_of_ok get_run]
  simp only [hop, Bool.or_false, Bool.false_eq_true, if_false]

theorem secondary_number (fuel : Nat) (h : s.tokens[s.pos]? = some t) (hk : t.kind = .number)
    (hn : s.pos + 1 < s.tokens.size) : secondary (fuel + 1) s = numberNode t { s with pos := s.pos + 1 } := by
  rw [secondary, bind_of_ok (current_of h)]
  simp only [hk]
  rw [bind_of_ok (advance_of hn)]

theorem secondary_identifier (fuel : Nat) (h : s.tokens[s.pos]? = some t) (hk : t.kind = .identifier)
    (hword : t.text ≠ "true" ∧ t.text ≠ "false" ∧ t.text ≠ "nil") {t' : Token}
    (h' : s.tokens[s.pos + 1]? = some t') (hcall : t'.is .bracket "(" = false) :
    secondary (fuel + 1) s = accessors fuel (.identifier t.text) { s with pos := s.pos + 1 } := by
  have hn : s.pos + 1 < s.tokens.size := by
    rcases Nat.lt_or_ge (s.pos + 1) s.tokens.size with hlt | hge
    · exact hlt
    · simp [Array.getElem?_eq_none hge] at h'
  rw [secondary, bind_of_ok (current_of h)]
  simp only [hk]
  rw [bind_of_ok (advance_of hn)]
  simp only [hword.1, hword.2.1, hword.2.2, if_false]
  rw [bind_of_ok (at_of (s := { s with pos := s.pos + 1 }) h' _ _)]
  simp only [hcall, Bool.false_eq_true, if_false, pure_bind]

theorem accessors_stop (fuel : Nat) (node : Node) (h : s.tokens[s.pos]? = some t)
    (ht : t.text ≠ "." ∧ t.text ≠ "?." ∧ t.text ≠ "[") : accessors (fuel + 1) node s = .ok (node, s) := by
  rw [accessors, bind_of_ok (current_of h)]
  by_cases hk : (!(t.kind == .operator || t.kind == .bracket)) = true
  · rw [if_pos hk]
    rfl
  · rw [if_neg hk]
    simp only [ht.1, ht.2.1, ht.2.2, decide_false, Bool.or_false, Bool.false_eq_true, if_false]
    rfl

def Stops (prec : Nat) (t : Token) : Prop :=
  t.kind ≠ .operator ∨ (t.text ≠ "not" ∧ ∃ p r, binaryPrecedence t.text = some (p, r) ∧ p < prec)

theorem binaryLoop_stop (fuel prec : Nat) (left : Node) (previous : String)
    (h : s.tokens[s.pos]? = some t) (hs : Stops prec t) :
    binaryLoop (fuel + 1) prec left previous s = .ok (left, s) := by
  rcases hs with hk | ⟨hnot, p, r, hp, hlt⟩
  · exact binaryLoop_not_operator fuel prec left previous h hk
  · by_cases hk : t.kind = .operator
    · exact binaryLoop_below fuel prec left previous h hk hnot hp hlt
    · exact binaryLoop_not_operator fuel prec left previous h hk

theorem expression_operand {fuel prec : Nat} {node : Node} {t' : Token} (h : s.tokens[s.pos]? = some t)
    (hlet : t.is .operator "let" = false) (hp : primary (fuel + 1) s = .ok (node, s'))
    (h' : s'.tokens[s'.pos]? = some t') (hs : Stops prec t') :
    expression (fuel + 2) prec s = .ok (node, s') := by
  rw [expression_eq (fuel + 1) prec h hlet, bind_of_ok hp, bind_of_ok (binaryLoop_stop fuel prec node "" h' hs)]
  by_cases hprec : prec = 0
  · -- at the top precedence only a non-operator stops the loop, and it starts no conditional
    subst hprec
    have hk : t'.kind ≠ .operator := by
      rcases hs with hk | ⟨-, p, r, -, hlt⟩
      · exact hk
      · exact absurd hlt (Nat.not_lt_zero p)
    rw [if_pos rfl]
    exact conditional_stop fuel node h' (by simp [Token.is, hk])
  · rw [if_neg hprec]
    rfl

theorem binaryPrecedence_arith {op : String} (hop : op ∈ ["+", "-", "*", "/"]) :
    ∃ p, binaryPrecedence op = some (p, false) := by
  simp only [List.mem_cons, List.not_mem_nil, or_false] at hop
  rcases hop with rfl | rfl | rfl | rfl
  · exact ⟨30, rfl⟩
  · exact ⟨30, rfl⟩
  · exact ⟨60, rfl⟩
  · exact ⟨60, rfl⟩

theorem expression_binary {fuel : Nat} {left right : Node} {s₁ s₂ : ParseState} {o c : Token}
    (h : s.tokens[s.pos]? = some t) (hlet : t.is .operator "let" = false)
    (hl : primary (fuel + 2) s = .ok (left, s₁)) (ho : s₁.tokens[s₁.pos]? = some o) (hk : o.kind = .operator)
    (harith : o.text ∈ ["+", "-", "*", "/"]) (hn : s₁.pos + 1 < s₁.tokens.size)
    (hr : ∀ prec, expression (fuel + 1) prec { s₁ with pos := s₁.pos + 1 } = .ok (right, s₂))
    (hc : s₂.tokens[s₂.pos]? = some c) (hck : c.kind ≠ .operator) :
    expression (fuel + 3) 0 s = .ok (.binary o.text left right, s₂) := by
  obtain ⟨p, hp⟩ := binaryPrecedence_arith harith
  have hloop : binaryLoop (fuel + 2) 0 left "" s₁ = .ok (.binary o.text left right, s₂) := by
    rw [binaryLoop_arith (fuel + 1) 0 left "" ho hk harith hp (Nat.zero_le p) (by decide) hn,
      bind_of_ok (hr (p + 1))]
    exact binaryLoop_not_operator fuel 0 _ _ hc hck
  rw [expression_eq (fuel + 2) 0 h hlet, bind_of_ok hl, bind_of_ok hloop, if_pos rfl]
  exact conditional_stop (fuel + 1) _ hc (by simp [Token.is, hck])

theorem lt_size_of_getElem? {a : Array Token} {i : Nat} {x : Token} (h : a[i]? = some x) : i < a.size :=
  (Array.getElem?_eq_some_iff.mp h).1

theorem primary_parenthesized {fuel : Nat} {inner : Node} {s₁ : ParseState} {c t₂ : Token}
    (h : s.tokens[s.pos]? = some t) (hb : t.is .bracket "(" = true) (hn : s.pos + 1 < s.tokens.size)
    (hin : expression (fuel + 1) 0 { s with pos := s.pos + 1 } = .ok (inner, s₁))
    (hc : s₁.tokens[s₁.pos]? = some c) (hcb : c.is .bracket ")" = true)
    (h₂ : s₁.tokens[s₁.pos + 1]? = some t₂) (hacc : t₂.text ≠ "." ∧ t₂.text ≠ "?." ∧ t₂.text ≠ "[") :
    primary (fuel + 2) s = .ok (inner, { s₁ with pos := s₁.pos + 1 }) := by
  rw [primary_paren (fuel + 1) h hb hn, bind_of_ok hin, bind_of_ok (expect_of hc hcb (lt_size_of_getElem? h₂))]
  exact accessors_stop fuel inner h₂ hacc

theorem primary_negative {fuel : Nat} {operand : Node} {t' : Token} (h : s.tokens[s.pos]? = some t)
    (hk : t.kind = .operator) (ht : t.text = "-") (hn : s.pos + 1 < s.tokens.size)
    (hop : expression (fuel + 1) 90 { s with pos := s.pos + 1 } = .ok (operand, s'))
    (h' : s'.tokens[s'.pos]? = some t') (hacc : t'.text ≠ "." ∧ t'.text ≠ "?." ∧ t'.text ≠ "[") :
    primary (fuel + 2) s = .ok (.unary "-" operand, s') := by
  rw [primary_unary (fuel + 1) h hk (by rw [ht]; rfl) hn, bind_of_ok hop, ht]
  exact accessors_stop fuel _ h' hacc

theorem primary_number (fuel : Nat) (h : s.tokens[s.pos]? = some t) (hk : t.kind = .number)
    (hn : s.pos + 1 < s.tokens.size) : primary (fuel + 2) s = numberNode t { s with pos := s.pos + 1 } := by
  rw [primary_secondary (fuel + 1) h (by simp [hk]) (by simp [Token.is, hk]), secondary_number fuel h hk hn]

theorem primary_identifier (fuel : Nat) (h : s.tokens[s.pos]? = some t) (hk : t.kind = .identifier)
    (hword : t.text ≠ "true" ∧ t.text ≠ "false" ∧ t.text ≠ "nil") {t' : Token}
    (h' : s.tokens[s.pos + 1]? = some t') (hcall : t'.is .bracket "(" = false)
    (hacc : t'.text ≠ "." ∧ t'.text ≠ "?." ∧ t'.text ≠ "[") :
    primary (fuel + 3) s = .ok (.identifier t.text, { s with pos := s.pos + 1 }) := by
  rw [primary_secondary (fuel + 2) h (by simp [hk]) (by simp [Token.is, hk]),
    secondary_identifier (fuel + 1) h hk hword h' hcall]
  exact accessors_stop fuel _ h' hacc

end Parser

theorem parse_of_expression {src : String} {tokens : Array Token} {node : Node} {s' : ParseState} {t : Token}
    (htok : tokenize src = .ok tokens)
    (he : Parser.expression (8 * tokens.size + 8) 0 { tokens } = .ok (node, s'))
    (hend : s'.tokens[s'.pos]? = some t) (heof : t.kind = .eof) : parse src = .ok node := by
  rw [parse, htok]
  have hrun : ∀ r : ParseM Node, StateT.run r { tokens } = r { tokens } := fun _ => rfl
  show Except.map (fun x : Node × ParseState => x.1) (StateT.run _ { tokens }) = _
  rw [hrun, Parser.bind_of_ok he, Parser.bind_of_ok (Parser.current_of hend)]
  simp only [heof, bne_self_eq_false, Bool.false_eq_true, if_false]
  rfl

end DruidQuery.Expr
