import Mathlib
import DruidQuery.Proofs.ParserSteps

namespace DruidQuery.Expr

namespace Numeral

def signedChars (neg : Bool) (n : Numeral) : List Char := (if neg then ['-'] else []) ++ n.chars

def signedTokens (neg : Bool) (n : Numeral) : List (TokenKind × String) :=
  (if neg then [(.operator, "-")] else []) ++ [(.number, String.ofList n.chars)]

def isWhole (n : Numeral) : Bool := n.fraction.isNone && n.power.isNone

def leaf (n : Numeral) : Node :=
  if n.isWhole then .integer (digitsValue n.whole) else .float (Decimal.ofDecimal n.mantissa n.scale)

/-- The node of a signed numeral. -/
def signedNode (neg : Bool) (n : Numeral) : Node := if neg then .unary "-" n.leaf else n.leaf

structure Reads (n : Numeral) : Prop where
  whole : n.isWhole = true → digitsValue n.whole < 2 ^ 63
  point : n.isWhole = false → (Decimal.ofDecimal n.mantissa n.scale).isInf = false

theorem isWhole_iff (n : Numeral) : n.isWhole = true ↔ n.fraction = none ∧ n.power = none := by
  simp [isWhole]

theorem isWhole_eq_false_iff (n : Numeral) :
    n.isWhole = false ↔ n.fraction.isSome ∨ n.power.isSome := by
  cases hf : n.fraction <;> cases hp : n.power <;> simp [isWhole, hf, hp]

theorem signedChars_head (neg : Bool) {n : Numeral} (hn : n.Valid) :
    ∃ c cs, n.signedChars neg = c :: cs ∧ Text.isSpace c = false := by
  obtain ⟨d, ds, hd⟩ := List.exists_cons_of_ne_nil hn.whole_ne
  have hdigit : Text.isSpace d = false :=
    isSpace_of_isAlphaNumeric (isAlphaNumeric_of_isDigit (hn.whole d (by simp [hd])))
  cases neg
  · exact ⟨d, ds ++ fractionChars n.fraction ++ powerChars n.power, by simp [signedChars, chars, hd],
      hdigit⟩
  · exact ⟨'-', _, rfl, by decide⟩

theorem signedTokens_head (neg : Bool) (n : Numeral) :
    ∃ w ws, n.signedTokens neg = w :: ws ∧ w ≠ (.operator, "let") := by
  cases neg
  · exact ⟨_, _, rfl, by simp⟩
  · exact ⟨_, _, rfl, by simp⟩

theorem ofNat_isWhole (m : Nat) : (ofNat m).isWhole = true := rfl

theorem ofNat_reads {m : Nat} (hm : m < 2 ^ 63) : (ofNat m).Reads where
  whole _ := by simpa [ofNat, digitsValue_toDigits] using hm
  point h := absurd (ofNat_isWhole m) (by simp [h])

end Numeral

namespace Lexer

variable {l l' : Lexer} {ts us : List (TokenKind × String)} {X Y rest : List Char}
  {P Q : List Char → Prop} {c : Char}

theorem Lexes.drop (hl : Lexes l ts l') (hpos : l'.pos = l.pos + X.length)
    (h : l.src.toList.drop l.pos = X ++ rest) : l'.src.toList.drop l'.pos = rest := by
  rw [hl.src, hpos, ← List.drop_drop, h, List.drop_left]

def LexesOver (X : List Char) (ts : List (TokenKind × String)) (P : List Char → Prop) : Prop :=
  ∀ ⦃l : Lexer⦄ ⦃rest : List Char⦄, l.start = l.pos → l.src.toList.drop l.pos = X ++ rest →
    P rest → ∃ l', Lexes l ts l' ∧ l'.pos = l.pos + X.length

theorem LexesOver.append (h₁ : LexesOver X ts P) (h₂ : LexesOver Y us Q)
    (hQ : ∀ rest, Q rest → P (Y ++ rest)) : LexesOver (X ++ Y) (ts ++ us) Q := by
  intro l rest hclean h hq
  have h' : l.src.toList.drop l.pos = X ++ (Y ++ rest) := by rw [h, List.append_assoc]
  obtain ⟨l₁, hl₁, hpos₁⟩ := h₁ hclean h' (hQ rest hq)
  obtain ⟨l₂, hl₂, hpos₂⟩ := h₂ hl₁.start (hl₁.drop hpos₁ h') hq
  exact ⟨l₂, hl₁.trans hl₂, by rw [hpos₂, hpos₁, List.length_append]; omega⟩

theorem LexesOver.mono (h : LexesOver X ts P) (hPQ : ∀ rest, Q rest → P rest) :
    LexesOver X ts Q :=
  fun _ _ hclean hl hq => h hclean hl (hPQ _ hq)

theorem lexesOver_bracket (hc : c = '(' ∨ c = ')') :
    LexesOver [c] [(.bracket, String.singleton c)] P := by
  intro l rest hclean h _
  exact ⟨_, lexes_emit (by simp) hclean h (step_bracket hc h), rfl⟩

theorem lexesOver_space : LexesOver [' '] [] P :=
  fun _ _ _ h _ => ⟨_, lexes_space h, rfl⟩

theorem lexesOver_arith (hc : c ∈ ['+', '-', '*', '/']) :
    LexesOver [c] [(.operator, String.singleton c)] (fun rest => rest.head? = some ' ') := by
  intro l rest hclean h hspace
  obtain ⟨rest', rfl⟩ : ∃ rest', rest = ' ' :: rest' := by
    cases rest with
    | nil => cases hspace
    | cons d rest' => exact ⟨rest', by simpa using hspace⟩
  exact ⟨_, lexes_emit (by simp) hclean h (step_arith hc h), rfl⟩

theorem lexesOver_name {name : String} (hname : isName name = true) (hnot : name ≠ "not")
    (hop : operatorWords.contains name = false) :
    LexesOver name.toList [(.identifier, name)] (fun rest => ∀ c ∈ rest.head?, isAlphaNumeric c = false) :=
  fun _ _ hclean h hrest => ⟨_, lexes_name hname hnot hop hclean h hrest, rfl⟩

theorem lexesOver_minus : LexesOver ['-'] [(.operator, "-")] P :=
  fun _ _ hclean h _ => ⟨_, lexes_emit (by simp) hclean h (step_sign (.inr rfl) h), rfl⟩

theorem lexesOver_numeral {n : Numeral} (hn : n.Valid) :
    LexesOver n.chars [(.number, String.ofList n.chars)] (fun rest => ∀ c ∈ rest.head?, Follows c) :=
  fun _ _ hclean h hrest => ⟨_, lexes_numeral hn hclean h hrest, rfl⟩

theorem lexesOver_signed {neg : Bool} {n : Numeral} (hn : n.Valid) :
    LexesOver (n.signedChars neg) (n.signedTokens neg) (fun rest => ∀ c ∈ rest.head?, Follows c) := by
  cases neg with
  | false => simpa [Numeral.signedChars, Numeral.signedTokens] using lexesOver_numeral hn
  | true =>
    simpa [Numeral.signedChars, Numeral.signedTokens] using
      (lexesOver_minus (P := fun _ => True)).append (lexesOver_numeral hn) fun _ _ => trivial

theorem tokenize_of_lexesOver {src : String} (h : LexesOver src.toList ts P) (hP : P []) :
    ∃ tokens, tokenize src = .ok tokens ∧ tokens.toList.map Token.view = ts ++ [(.eof, "")] := by
  obtain ⟨l', hl, hpos⟩ := h (l := { src := src.toList.toArray }) rfl (by simp) hP
  exact tokenize_of_lexes hl (by simpa using hpos)

end Lexer

theorem Token.is_eq_false {t : Token} {k : TokenKind} {text : String} (h : t.view ≠ (k, text)) :
    t.is k text = false := by
  obtain ⟨kind, text', span⟩ := t
  simp only [Token.view, ne_eq, Prod.mk.injEq, not_and] at h
  simp only [Token.is, Bool.and_eq_false_iff, beq_eq_false_iff_ne, ne_eq]
  by_cases hk : kind = k
  · exact .inr (h hk)
  · exact .inl hk

theorem Token.is_of_view {t : Token} {k : TokenKind} {text : String} (h : t.view = (k, text)) :
    t.is k text = true := by
  obtain ⟨kind, text', span⟩ := t
  simp only [Token.view, Prod.mk.injEq] at h
  simp [Token.is, h.1, h.2]

namespace Parser

variable {s : ParseState} {t : Token} {v : TokenKind × String} {rest : List (TokenKind × String)}

theorem numberNode_leaf {n : Numeral} (hn : n.Valid) (hr : n.Reads)
    (ht : t.text = String.ofList n.chars) (s : ParseState) : numberNode t s = .ok (n.leaf, s) := by
  unfold Numeral.leaf
  split
  · rename_i hw
    obtain ⟨hf, hp⟩ := (Numeral.isWhole_iff n).mp hw
    exact numberNode_integer hn ht hf hp (hr.whole hw) s
  · rename_i hw
    have hw' : n.isWhole = false := by simpa using hw
    exact numberNode_float hn ht ((Numeral.isWhole_eq_false_iff n).mp hw') (hr.point hw') s

def Follower (v : TokenKind × String) : Prop :=
  v = (.bracket, ")") ∨ v = (.eof, "") ∨ (v.1 = .operator ∧ v.2 ∈ ["+", "-", "*", "/"])

theorem Follower.token (h : Follower t.view) :
    Stops 90 t ∧ (t.text ≠ "." ∧ t.text ≠ "?." ∧ t.text ≠ "[") ∧ t.is .bracket "(" = false := by
  obtain ⟨kind, text, span⟩ := t
  simp only [Follower, Token.view, Prod.mk.injEq] at h
  rcases h with ⟨rfl, rfl⟩ | ⟨rfl, rfl⟩ | ⟨rfl, hop⟩
  · exact ⟨.inl (by simp), by simp, by simp [Token.is]⟩
  · exact ⟨.inl (by simp), by simp, by simp [Token.is]⟩
  · -- the arithmetic operators bind below a unary minus
    obtain ⟨p, hp⟩ := binaryPrecedence_arith hop
    simp only [List.mem_cons, List.not_mem_nil, or_false] at hop
    refine ⟨.inr ⟨?_, p, false, hp, ?_⟩, ?_, by simp [Token.is]⟩
    · rcases hop with rfl | rfl | rfl | rfl <;> simp
    · rcases hop with rfl | rfl | rfl | rfl <;> simp [binaryPrecedence] at hp <;> omega
    · rcases hop with rfl | rfl | rfl | rfl <;> simp

theorem primary_signed {neg : Bool} {n : Numeral} (hn : n.Valid) (hr : n.Reads)
    (h : s.ahead = n.signedTokens neg ++ v :: rest) (hv : Follower v) (fuel : Nat) :
    primary (fuel + 4) s =
      .ok (n.signedNode neg, { s with pos := s.pos + (n.signedTokens neg).length }) := by
  cases neg with
  | false =>
    simp only [Numeral.signedTokens, Numeral.signedNode, Bool.false_eq_true, if_false,
      List.nil_append, List.singleton_append, List.length_singleton] at h ⊢
    obtain ⟨t, ht, hview⟩ := ParseState.token_of_ahead h
    simp only [Token.view, Prod.mk.injEq] at hview
    rw [show fuel + 4 = fuel + 2 + 2 from rfl,
      primary_number (fuel + 2) ht hview.1 (ParseState.lt_size_of_ahead h)]
    exact numberNode_leaf hn hr hview.2 _
  | true =>
    simp only [Numeral.signedTokens, Numeral.signedNode, if_true, List.cons_append,
      List.nil_append, List.length_cons, List.length_nil] at h ⊢
    -- the minus sign, then the number, then the follower
    obtain ⟨t, ht, hview⟩ := ParseState.token_of_ahead h
    simp only [Token.view, Prod.mk.injEq] at hview
    have h₁ := ParseState.ahead_succ h
    obtain ⟨t₁, ht₁, hview₁⟩ := ParseState.token_of_ahead h₁
    simp only [Token.view, Prod.mk.injEq] at hview₁
    have h₂ := ParseState.ahead_succ h₁
    obtain ⟨t₂, ht₂, hview₂⟩ := ParseState.token_of_ahead h₂
    obtain ⟨hstops, hacc, -⟩ := Follower.token (hview₂ ▸ hv)
    have hnum : primary (fuel + 2) { s with pos := s.pos + 1 } =
        .ok (n.leaf, { s with pos := s.pos + 1 + 1 }) := by
      rw [primary_number fuel ht₁ hview₁.1 (ParseState.lt_size_of_ahead h₁)]
      exact numberNode_leaf hn hr hview₁.2 _
    have hoperand : expression (fuel + 3) 90 { s with pos := s.pos + 1 } = .ok (n.leaf, _) :=
      expression_operand ht₁ (by simp [Token.is, hview₁.1]) hnum ht₂ hstops
    exact primary_negative ht hview.1 hview.2 (ParseState.lt_size_of_ahead h) hoperand ht₂ hacc

end Parser

end DruidQuery.Expr
