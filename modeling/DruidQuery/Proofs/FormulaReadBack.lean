import Mathlib
import DruidQuery.Proofs.SignedNumerals
import DruidQuery.PostAggregation.Text
/-!
Arithmetic post-aggregations read back from their text, but for the constants `-0` and
`-2 ^ 63`.
-/

namespace DruidQuery.PostAggregation

open DruidQuery.Expr DruidQuery.Expr.Lexer DruidQuery.Expr.Parser

structure Plain (name : String) : Prop where
  ident : Expr.isName name = true
  notOperator : name ≠ "not" ∧ operatorWords.contains name = false
  notLiteral : name ≠ "true" ∧ name ≠ "false" ∧ name ≠ "nil"

/-- Arithmetic post-aggregations whose text reads back: columns with plain names, integers whose
magnitude is below `2 ^ 63`, finite doubles other than `-0`, and the four operations on two
formulas. -/
inductive Formula where
  | field (name : String) (plain : Plain name)
  | int (n : Int) (fits : -2 ^ 63 < n ∧ n < 2 ^ 63)
  | float (x : Float) (finite : x.isFinite = true) (notNegZero : x.toBits ≠ 0x8000000000000000)
  | apply (fn : String) (op : fn ∈ ["+", "-", "*", "/"]) (left right : Formula)

namespace Formula

def post : Formula → PostAggregation
  | field name _ => fieldAccess name
  | int n _ => constant (.int n)
  | float x _ _ => constant (.float x)
  | apply fn _ l r => arithmetic fn (some l.post) (some r.post)

def tokens : Formula → List (TokenKind × String)
  | field name _ => [(.identifier, name)]
  | int n _ => (Numeral.ofNat n.natAbs).signedTokens (decide (n < 0))
  | float x _ _ => (Decimal.Layout.general.numeral x).signedTokens (Decimal.Binary.ofFloat x).negative
  | apply fn _ l r =>
    (.bracket, "(") :: (l.tokens ++ (.operator, fn) :: (r.tokens ++ [(.bracket, ")")]))

def node : Formula → Node
  | field name _ => .identifier name
  | int n _ => (Numeral.ofNat n.natAbs).signedNode (decide (n < 0))
  | float x _ _ => (Decimal.Layout.general.numeral x).signedNode (Decimal.Binary.ofFloat x).negative
  | apply fn _ l r => .binary fn l.node r.node

def fuel : Formula → Nat
  | apply _ _ l r => max l.fuel r.fuel + 4
  | _ => 4

end Formula

section Texts

@[simp] theorem text_fieldAccess (name : String) : (fieldAccess name).text = name := by
  simp [text, fieldAccess]

theorem text_arithmetic (fn : String) (l r : PostAggregation) :
    (arithmetic fn (some l) (some r)).text = "(" ++ l.text ++ " " ++ fn ++ " " ++ r.text ++ ")" := by
  simp [text, arithmetic, textOfList, textOfChild]

theorem text_int_toList (n : Int) :
    (constant (.int n)).text.toList = (Numeral.ofNat n.natAbs).signedChars (decide (n < 0)) := by
  show (toString n).toList = _
  rw [toString_int_toList]
  simp [Numeral.signedChars]

theorem text_float_toList (x : Float) :
    (constant (.float x)).text.toList =
      (Decimal.Layout.general.numeral x).signedChars (Decimal.Binary.ofFloat x).negative := by
  simp [text, constant, Value.text, Decimal.render_toList, Numeral.signedChars]

theorem text_apply_toList (fn : String) (l r : PostAggregation) :
    (arithmetic fn (some l) (some r)).text.toList =
      ['('] ++ (l.text.toList ++ ([' '] ++ (fn.toList ++ ([' '] ++ (r.text.toList ++ [')']))))) := by
  simp [text_arithmetic, String.toList_append]

end Texts

section Lexing

def Ends (rest : List Char) : Prop := ∀ c ∈ rest.head?, c = ' ' ∨ c = ')'

theorem Ends.follows {rest : List Char} (h : Ends rest) : ∀ c ∈ rest.head?, Follows c := by
  intro c hc
  rcases h c hc with rfl | rfl <;> exact ⟨by decide, by decide, by decide⟩

theorem Ends.not_alphaNumeric {rest : List Char} (h : Ends rest) :
    ∀ c ∈ rest.head?, isAlphaNumeric c = false := by
  intro c hc
  rcases h c hc with rfl | rfl <;> decide

theorem arith_singleton {fn : String} (hop : fn ∈ ["+", "-", "*", "/"]) :
    ∃ c ∈ ['+', '-', '*', '/'], fn = String.singleton c := by
  simp only [List.mem_cons, List.not_mem_nil, or_false] at hop
  rcases hop with rfl | rfl | rfl | rfl
  · exact ⟨'+', by simp, rfl⟩
  · exact ⟨'-', by simp, rfl⟩
  · exact ⟨'*', by simp, rfl⟩
  · exact ⟨'/', by simp, rfl⟩

theorem lexes_text : ∀ f : Formula, LexesOver f.post.text.toList f.tokens Ends
  | .field name plain => by
    simpa [Formula.post, Formula.tokens] using
      (lexesOver_name plain.ident plain.notOperator.1 plain.notOperator.2).mono
        fun _ h => h.not_alphaNumeric
  | .int n _ => by
    rw [Formula.post, text_int_toList]
    exact (lexesOver_signed (Numeral.ofNat_valid _)).mono fun _ h => h.follows
  | .float x _ _ => by
    rw [Formula.post, text_float_toList]
    exact (lexesOver_signed (Decimal.numeral_valid _ _)).mono fun _ h => h.follows
  | .apply fn op l r => by
    obtain ⟨c, hc, rfl⟩ := arith_singleton op
    rw [Formula.post, text_apply_toList, Formula.tokens]
    -- the bracket, the left operand, the operator between spaces, the right operand, the bracket
    have hright := (lexes_text r).append (lexesOver_bracket (P := Ends) (.inr rfl))
      fun _ _ => by simp [Ends]
    have hop := (lexesOver_arith hc).append
      ((lexesOver_space (P := fun _ => True)).append hright fun _ _ => trivial) fun _ _ => rfl
    have hleft := (lexes_text l).append
      ((lexesOver_space (P := fun _ => True)).append hop fun _ _ => trivial) fun _ _ => by simp [Ends]
    simpa using (lexesOver_bracket (P := fun _ => True) (.inl rfl)).append hleft fun _ _ => trivial

end Lexing

section Parsing

theorem Formula.tokens_head : ∀ f : Formula, ∃ w ws, f.tokens = w :: ws ∧ w ≠ (.operator, "let")
  | .field _ _ => ⟨_, _, rfl, by simp⟩
  | .int _ _ => Numeral.signedTokens_head _ _
  | .float _ _ _ => Numeral.signedTokens_head _ _
  | .apply _ _ _ _ => ⟨_, _, rfl, by simp⟩

theorem Formula.four_le_fuel : ∀ f : Formula, 4 ≤ f.fuel
  | .field _ _ | .int _ _ | .float _ _ _ => le_refl 4
  | .apply _ _ _ _ => Nat.le_add_left 4 _

theorem general_numeral_accepted {x : Float} (hx : x.isFinite = true) (hz : x.toBits ≠ 0x8000000000000000) :
    (Decimal.Layout.general.numeral x).Reads := by
  rcases Decimal.general_numeral_reads hx hz with ⟨hf, hp, hlt, -⟩ | ⟨hfp, habs⟩
  · exact ⟨fun _ => hlt, fun hw => by simp [Numeral.isWhole, hf, hp] at hw⟩
  · refine ⟨fun hw => ?_, fun _ => by rw [habs]; exact Decimal.isInf_abs hx⟩
    exact absurd ((Numeral.isWhole_eq_false_iff _).mpr hfp) (by simp [hw])

theorem primary_bracketed {s : ParseState} {ls rs : List (TokenKind × String)} {fn : String}
    {v : TokenKind × String} {rest : List (TokenKind × String)} {left right : Node} {a b : Nat}
    (h : s.ahead = (.bracket, "(") :: (ls ++ (.operator, fn) :: (rs ++ (.bracket, ")") :: v :: rest)))
    (hop : fn ∈ ["+", "-", "*", "/"]) (hv : Follower v)
    (hls : ∃ w ws, ls = w :: ws ∧ w ≠ (.operator, "let"))
    (hrs : ∃ u us, rs = u :: us ∧ u ≠ (.operator, "let")) (hb : 1 ≤ b)
    (hl : ∀ fuel, primary (fuel + a) { s with pos := s.pos + 1 } =
      .ok (left, { s with pos := s.pos + 1 + ls.length }))
    (hr : ∀ fuel, primary (fuel + b) { s with pos := s.pos + 1 + ls.length + 1 } =
      .ok (right, { s with pos := s.pos + 1 + ls.length + 1 + rs.length }))
    (fuel : Nat) :
    primary (fuel + (max a b + 4)) s =
      .ok (.binary fn left right, { s with pos := s.pos + 1 + ls.length + 1 + rs.length + 1 }) := by
  obtain ⟨w, ws, rfl, hwlet⟩ := hls
  obtain ⟨u, us, rfl, hulet⟩ := hrs
  -- the opening bracket
  obtain ⟨t, ht, hview⟩ := ParseState.token_of_ahead h
  have hn := ParseState.lt_size_of_ahead (h.trans (by rw [List.cons_append]))
  -- the left operand, followed by the operator
  have h₁ := ParseState.ahead_succ h
  obtain ⟨t₁, ht₁, hview₁⟩ := ParseState.token_of_ahead (h₁.trans (by rw [List.cons_append]))
  have hleft := hl (fuel + max a b + 2 - a)
  rw [Nat.sub_add_cancel (by omega)] at hleft
  have h₂ := ParseState.ahead_append h₁
  obtain ⟨o, ho, hoview⟩ := ParseState.token_of_ahead h₂
  simp only [Token.view, Prod.mk.injEq] at hoview
  have hn₂ := ParseState.lt_size_of_ahead (h₂.trans (by rw [List.cons_append]))
  -- the right operand, followed by the closing bracket, is an expression at any precedence
  have h₃ := ParseState.ahead_succ h₂
  obtain ⟨t₃, ht₃, hview₃⟩ := ParseState.token_of_ahead (h₃.trans (by rw [List.cons_append]))
  have hright := hr (fuel + max a b - b)
  rw [Nat.sub_add_cancel (by omega), show fuel + max a b = fuel + max a b - 1 + 1 by omega] at hright
  have h₄ := ParseState.ahead_append h₃
  obtain ⟨c, hc, hcview⟩ := ParseState.token_of_ahead h₄
  have hck : c.kind ≠ .operator := by
    simp only [Token.view, Prod.mk.injEq] at hcview
    rw [hcview.1]
    decide
  have hexp : ∀ prec, expression (fuel + max a b - 1 + 2) prec _ = .ok (right, _) := fun _ =>
    expression_operand ht₃ (Token.is_eq_false (hview₃ ▸ hulet)) hright hc (.inl hck)
  rw [show fuel + max a b - 1 + 2 = fuel + max a b + 1 by omega] at hexp
  -- the token after the closing bracket is a follower
  obtain ⟨t₂, ht₂, hview₂⟩ := ParseState.token_of_ahead (ParseState.ahead_succ h₄)
  obtain ⟨-, hacc, -⟩ := Follower.token (hview₂ ▸ hv)
  have hin := expression_binary ht₁ (Token.is_eq_false (hview₁ ▸ hwlet)) hleft ho hoview.1
    (hoview.2 ▸ hop) hn₂ hexp hc hck
  rw [hoview.2] at hin
  rw [show fuel + (max a b + 4) = fuel + max a b + 2 + 2 by omega]
  exact primary_parenthesized ht (Token.is_of_view hview) hn hin hc (Token.is_of_view hcview) ht₂ hacc

theorem primary_node : ∀ (f : Formula) {s : ParseState} {v : TokenKind × String}
    {rest : List (TokenKind × String)}, s.ahead = f.tokens ++ v :: rest → Follower v →
    ∀ fuel, primary (fuel + f.fuel) s = .ok (f.node, { s with pos := s.pos + f.tokens.length })
  | .field name plain, s, v, rest, h, hv, fuel => by
    simp only [Formula.tokens, Formula.fuel, Formula.node, List.singleton_append,
      List.length_singleton] at h ⊢
    obtain ⟨t, ht, hview⟩ := ParseState.token_of_ahead h
    simp only [Token.view, Prod.mk.injEq] at hview
    obtain ⟨t', ht', hview'⟩ := ParseState.token_of_ahead (ParseState.ahead_succ h)
    obtain ⟨-, hacc, hcall⟩ := Follower.token (hview' ▸ hv)
    have hword : t.text ≠ "true" ∧ t.text ≠ "false" ∧ t.text ≠ "nil" := hview.2 ▸ plain.notLiteral
    rw [← hview.2]
    exact primary_identifier (fuel + 1) ht hview.1 hword ht' hcall hacc
  | .int n fits, s, v, rest, h, hv, fuel =>
    primary_signed (Numeral.ofNat_valid _) (Numeral.ofNat_reads (by omega)) h hv fuel
  | .float x finite notNegZero, s, v, rest, h, hv, fuel =>
    primary_signed (Decimal.numeral_valid _ _) (general_numeral_accepted finite notNegZero) h hv fuel
  | .apply fn op l r, s, v, rest, h, hv, fuel => by
    simp only [Formula.tokens, Formula.fuel, Formula.node, List.cons_append, List.append_assoc,
      List.nil_append] at h ⊢
    -- the left operand is followed by the operator, the right one by the closing bracket
    have hl := primary_node l (ParseState.ahead_succ h) (.inr (.inr ⟨rfl, op⟩))
    have hr := primary_node r
      (ParseState.ahead_succ (ParseState.ahead_append (ParseState.ahead_succ h))) (.inl rfl)
    rw [primary_bracketed h op hv l.tokens_head r.tokens_head
      (le_trans (by decide) r.four_le_fuel) hl hr fuel]
    simp only [List.length_cons, List.length_append, List.length_nil, Except.ok.injEq,
      Prod.mk.injEq, ParseState.mk.injEq, true_and, and_true]
    omega

end Parsing

section Building

theorem toJson_constant_congr {v w : Value} (h : v.toJson? = w.toJson?) :
    (constant v).toJson = (constant w).toJson := by
  simp [constant, toJson, h]

theorem toJson_arithmetic_congr {fn : String} {l l' r r' : PostAggregation}
    (hl : l.toJson = l'.toJson) (hr : r.toJson = r'.toJson) :
    (arithmetic fn (some l) (some r)).toJson = (arithmetic fn (some l') (some r')).toJson := by
  simp [arithmetic, toJson, childrenJson, hl, hr]

theorem ofNode_signedNode (neg : Bool) (n : Numeral) :
    ofNode (n.signedNode neg) = .ok (constant (if n.isWhole
      then .int (if neg then -(digitsValue n.whole : Int) else digitsValue n.whole)
      else .float (if neg then -Decimal.ofDecimal n.mantissa n.scale
        else Decimal.ofDecimal n.mantissa n.scale))) := by
  unfold Numeral.signedNode Numeral.leaf
  cases neg <;> cases n.isWhole <;> simp [ofNode, Node.path?, Node.literal?]

theorem ofNode_node : ∀ f : Formula, ∃ q, ofNode f.node = .ok q ∧ q.toJson = f.post.toJson
  | .field name _ => ⟨_, by simp [Formula.node, Formula.post, ofNode, Node.path?], rfl⟩
  | .int n _ => by
    refine ⟨_, ?_, rfl⟩
    rw [Formula.node, ofNode_signedNode, if_pos (Numeral.ofNat_isWhole _)]
    simp only [Numeral.ofNat, digitsValue_toDigits, Formula.post]
    congr
    simp only [decide_eq_true_eq]
    split <;> omega
  | .float x finite notNegZero => by
    rcases Decimal.general_numeral_reads finite notNegZero with ⟨hf, hp, -, hjson⟩ | ⟨hfp, habs⟩
    · -- a whole numeral builds the integer whose JSON is the double's
      have hw : (Decimal.Layout.general.numeral x).isWhole = true := by
        simp [Numeral.isWhole, hf, hp]
      refine ⟨_, by rw [Formula.node, ofNode_signedNode, if_pos hw], toJson_constant_congr ?_⟩
      simp [Value.toJson?, Value.toJson, hjson]
    · have hw := (Numeral.isWhole_eq_false_iff _).mpr hfp
      refine ⟨_, ?_, rfl⟩
      rw [Formula.node, ofNode_signedNode, if_neg (by simp [hw]), habs, Decimal.signed_abs finite]
      rfl
  | .apply fn op l r => by
    obtain ⟨ql, hl, hjl⟩ := ofNode_node l
    obtain ⟨qr, hr, hjr⟩ := ofNode_node r
    refine ⟨arithmetic fn (some ql) (some qr), ?_, toJson_arithmetic_congr hjl hjr⟩
    rw [Formula.node, ofNode, if_pos (by simpa using op), hl, hr]
    rfl

end Building

section ReadBack

theorem isName_head {d : String} (h : isName d = true) :
    ∃ c cs, d.toList = c :: cs ∧ Text.isSpace c = false := by
  unfold isName at h
  split at h
  · rename_i c rest hd
    simp only [Bool.and_eq_true] at h
    exact ⟨c, rest, hd, isSpace_of_isAlphaNumeric (by simp [isAlphaNumeric, h.1])⟩
  · cases h

theorem Formula.text_head :
    ∀ f : Formula, ∃ c cs, f.post.text.toList = c :: cs ∧ Text.isSpace c = false
  | .field _ plain => by
    rw [Formula.post, text_fieldAccess]
    exact isName_head plain.ident
  | .int _ _ => by
    rw [Formula.post, text_int_toList]
    exact Numeral.signedChars_head _ (Numeral.ofNat_valid _)
  | .float _ _ _ => by
    rw [Formula.post, text_float_toList]
    exact Numeral.signedChars_head _ (Decimal.numeral_valid _ _)
  | .apply _ _ _ _ => ⟨'(', _, by rw [Formula.post, text_apply_toList]; rfl, by decide⟩

theorem Formula.not_isBlank (f : Formula) : Text.isBlank f.post.text = false := by
  obtain ⟨c, cs, hc, hs⟩ := f.text_head
  simp [Text.isBlank, hc, hs]

theorem Formula.one_le_length (f : Formula) : 1 ≤ f.tokens.length := by
  obtain ⟨w, ws, hw, -⟩ := f.tokens_head
  simp [hw]

theorem Formula.fuel_le_length : ∀ f : Formula, f.fuel ≤ 4 * f.tokens.length
  | .apply _ _ l r => by
    have hl := l.fuel_le_length
    have hr := r.fuel_le_length
    simp only [Formula.fuel, Formula.tokens, List.length_cons, List.length_append, List.length_nil]
    omega
  | .field _ _ | .int _ _ | .float _ _ _ => Nat.mul_le_mul_left 4 (Formula.one_le_length _)

theorem read_text (f : Formula) : read grammar f.post.text = .ok f.node := by
  obtain ⟨tokens, htok, hview⟩ := tokenize_of_lexesOver (lexes_text f) (by simp [Ends])
  have hahead : ({ tokens } : ParseState).ahead = f.tokens ++ [(.eof, "")] := by
    simpa [ParseState.ahead] using hview
  have hsize : tokens.size = f.tokens.length + 1 := by
    simpa using congrArg List.length hview
  -- the formula is the one operand of the whole expression, and the end of the source stops it
  obtain ⟨w, ws, hw, hwlet⟩ := f.tokens_head
  obtain ⟨t, ht, htv⟩ := ParseState.token_of_ahead (hahead.trans (by rw [hw, List.cons_append]))
  have hprim := primary_node f hahead (.inr (.inl rfl)) (8 * tokens.size + 7 - f.fuel)
  rw [Nat.sub_add_cancel (by have := f.fuel_le_length; omega)] at hprim
  obtain ⟨e, he, hev⟩ := ParseState.token_of_ahead (ParseState.ahead_append hahead)
  have hek : e.kind = .eof := by
    simp only [Token.view, Prod.mk.injEq] at hev
    exact hev.1
  have hexp : expression (8 * tokens.size + 8) 0 { tokens } = .ok (f.node, _) :=
    expression_operand ht (Token.is_eq_false (htv ▸ hwlet)) hprim he (.inl (by rw [hek]; decide))
  rw [Expr.read, if_neg (by simp [f.not_isBlank]), parse_of_expression htok hexp he hek]

/-- Every formula's text reads back as a post-aggregation with the formula's JSON. -/
theorem formula_text_reads_back (f : Formula) :
    ∃ q, PostAggregation.parse f.post.text = .ok q ∧ q.toJson = f.post.toJson := by
  obtain ⟨q, hq, hj⟩ := ofNode_node f
  refine ⟨q, ?_, hj⟩
  rw [PostAggregation.parse, read_text f]
  show (ofNode f.node).mapError _ = _
  rw [hq]
  rfl

/-- The two constants a formula leaves out do not read back: the text of `-0` reads as the
integer zero, whose JSON is not that of `-0`, and the text of the least 64-bit integer is
rejected, its digits being too large for an integer literal. -/
theorem signed_zero_and_least_integer_misread :
    ((PostAggregation.parse (constant (.float (-0.0))).text).toOption.map
        fun q => q.toJson.compact) = some (constant (.int 0)).toJson.compact ∧
      (constant (.int 0)).toJson.compact ≠ (constant (.float (-0.0))).toJson.compact ∧
      (PostAggregation.parse (constant (.int (-9223372036854775808))).text).toOption.isNone := by
  decide +kernel

end ReadBack

end DruidQuery.PostAggregation
