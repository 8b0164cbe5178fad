import Mathlib
import DruidQuery.Proofs.NumberTexts
import DruidQuery.Proofs.LexedNames

namespace DruidQuery.Expr

def Token.view (t : Token) : TokenKind × String := (t.kind, t.text)

namespace Lexer

def Reads (l l' : Lexer) : Prop := ∃ k, l.pos + k ≤ l'.pos ∧ ∀ fuel, run (fuel + k) l = run fuel l'

theorem Reads.refl (l : Lexer) : Reads l l := ⟨0, by simp, fun _ => rfl⟩

theorem Reads.trans {l₁ l₂ l₃ : Lexer} (h₁ : Reads l₁ l₂) (h₂ : Reads l₂ l₃) : Reads l₁ l₃ := by
  obtain ⟨k₁, hk₁, hrun₁⟩ := h₁
  obtain ⟨k₂, hk₂, hrun₂⟩ := h₂
  refine ⟨k₁ + k₂, by omega, fun fuel => ?_⟩
  rw [show fuel + (k₁ + k₂) = fuel + k₂ + k₁ by omega, hrun₁, hrun₂]

theorem reads_of_step {l l' : Lexer} (h : l.step = (l', true)) (hpos : l.pos < l'.pos) : Reads l l' :=
  ⟨1, hpos, fun fuel => by rw [run, h]⟩

/-- From a state between tokens the lexer reads on to another, emitting tokens that read as `ts`. -/
structure Lexes (l : Lexer) (ts : List (TokenKind × String)) (l' : Lexer) : Prop where
  reads : Reads l l'
  src : l'.src = l.src
  start : l'.start = l'.pos
  failure : l'.failure = l.failure
  tokens : l'.tokens.toList.map Token.view = l.tokens.toList.map Token.view ++ ts

theorem Lexes.trans {l₁ l₂ l₃ : Lexer} {ts ts' : List (TokenKind × String)} (h₁ : Lexes l₁ ts l₂)
    (h₂ : Lexes l₂ ts' l₃) : Lexes l₁ (ts ++ ts') l₃ where
  reads := h₁.reads.trans h₂.reads
  src := h₂.src.trans h₁.src
  start := h₂.start
  failure := h₂.failure.trans h₁.failure
  tokens := by rw [h₂.tokens, h₁.tokens, List.append_assoc]

variable {l : Lexer} {c : Char} {rest : List Char}

theorem next_of_drop (h : l.src.toList.drop l.pos = c :: rest) :
    l.next = (some c, { l with pos := l.pos + 1 }) := by
  rw [next, peek_of_drop h]

theorem word_of_drop {X : List Char} (hX : X ≠ []) (h : l.src.toList.drop l.start = X ++ rest)
    (hpos : l.pos = l.start + X.length) : l.word = X := by
  have hsize := congrArg List.length h
  have hlen : 0 < X.length := List.length_pos_iff.mpr hX
  simp only [List.length_drop, Array.length_toList, List.length_append] at hsize
  unfold word
  rw [if_neg (by simp only [Bool.or_eq_true, decide_eq_true_eq, not_or, not_lt]; omega), h, hpos,
    Nat.add_sub_cancel_left, List.take_left' rfl]

theorem eq_false_of_classes {P : Char → Bool} {d : Char} (hc : P c = true) (hd : P d = false) :
    (c = d) = False := by
  simp only [eq_iff_iff, iff_false]
  rintro rfl
  rw [hc] at hd
  contradiction

theorem oneOf_eq_false_of_classes {P : Char → Bool} {s : String} (hc : P c = true)
    (hs : s.toList.all (fun d => !P d) = true) : oneOf s c = false := by
  rw [Bool.eq_false_iff]
  intro hin
  have hmem : c ∈ s.toList := by simpa [oneOf] using hin
  have := List.all_eq_true.mp hs c hmem
  rw [hc] at this
  contradiction

theorem isDigit_of_range (h : ('0' ≤ c && c ≤ '9') = true) : c.isDigit = true := by
  simp only [Bool.and_eq_true, decide_eq_true_eq] at h
  simp only [Char.isDigit, Bool.and_eq_true, decide_eq_true_eq]
  exact ⟨h.1, h.2⟩

theorem step_alphabetic (h : l.src.toList.drop l.pos = c :: rest) (hc : isAlphabetic c = true) :
    l.step = (({ l with pos := l.pos + 1 } : Lexer).backup.lexIdentifier, true) := by
  have halnum : isAlphaNumeric c = true := by simp [isAlphaNumeric, hc]
  have hdigit : ('0' ≤ c && c ≤ '9') = false := by
    rw [Bool.eq_false_iff]
    intro hd
    have := of_isDigit (P := fun d => !isAlphabetic d) (by decide) (isDigit_of_range hd)
    rw [hc] at this
    contradiction
  rw [step, next_of_drop h]
  simp only [isSpace_of_isAlphaNumeric halnum, eq_false_of_classes hc (d := '\'') (by decide),
    eq_false_of_classes hc (d := '"') (by decide), eq_false_of_classes hc (d := Char.ofNat 96) (by decide),
    hdigit, eq_false_of_classes hc (d := '?') (by decide), eq_false_of_classes hc (d := '/') (by decide),
    eq_false_of_classes hc (d := '#') (by decide), eq_false_of_classes hc (d := '|') (by decide),
    eq_false_of_classes hc (d := ':') (by decide), oneOf_eq_false_of_classes (s := "([\x7b)]\x7d") hc (by decide),
    oneOf_eq_false_of_classes (s := ",;%+-^") hc (by decide), oneOf_eq_false_of_classes (s := "&!=*<>") hc (by decide),
    eq_false_of_classes hc (d := '.') (by decide), halnum]
  simp

theorem step_digit (h : l.src.toList.drop l.pos = c :: rest) (hc : c.isDigit = true) :
    l.step = ({ l with pos := l.pos + 1 } : Lexer).backup.lexNumber := by
  have hspace : Text.isSpace c = false := by
    simpa using of_isDigit (P := fun d => !Text.isSpace d) (by decide) hc
  have hrange : ('0' ≤ c && c ≤ '9') = true := by
    simp only [Char.isDigit, Bool.and_eq_true, decide_eq_true_eq] at hc
    simp only [Bool.and_eq_true, decide_eq_true_eq]
    exact ⟨hc.1, hc.2⟩
  rw [step, next_of_drop h]
  simp only [hspace, eq_false_of_classes hc (d := '\'') (by decide), eq_false_of_classes hc (d := '"') (by decide),
    eq_false_of_classes hc (d := Char.ofNat 96) (by decide), hrange]
  simp

theorem step_space (h : l.src.toList.drop l.pos = ' ' :: rest) :
    l.step = (({ l with pos := l.pos + 1 } : Lexer).skip, true) := by
  rw [step, next_of_drop h]
  simp [Text.isSpace]

theorem step_bracket (hc : c = '(' ∨ c = ')') (h : l.src.toList.drop l.pos = c :: rest) :
    l.step = (({ l with pos := l.pos + 1 } : Lexer).emit .bracket, true) := by
  rw [step, next_of_drop h]
  rcases hc with rfl | rfl <;> simp [Text.isSpace, oneOf]

theorem step_sign (hc : c = '+' ∨ c = '-') (h : l.src.toList.drop l.pos = c :: rest) :
    l.step = (({ l with pos := l.pos + 1 } : Lexer).emit .operator, true) := by
  rw [step, next_of_drop h]
  rcases hc with rfl | rfl <;> simp [Text.isSpace, oneOf]

theorem step_arith (hc : c ∈ ['+', '-', '*', '/']) (h : l.src.toList.drop l.pos = c :: ' ' :: rest) :
    l.step = (({ l with pos := l.pos + 1 } : Lexer).emit .operator, true) := by
  have h₁ : l.src.toList.drop (l.pos + 1) = ' ' :: rest := drop_succ h
  have hspace : ∀ valid : Char → Bool, valid ' ' = false →
      ({ l with pos := l.pos + 1 } : Lexer).accept valid = (false, { l with pos := l.pos + 1 }) :=
    fun valid hv => accept_of_invalid fun d hd => by
      simp only at hd
      rw [h₁] at hd
      cases hd
      exact hv
  simp only [List.mem_cons, List.not_mem_nil, or_false] at hc
  rcases hc with rfl | rfl | rfl | rfl
  · exact step_sign (.inl rfl) h
  · exact step_sign (.inr rfl) h
  · rw [step, next_of_drop h]
    simp [Text.isSpace, oneOf, hspace (oneOf "&=*") (by decide)]
  · rw [step, next_of_drop h]
    simp only [Text.isSpace, oneOf]
    simp [lexSlash, hspace (· = '/') (by decide), hspace (· = '*') (by decide)]

theorem lexes_emit {k : TokenKind} {X : List Char} (hX : X ≠ []) (hclean : l.start = l.pos)
    (h : l.src.toList.drop l.pos = X ++ rest)
    (hstep : l.step = (({ l with pos := l.pos + X.length } : Lexer).emit k, true)) :
    Lexes l [(k, String.ofList X)] (({ l with pos := l.pos + X.length } : Lexer).emit k) where
  reads := reads_of_step hstep (by simp [emit, emitValue]; exact List.length_pos_iff.mpr hX)
  src := rfl
  start := rfl
  failure := rfl
  tokens := by
    have hword : ({ l with pos := l.pos + X.length } : Lexer).word = X :=
      word_of_drop hX (by rw [hclean]; exact h) (by simp [hclean])
    simp [emit, emitValue, hword, Token.view]

theorem lexes_space (h : l.src.toList.drop l.pos = ' ' :: rest) :
    Lexes l [] ({ l with pos := l.pos + 1 } : Lexer).skip where
  reads := reads_of_step (step_space h) (by simp [skip])
  src := rfl
  start := rfl
  failure := rfl
  tokens := by simp [skip]

theorem backup_succ : ({ l with pos := l.pos + 1 } : Lexer).backup = l := by
  simp [backup]

theorem lexes_numeral {n : Numeral} (hn : n.Valid) (hclean : l.start = l.pos)
    (h : l.src.toList.drop l.pos = n.chars ++ rest) (hrest : ∀ c ∈ rest.head?, Follows c) :
    Lexes l [(.number, String.ofList n.chars)] (({ l with pos := l.pos + n.chars.length } : Lexer).emit .number) := by
  obtain ⟨c, w, hw⟩ := List.exists_cons_of_ne_nil hn.whole_ne
  have hX : n.chars ≠ [] := by simp [Numeral.chars, hw]
  refine lexes_emit hX hclean h ?_
  have hc : l.src.toList.drop l.pos = c :: (w ++ Numeral.fractionChars n.fraction ++ Numeral.powerChars n.power ++ rest) := by
    rw [h, Numeral.chars, hw]
    simp
  rw [step_digit hc (hn.whole c (by simp [hw])), backup_succ, lexNumber, scanNumber_numeral hn h hrest]
  rfl

theorem lexes_name {name : String} (hname : isName name = true) (hnot : name ≠ "not")
    (hop : operatorWords.contains name = false) (hclean : l.start = l.pos)
    (h : l.src.toList.drop l.pos = name.toList ++ rest) (hrest : ∀ c ∈ rest.head?, isAlphaNumeric c = false) :
    Lexes l [(.identifier, name)] (({ l with pos := l.pos + name.toList.length } : Lexer).emit .identifier) := by
  unfold isName at hname
  split at hname
  · rename_i c cs hcs
    simp only [Bool.and_eq_true, List.all_eq_true] at hname
    have hX : name.toList ≠ [] := by simp [hcs]
    have hall : ∀ d ∈ name.toList, isAlphaNumeric d = true := by
      rw [hcs]
      intro d hd
      rcases List.mem_cons.mp hd with rfl | hd
      · simp [isAlphaNumeric, hname.1]
      · exact hname.2 d hd
    have key := lexes_emit (k := .identifier) hX hclean h ?_
    · rwa [String.ofList_toList] at key
    have hc : l.src.toList.drop l.pos = c :: (cs ++ rest) := by rw [h, hcs]; rfl
    rw [step_alphabetic hc hname.1, backup_succ]
    have hrun : l.acceptRun isAlphaNumeric = { l with pos := l.pos + name.toList.length } :=
      acceptRun_of_valid h hall hrest
    have hword : ({ l with pos := l.pos + name.toList.length } : Lexer).word = name.toList :=
      word_of_drop hX (by rw [hclean]; exact h) (by simp [hclean])
    simp only [lexIdentifier, hrun, hword, String.ofList_toList, hnot, hop, if_false, Bool.false_eq_true]
  · exact absurd hname (by decide)

theorem step_end (h : l.src.toList.drop l.pos = []) : l.step = (({ l with pos := l.pos + 1 } : Lexer).emitEnd, false) := by
  rw [step, next, peek_of_drop_nil h]

end Lexer

/-- A source the lexer reads through, from the start to the end, emitting tokens that read as
`ts`, gives those tokens and the end token. -/
theorem tokenize_of_lexes {src : String} {ts : List (TokenKind × String)} {l : Lexer}
    (hl : Lexer.Lexes { src := src.toList.toArray } ts l) (hend : l.pos = src.toList.length) :
    ∃ tokens, tokenize src = .ok tokens ∧ tokens.toList.map Token.view = ts ++ [(.eof, "")] := by
  obtain ⟨k, hk, hrun⟩ := hl.reads
  have hsrc : l.src = src.toList.toArray := hl.src
  have hdrop : l.src.toList.drop l.pos = [] := by
    rw [hsrc, hend]
    simp
  have hfuel : src.toList.toArray.size + 2 = (src.toList.length + 1 - k) + 1 + k := by
    simp only [List.size_toArray]
    simp at hk
    omega
  refine ⟨(({ l with pos := l.pos + 1 } : Lexer).emitEnd).tokens, ?_, ?_⟩
  · unfold tokenize
    simp only
    rw [hfuel, hrun, Lexer.run, Lexer.step_end hdrop]
    simp only [Lexer.emitEnd]
    rw [hl.failure]
  · simp only [Lexer.emitEnd, Array.toList_push, List.map_append, hl.tokens]
    simp [Token.view]

end DruidQuery.Expr
