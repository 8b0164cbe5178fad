import DruidQuery.Expr.Error

namespace DruidQuery

namespace Expr

def spaceCodes : List Nat :=
  [0x09, 0x0A, 0x0B, 0x0C, 0x0D, 0x20, 0x85, 0xA0, 0x1680, 0x2000, 0x2001, 0x2002, 0x2003, 0x2004,
    0x2005, 0x2006, 0x2007, 0x2008, 0x2009, 0x200A, 0x2028, 0x2029, 0x202F, 0x205F, 0x3000]

theorem mem_spaceCodes {c : Char} (h : Text.isSpace c = true) : c.toNat ∈ spaceCodes := by
  unfold Text.isSpace at h
  split at h <;> simp_all [spaceCodes]
  omega

theorem ranges_not_spaces : ∀ n ∈ spaceCodes,
    (Text.letterRanges.toList.any fun r => r.1 ≤ n && n ≤ r.2) = false ∧
      (Text.digitRanges.toList.any fun r => r.1 ≤ n && n ≤ r.2) = false := by
  decide +kernel

theorem isSpace_of_isAlphaNumeric {c : Char} (h : isAlphaNumeric c = true) : Text.isSpace c = false := by
  cases hs : Text.isSpace c with
  | false => rfl
  | true =>
    have hmem := mem_spaceCodes hs
    obtain ⟨hletter, hdigit⟩ := ranges_not_spaces _ hmem
    -- no white-space character is an ASCII letter or digit
    have hascii : c.isAlpha = false ∧ c.isDigit = false := by
      simp only [spaceCodes, List.mem_cons, List.not_mem_nil, or_false] at hmem
      have hc : c = Char.ofNat c.toNat := (Char.ofNat_toNat c).symm
      rcases hmem with h | h | h | h | h | h | h | h | h | h | h | h | h | h | h | h | h | h | h | h |
        h | h | h | h | h <;> rw [hc, h] <;> decide
    simp only [isAlphaNumeric, isAlphabetic, Text.isLetter, Text.isDigit, Text.inRanges,
      ← Array.any_toList, hletter, hdigit, Bool.or_eq_true, decide_eq_true_eq] at h
    rcases h with ((h | h) | h) | h
    · subst h
      simp [spaceCodes] at hmem
    · subst h
      simp [spaceCodes] at hmem
    · split at h
      · exact absurd h (by simp [hascii.1])
      · simp at h
    · split at h
      · exact absurd h (by simp [hascii.2])
      · simp at h

def Token.Named (t : Token) : Prop := t.kind = .identifier → Text.isBlank t.text = false

namespace Lexer

def ReadOn (l l' : Lexer) : Prop :=
  l'.src = l.src ∧ l'.start = l.start ∧ l'.tokens = l.tokens ∧ l.pos ≤ l'.pos

def Sound (l : Lexer) : Prop :=
  l.start ≤ l.pos ∧ ∀ t ∈ l.tokens, t.Named

section ReadOn

theorem ReadOn.refl (l : Lexer) : ReadOn l l := ⟨rfl, rfl, rfl, Nat.le_refl _⟩

theorem ReadOn.trans {l₁ l₂ l₃ : Lexer} (h₁ : ReadOn l₁ l₂) (h₂ : ReadOn l₂ l₃) : ReadOn l₁ l₃ :=
  ⟨h₂.1.trans h₁.1, h₂.2.1.trans h₁.2.1, h₂.2.2.1.trans h₁.2.2.1, Nat.le_trans h₁.2.2.2 h₂.2.2.2⟩

theorem ReadOn.sound {l l' : Lexer} (h : ReadOn l l') (hl : Sound l) : Sound l' := by
  obtain ⟨-, hstart, htokens, hpos⟩ := h
  exact ⟨hstart ▸ Nat.le_trans hl.1 hpos, htokens ▸ hl.2⟩

theorem readOn_next (l : Lexer) : ReadOn l l.next.2 := ⟨rfl, rfl, rfl, Nat.le_succ _⟩

theorem readOn_fail (l : Lexer) (message : String) : ReadOn l (l.fail message) := by
  unfold fail
  split
  · exact ReadOn.refl l
  · exact ⟨rfl, rfl, rfl, Nat.le_refl _⟩

theorem readOn_accept (l : Lexer) (valid : Char → Bool) : ReadOn l (l.accept valid).2 := by
  unfold accept
  split
  · split
    · exact ⟨rfl, rfl, rfl, Nat.le_succ _⟩
    · exact ReadOn.refl l
  · exact ReadOn.refl l

theorem acceptRun_spec (l : Lexer) (valid : Char → Bool) :
    ReadOn l (l.acceptRun valid) ∧
      (∀ i (h : i < l.src.size), l.pos ≤ i → i < (l.acceptRun valid).pos → valid l.src[i] = true) ∧
      ∀ h : l.pos < l.src.size, valid l.src[l.pos] = true → l.pos < (l.acceptRun valid).pos := by
  fun_induction acceptRun l valid with
  | case1 l h hv ih =>
    obtain ⟨hread, hall, -⟩ := ih
    refine ⟨(readOn_next l).trans hread, fun i hi hle hlt => ?_, fun _ _ => Nat.lt_of_lt_of_le
      (Nat.lt_succ_self _) hread.2.2.2⟩
    rcases Nat.eq_or_lt_of_le hle with rfl | hlt'
    · exact hv
    · exact hall i hi hlt' hlt
  | case2 l h hv =>
    exact ⟨ReadOn.refl l, fun i _ hle hlt => absurd hlt (Nat.not_lt.mpr hle), fun _ h' => absurd h' (by simp [hv])⟩
  | case3 l h =>
    exact ⟨ReadOn.refl l, fun i _ hle hlt => absurd hlt (Nat.not_lt.mpr hle), fun h' => absurd h' h⟩

theorem readOn_acceptRun (l : Lexer) (valid : Char → Bool) : ReadOn l (l.acceptRun valid) :=
  (acceptRun_spec l valid).1

theorem readOn_scanDigits (base : Nat) : ∀ (count : Nat) (l : Lexer) (c : Option Char),
    ReadOn l (l.scanDigits c base count).2
  | 0, l, _ => ReadOn.refl l
  | count + 1, l, c => by
    unfold scanDigits
    split
    · exact (readOn_next l).trans (readOn_scanDigits base count _ _)
    · exact readOn_fail l _

theorem readOn_scanEscape (l : Lexer) (quote : Char) : ReadOn l (l.scanEscape quote).2 := by
  unfold scanEscape
  simp only [next]
  split
  · rename_i ch
    split
    · exact (readOn_next l).trans (readOn_next _)
    · split
      · exact (readOn_next l).trans (readOn_scanDigits _ _ _ _)
      · split
        · exact ((readOn_next l).trans (readOn_next _)).trans (readOn_scanDigits _ _ _ _)
        · split
          · exact ((readOn_next l).trans (readOn_next _)).trans (readOn_scanDigits _ _ _ _)
          · split
            · exact ((readOn_next l).trans (readOn_next _)).trans (readOn_scanDigits _ _ _ _)
            · exact (readOn_next l).trans (readOn_fail _ _)
  · exact (readOn_next l).trans (readOn_fail _ _)

theorem readOn_scanString (quote : Char) : ∀ (fuel : Nat) (l : Lexer) (c : Option Char),
    ReadOn l (scanString quote fuel l c)
  | 0, l, _ => ReadOn.refl l
  | fuel + 1, l, c => by
    unfold scanString
    split
    · split
      · exact ReadOn.refl l
      · split
        · exact readOn_fail l _
        · split
          · exact (readOn_scanEscape l quote).trans (readOn_scanString quote fuel _ _)
          · exact (readOn_next l).trans (readOn_scanString quote fuel _ _)
    · exact readOn_fail l _

theorem readOn_scanRaw : ∀ (fuel : Nat) (l : Lexer) (c : Option Char), ReadOn l (scanRaw fuel l c).1
  | 0, l, _ => ReadOn.refl l
  | fuel + 1, l, c => by
    unfold scanRaw
    split
    · exact ReadOn.refl l
    · exact (readOn_next l).trans (readOn_scanRaw fuel _ _)
    · exact readOn_fail l _

theorem readOn_skipLine : ∀ (fuel : Nat) (l : Lexer), ReadOn l (skipLine fuel l)
  | 0, l => ReadOn.refl l
  | fuel + 1, l => by
    unfold skipLine
    simp only [next]
    split
    · rename_i h
      obtain ⟨-, rfl⟩ := Prod.mk.inj h
      exact readOn_next l
    · rename_i h
      obtain ⟨-, rfl⟩ := Prod.mk.inj h
      exact readOn_next l
    · rename_i h
      obtain ⟨-, rfl⟩ := Prod.mk.inj h
      exact (readOn_next l).trans (readOn_skipLine fuel _)

theorem readOn_skipBlock : ∀ (fuel : Nat) (l : Lexer), ReadOn l (skipBlock fuel l).1
  | 0, l => ReadOn.refl l
  | fuel + 1, l => by
    unfold skipBlock
    simp only [next]
    split
    · rename_i h
      obtain ⟨-, rfl⟩ := Prod.mk.inj h
      exact (readOn_next l).trans (readOn_fail _ _)
    · rename_i h
      obtain ⟨-, rfl⟩ := Prod.mk.inj h
      split
      · exact (readOn_next l).trans (readOn_accept _ _)
      · exact ((readOn_next l).trans (readOn_accept _ _)).trans (readOn_skipBlock fuel _)
    · rename_i h
      obtain ⟨-, rfl⟩ := Prod.mk.inj h
      exact (readOn_next l).trans (readOn_skipBlock fuel _)

theorem readOn_of_accept {l l' : Lexer} {valid : Char → Bool} {b : Bool}
    (h : l.accept valid = (b, l')) : ReadOn l l' := by
  have hread := readOn_accept l valid
  rw [h] at hread
  exact hread

theorem readOn_scanNumber (l : Lexer) : ReadOn l l.scanNumber.2 := by
  unfold scanNumber
  split
  rename_i zero l₁ h₁
  split
  rename_i digits l₂ h₂
  -- the base of the digits: each prefix read is accepted once
  have r₂ : ReadOn l l₂ := by
    refine (readOn_of_accept h₁).trans ?_
    split at h₂
    · split at h₂
      rename_i hex l₃ h₃
      split at h₂
      · cases h₂
        exact readOn_of_accept h₃
      · split at h₂
        rename_i oct l₄ h₄
        split at h₂
        · cases h₂
          exact (readOn_of_accept h₃).trans (readOn_of_accept h₄)
        · split at h₂
          rename_i bin l₅ h₅
          split at h₂ <;> cases h₂ <;>
            exact ((readOn_of_accept h₃).trans (readOn_of_accept h₄)).trans (readOn_of_accept h₅)
    · cases h₂
      exact ReadOn.refl _
  have r₃ := r₂.trans (readOn_acceptRun l₂ (oneOf digits))
  lift_lets
  extract_lets l₃ mark
  split
  rename_i dot l₄ h₄
  have r₄ := r₃.trans (readOn_of_accept h₄)
  lift_lets
  extract_lets l₅
  have r₅ : ReadOn l l₅ := by
    simp only [l₅]
    split
    · exact r₄.trans (readOn_acceptRun _ _)
    · exact r₄
  split
  · -- a range `..` after the digits: the position goes back before the dot
    exact ⟨r₄.1, r₄.2.1, r₄.2.2.1, r₃.2.2.2⟩
  · split
    rename_i exp l₆ h₆
    have r₆ := r₅.trans (readOn_of_accept h₆)
    lift_lets
    extract_lets l₇
    have r₇ : ReadOn l l₇ := by
      simp only [l₇]
      split
      · exact (r₆.trans (readOn_accept _ _)).trans (readOn_acceptRun _ _)
      · exact r₆
    split
    · split
      · exact r₇.trans (readOn_next _)
      · exact r₇
    · exact r₇

end ReadOn

section Sound

theorem sound_emitValue {l : Lexer} {k : TokenKind} {text : String} (hl : Sound l)
    (hk : k = .identifier → Text.isBlank text = false) : Sound (l.emitValue k text) := by
  refine ⟨Nat.le_refl _, fun t ht hkind => ?_⟩
  rcases Array.mem_push.mp ht with ht | rfl
  · exact hl.2 t ht hkind
  · exact hk hkind

theorem sound_emit {l : Lexer} {k : TokenKind} (hl : Sound l) (hk : k ≠ .identifier) :
    Sound (l.emit k) :=
  sound_emitValue hl fun h => absurd h hk

theorem sound_skip {l : Lexer} (hl : Sound l) : Sound l.skip := ⟨Nat.le_refl _, hl.2⟩

theorem sound_emitEnd {l : Lexer} (hl : Sound l) : Sound l.emitEnd := by
  refine ⟨Nat.le_refl _, fun t ht hkind => ?_⟩
  rcases Array.mem_push.mp ht with ht | rfl
  · exact hl.2 t ht hkind
  · cases hkind

theorem isBlank_word {l : Lexer} (h : l.start ≤ l.src.size → l.pos ≤ l.src.size →
    ∃ i c, l.start ≤ i ∧ i < l.pos ∧ l.src[i]? = some c ∧ Text.isSpace c = false) :
    Text.isBlank (String.ofList l.word) = false := by
  unfold word
  split
  · decide
  · rename_i hvalid
    simp only [Bool.or_eq_true, decide_eq_true_eq, not_or, Nat.not_lt] at hvalid
    obtain ⟨i, c, hstart, hpos, hc, hspace⟩ := h hvalid.1 hvalid.2
    have hi : i < l.src.size := by omega
    have hmem : c ∈ (l.src.toList.drop l.start).take (l.pos - l.start) := by
      rw [List.mem_iff_getElem]
      refine ⟨i - l.start, by simp; omega, ?_⟩
      rw [Array.getElem?_eq_getElem hi, Option.some.injEq] at hc
      simp only [List.getElem_take, List.getElem_drop, Array.getElem_toList, ← hc]
      congr 1
      omega
    simp only [Text.isBlank, String.toList_ofList, List.all_eq_false]
    exact ⟨_, hmem, by simp [hspace]⟩

theorem start_lt_pos_of_word {l : Lexer} (hne : l.word ≠ []) (hs : l.start ≤ l.src.size)
    (hp : l.pos ≤ l.src.size) : l.start < l.pos := by
  unfold word at hne
  rw [if_neg (by simp; omega)] at hne
  exact Nat.lt_of_not_le fun hle => hne (by simp; omega)

theorem readOn_of_next {l l' : Lexer} {c : Option Char} (h : l.next = (c, l')) : ReadOn l l' := by
  have hread := readOn_next l
  rw [h] at hread
  exact hread

theorem next_eq {l l' : Lexer} {c : Option Char} (h : l.next = (c, l')) :
    c = l.src[l.pos]? ∧ l' = { l with pos := l.pos + 1 } := by
  obtain ⟨hc, hl⟩ := Prod.mk.inj h
  exact ⟨hc.symm, hl.symm⟩

theorem sound_lexNumber {l : Lexer} (hl : Sound l) : Sound l.lexNumber.1 := by
  unfold lexNumber
  split
  rename_i ok l' h
  have r : ReadOn l l' := by
    have hread := readOn_scanNumber l
    rw [h] at hread
    exact hread
  split
  · exact sound_emit (r.sound hl) (by decide)
  · exact (r.trans (readOn_fail _ _)).sound hl

theorem sound_lexString {l : Lexer} (hl : Sound l) (quote : Char) : Sound (l.lexString quote) := by
  unfold lexString
  split
  rename_i c l₁ h₁
  lift_lets
  extract_lets l₂
  have r : ReadOn l l₂ := (readOn_of_next h₁).trans (readOn_scanString _ _ _ _)
  split
  · exact sound_emitValue (r.sound hl) fun h => by cases h
  · exact sound_emitValue ((r.trans (readOn_fail _ _)).sound hl) fun h => by cases h

theorem sound_lexRaw {l : Lexer} (hl : Sound l) : Sound l.lexRaw := by
  unfold lexRaw
  split
  rename_i c l₁ h₁
  split
  · exact sound_emitValue (((readOn_of_next h₁).trans (by
      rename_i h
      have hread := readOn_scanRaw (l₁.src.size + 2) l₁ c
      rw [h] at hread
      exact hread)).sound hl) fun h => by cases h
  · rename_i h
    have hread := readOn_scanRaw (l₁.src.size + 2) l₁ c
    rw [h] at hread
    exact ((readOn_of_next h₁).trans hread).sound hl

theorem sound_lexNot {l : Lexer} (hl : Sound l) : Sound l.lexNot := by
  unfold lexNot
  lift_lets
  extract_lets l₁ l₂ mark l₃
  have s₂ : Sound l₂ := sound_skip ((readOn_acceptRun _ _).sound (sound_emit hl (by decide)))
  have r₃ : ReadOn l₂ l₃ := readOn_acceptRun _ _
  split
  · exact sound_emit (r₃.sound s₂) (by decide)
  · -- no second operator: the position goes back to where the pending token starts
    refine ⟨?_, r₃.2.2.1 ▸ s₂.2⟩
    show l₃.start ≤ l₂.pos
    rw [r₃.2.1]
    exact Nat.le_refl _

theorem sound_lexIdentifier {l : Lexer} (hl : Sound l) {c : Char} (hc : l.src[l.pos]? = some c)
    (halpha : isAlphaNumeric c = true) : Sound l.lexIdentifier := by
  unfold lexIdentifier
  lift_lets
  extract_lets l₁ w
  obtain ⟨r₁, -, hprogress⟩ := acceptRun_spec l isAlphaNumeric
  have s₁ := r₁.sound hl
  have hlt : l.pos < l.src.size := by
    rcases Nat.lt_or_ge l.pos l.src.size with h | h
    · exact h
    · simp [Array.getElem?_eq_none h] at hc
  have hget : l.src[l.pos] = c := by
    rw [Array.getElem?_eq_getElem hlt, Option.some.injEq] at hc
    exact hc
  split
  · exact sound_lexNot s₁
  · split
    · exact sound_emit s₁ (by decide)
    · refine sound_emitValue s₁ fun _ => isBlank_word fun _ _ => ⟨l.pos, c, ?_, ?_, ?_, ?_⟩
      · exact r₁.2.1 ▸ hl.1
      · exact hprogress hlt (hget ▸ halpha)
      · rw [r₁.1]
        exact hc
      · exact isSpace_of_isAlphaNumeric halpha

theorem sound_lexSlash {l : Lexer} (hl : Sound l) : Sound l.lexSlash.1 := by
  unfold lexSlash
  split
  rename_i line l₁ h₁
  have s₁ := (readOn_of_accept h₁).sound hl
  split
  · exact sound_skip ((readOn_skipLine _ _).sound s₁)
  · split
    rename_i block l₂ h₂
    have s₂ := (readOn_of_accept h₂).sound s₁
    split
    · split
      rename_i l₃ ok h₃
      have hread := readOn_skipBlock (l₂.src.size + 2) l₂
      rw [h₃] at hread
      exact sound_skip (hread.sound s₂)
    · exact sound_emit s₂ (by decide)

theorem sound_lexPointer {l : Lexer} (hl : Sound l) : Sound l.lexPointer := by
  unfold lexPointer
  lift_lets
  extract_lets l₁ l₂
  have s₁ : Sound l₁ := sound_emit ((readOn_accept _ _).sound hl) (by decide)
  obtain ⟨r₂, hall, -⟩ := acceptRun_spec l₁ isAlphaNumeric
  split
  · exact r₂.sound s₁
  · rename_i hne
    refine sound_emitValue (r₂.sound s₁) fun _ => isBlank_word fun hs hp => ?_
    have hlt := start_lt_pos_of_word (by simpa using hne) hs hp
    -- the pending token starts where the run started, after the `#`
    have hstart : l₂.start = l₁.pos := r₂.2.1
    have hsize : l₂.src.size = l₁.src.size := by rw [r₂.1]
    have hi : l₂.start < l₁.src.size := by omega
    refine ⟨l₂.start, l₁.src[l₂.start], Nat.le_refl _, hlt, ?_, ?_⟩
    · rw [r₂.1, Array.getElem?_eq_getElem hi]
    · exact isSpace_of_isAlphaNumeric (hall _ hi (Nat.le_of_eq hstart.symm) hlt)

theorem backup_of_next {l l' : Lexer} {c : Option Char} (h : l.next = (c, l')) : l'.backup = l := by
  obtain ⟨-, rfl⟩ := next_eq h
  show { l with pos := l.pos + 1 - 1 } = l
  rw [Nat.add_sub_cancel]

theorem sound_backup {l : Lexer} (hl : Sound l) (h : l.start < l.pos) : Sound l.backup :=
  ⟨by simp only [backup]; omega, hl.2⟩

theorem sound_step {l : Lexer} (hl : Sound l) : Sound l.step.1 := by
  unfold step
  split
  · rename_i l' h
    exact sound_emitEnd ((readOn_of_next h).sound hl)
  · rename_i c l' h
    have r' := readOn_of_next h
    have s' := r'.sound hl
    have hback := backup_of_next h
    have hc : l.src[l.pos]? = some c := (next_eq h).1.symm
    -- the character decides the kind of token, in the order the tokenizer tests it
    by_cases h₁ : Text.isSpace c = true
    · rw [if_pos h₁]
      exact sound_skip s'
    rw [if_neg h₁]
    by_cases h₂ : (c = '\'' || c = '"') = true
    · rw [if_pos h₂]
      exact sound_lexString s' c
    rw [if_neg h₂]
    by_cases h₃ : c = '`'
    · rw [if_pos h₃]
      exact sound_lexRaw s'
    rw [if_neg h₃]
    by_cases h₄ : ('0' ≤ c && c ≤ '9') = true
    · rw [if_pos h₄, hback]
      exact sound_lexNumber hl
    rw [if_neg h₄]
    by_cases h₅ : c = '?'
    · rw [if_pos h₅]
      exact sound_emit ((readOn_accept _ _).sound s') (by decide)
    rw [if_neg h₅]
    by_cases h₆ : c = '/'
    · rw [if_pos h₆]
      exact sound_lexSlash s'
    rw [if_neg h₆]
    by_cases h₇ : c = '#'
    · rw [if_pos h₇]
      exact sound_lexPointer s'
    rw [if_neg h₇]
    by_cases h₈ : c = '|'
    · rw [if_pos h₈]
      exact sound_emit ((readOn_accept _ _).sound s') (by decide)
    rw [if_neg h₈]
    by_cases h₉ : c = ':'
    · rw [if_pos h₉]
      exact sound_emit ((readOn_accept _ _).sound s') (by decide)
    rw [if_neg h₉]
    by_cases h₁₀ : oneOf "([\x7b)]\x7d" c = true
    · rw [if_pos h₁₀]
      exact sound_emit s' (by decide)
    rw [if_neg h₁₀]
    by_cases h₁₁ : oneOf ",;%+-^" c = true
    · rw [if_pos h₁₁]
      exact sound_emit s' (by decide)
    rw [if_neg h₁₁]
    by_cases h₁₂ : oneOf "&!=*<>" c = true
    · rw [if_pos h₁₂]
      exact sound_emit ((readOn_accept _ _).sound s') (by decide)
    rw [if_neg h₁₂]
    by_cases h₁₃ : c = '.'
    · -- a dot: a number when a digit follows, an operator otherwise
      rw [if_pos h₁₃]
      lift_lets
      extract_lets l₀
      have h₀ : l₀ = l := hback
      split
      rename_i c₂ l₂ h₂'
      rw [h₀] at h₂'
      split
      rename_i digit l₃ h₃'
      have r₃ := (readOn_of_next h₂').trans (readOn_of_accept h₃')
      split
      · refine sound_lexNumber (sound_backup (r₃.sound hl) ?_)
        have hpos := (next_eq h₂').2 ▸ (readOn_of_accept h₃').2.2.2
        rw [r₃.2.1]
        simp only at hpos
        have hstart := hl.1
        omega
      · exact sound_emit ((readOn_accept _ _).sound (r₃.sound hl)) (by decide)
    rw [if_neg h₁₃]
    by_cases h₁₄ : isAlphaNumeric c = true
    · rw [if_pos h₁₄, hback]
      exact sound_lexIdentifier hl hc h₁₄
    rw [if_neg h₁₄]
    exact (readOn_fail _ _).sound s'

theorem sound_run : ∀ (fuel : Nat) (l : Lexer), Sound l → Sound (run fuel l)
  | 0, _, hl => hl
  | fuel + 1, l, hl => by
    unfold run
    have hstep := sound_step hl
    split
    · rename_i l' h
      rw [h] at hstep
      exact sound_run fuel l' hstep
    · rename_i l' h
      rw [h] at hstep
      exact hstep

end Sound

end Lexer

/-- Every name the tokenizer reads is a word: no identifier token is blank. -/
theorem tokenize_names {src : String} {tokens : Array Token} (h : tokenize src = .ok tokens) :
    ∀ t ∈ tokens, t.Named := by
  unfold tokenize at h
  extract_lets chars l at h
  split at h
  · cases h
  · cases h
    exact (Lexer.sound_run _ _ ⟨Nat.le_refl _, by simp⟩).2

end Expr

end DruidQuery
