import Mathlib
import DruidQuery.Proofs.ShortestDigits
import DruidQuery.Expr.Parser
import DruidQuery.Decimal.Layout
import DruidQuery.Value

namespace DruidQuery.Expr

def digitChars : List Char := ['0', '1', '2', '3', '4', '5', '6', '7', '8', '9']

theorem isDigit_toNat {c : Char} (h : c.isDigit = true) : 48 ≤ c.toNat ∧ c.toNat < 58 := by
  have hc := Char.isDigit_iff_toNat.mp h
  simp at hc
  omega

theorem mem_digitChars {c : Char} (h : c.isDigit = true) : c ∈ digitChars := by
  have hc := isDigit_toNat h
  have key : ∀ n < 10, Char.ofNat (48 + n) ∈ digitChars := by decide
  have := key (c.toNat - 48) (by omega)
  rwa [show 48 + (c.toNat - 48) = c.toNat by omega, Char.ofNat_toNat] at this

def Follows (c : Char) : Prop := isAlphaNumeric c = false ∧ c ≠ '.' ∧ c ≠ '_'

namespace Lexer

section Forward

variable {l : Lexer} {c : Char} {cs rest : List Char}

theorem peek_eq_head : l.peek = (l.src.toList.drop l.pos).head? := by
  unfold peek
  rw [← Array.getElem?_toList, ← List.head?_drop]

theorem peek_of_drop (h : l.src.toList.drop l.pos = c :: rest) : l.peek = some c := by
  rw [peek_eq_head, h]
  rfl

theorem peek_of_drop_nil (h : l.src.toList.drop l.pos = []) : l.peek = none := by
  rw [peek_eq_head, h]
  rfl

theorem drop_succ (h : l.src.toList.drop l.pos = c :: rest) :
    l.src.toList.drop (l.pos + 1) = rest := by
  rw [← List.drop_drop, h]
  rfl

theorem accept_of_valid {valid : Char → Bool} (h : l.src.toList.drop l.pos = c :: rest)
    (hv : valid c = true) : l.accept valid = (true, { l with pos := l.pos + 1 }) := by
  unfold accept
  rw [peek_of_drop h]
  simp only [hv, if_true]

theorem accept_of_invalid {valid : Char → Bool} (h : ∀ c ∈ (l.src.toList.drop l.pos).head?, valid c = false) :
    l.accept valid = (false, l) := by
  unfold accept
  rcases hd : l.src.toList.drop l.pos with _ | ⟨c, rest⟩
  · rw [peek_of_drop_nil hd]
  · rw [peek_of_drop hd]
    rw [hd] at h
    simp only [h c (by simp), Bool.false_eq_true, if_false]

theorem acceptRun_of_valid {valid : Char → Bool} :
    ∀ {l : Lexer} {cs : List Char}, l.src.toList.drop l.pos = cs ++ rest → (∀ c ∈ cs, valid c = true) →
      (∀ c ∈ rest.head?, valid c = false) → l.acceptRun valid = { l with pos := l.pos + cs.length }
  | l, [], h, _, hrest => by
    rw [acceptRun]
    split
    · rename_i hlt
      rw [List.nil_append] at h
      have hget : l.src[l.pos] ∈ rest.head? := by
        rw [← h, List.head?_drop, Array.getElem?_toList, Array.getElem?_eq_getElem hlt]
        rfl
      rw [if_neg (by rw [hrest _ hget]; decide)]
      rfl
    · rfl
  | l, c :: cs, h, hcs, hrest => by
    rw [acceptRun]
    have hlt : l.pos < l.src.size := by
      have := congrArg List.length h
      simp at this
      omega
    rw [dif_pos hlt]
    have hget : l.src[l.pos] = c := by
      have := congrArg List.head? h
      rw [List.head?_drop, Array.getElem?_toList, Array.getElem?_eq_getElem hlt] at this
      simpa using this
    rw [if_pos (by rw [hget]; exact hcs c (by simp))]
    rw [acceptRun_of_valid (l := { l with pos := l.pos + 1 }) (drop_succ h) (fun c hc => hcs c (by simp [hc])) hrest]
    simp only [List.length_cons]
    congr 1
    omega

end Forward

end Lexer

/-- A decimal numeral: whole digits, then optionally a point and fraction digits, then optionally
`e`, a sign (`-` when the flag is set) and exponent digits. -/
structure Numeral where
  whole : List Char
  fraction : Option (List Char)
  power : Option (Bool × List Char)

namespace Numeral

def fractionChars : Option (List Char) → List Char
  | some f => '.' :: f
  | none => []

def powerChars : Option (Bool × List Char) → List Char
  | some (negative, ds) => 'e' :: (if negative then '-' else '+') :: ds
  | none => []

def chars (n : Numeral) : List Char := n.whole ++ fractionChars n.fraction ++ powerChars n.power

structure Valid (n : Numeral) : Prop where
  whole_ne : n.whole ≠ []
  whole : ∀ c ∈ n.whole, c.isDigit = true
  fraction : ∀ f ∈ n.fraction, ∀ c ∈ f, c.isDigit = true
  power : ∀ p ∈ n.power, p.2 ≠ [] ∧ ∀ c ∈ p.2, c.isDigit = true

def ofNat (m : Nat) : Numeral := ⟨Nat.toDigits 10 m, none, none⟩

theorem after_whole {n : Numeral} {rest : List Char} (hrest : ∀ c ∈ rest.head?, Follows c) :
    ∀ c ∈ (fractionChars n.fraction ++ powerChars n.power ++ rest).head?, c = '.' ∨ c = 'e' ∨ Follows c := by
  intro c hc
  rcases hf : n.fraction with _ | f <;> rcases hp : n.power with _ | ⟨neg, ds⟩ <;>
    simp [hf, hp, fractionChars, powerChars] at hc
  all_goals first | exact .inl hc.symm | exact .inr (.inl hc.symm) | exact .inr (.inr (hrest c (by simp [hc])))

theorem after_fraction {n : Numeral} {rest : List Char} (hrest : ∀ c ∈ rest.head?, Follows c) :
    ∀ c ∈ (powerChars n.power ++ rest).head?, c = 'e' ∨ Follows c := by
  cases hp : n.power with
  | none => exact fun c hc => .inr (hrest c (by simpa [powerChars] using hc))
  | some p => exact fun c hc => .inl (by simpa [powerChars] using hc.symm)

end Numeral

section Characters

theorem of_isDigit {P : Char → Bool} (hP : digitChars.all P = true) {c : Char} (h : c.isDigit = true) :
    P c = true :=
  List.all_eq_true.mp hP c (mem_digitChars h)

theorem oneOf_digits {c : Char} (h : c.isDigit = true) : Lexer.oneOf "0123456789_" c = true :=
  of_isDigit (P := Lexer.oneOf "0123456789_") (by decide) h

theorem isAlphaNumeric_of_isDigit {c : Char} (h : c.isDigit = true) : isAlphaNumeric c = true :=
  of_isDigit (P := isAlphaNumeric) (by decide) h

end Characters

theorem oneOf_eq_false_of_follows {s : String}
    (hs : s.toList.all (fun d => isAlphaNumeric d || d == '_') = true) {c : Char} (hc : Follows c) :
    Lexer.oneOf s c = false := by
  rw [Bool.eq_false_iff]
  intro hin
  have hmem : c ∈ s.toList := by simpa [Lexer.oneOf] using hin
  have := List.all_eq_true.mp hs c hmem
  simp [hc.1, hc.2.2] at this

theorem oneOf_digits_eq_false {c : Char} (hc : c = '.' ∨ c = 'e' ∨ Follows c) :
    Lexer.oneOf "0123456789_" c = false := by
  rcases hc with rfl | rfl | hc
  · decide
  · decide
  · exact oneOf_eq_false_of_follows (by decide) hc

theorem oneOf_base_eq_false {s : String} (hs : s = "xX" ∨ s = "oO" ∨ s = "bB") {c : Char}
    (hc : c.isDigit = true ∨ c = '.' ∨ c = 'e' ∨ Follows c) : Lexer.oneOf s c = false := by
  rcases hc with hd | rfl | rfl | hc
  · have key : digitChars.all (fun d => !Lexer.oneOf "xX" d && !Lexer.oneOf "oO" d &&
        !Lexer.oneOf "bB" d) = true := by decide
    have := of_isDigit key hd
    rcases hs with rfl | rfl | rfl <;> simp_all
  · rcases hs with rfl | rfl | rfl <;> decide
  · rcases hs with rfl | rfl | rfl <;> decide
  · exact oneOf_eq_false_of_follows (by rcases hs with rfl | rfl | rfl <;> decide) hc

namespace Lexer

variable {L : Lexer} {rest : List Char}

theorem scan_fraction {fr : Option (List Char)} (hfr : ∀ f ∈ fr, ∀ c ∈ f, c.isDigit = true)
    {X : List Char} (h : L.src.toList.drop L.pos = Numeral.fractionChars fr ++ X)
    (hX : ∀ c ∈ X.head?, c = 'e' ∨ Follows c) :
    ∃ dot L', L.accept (oneOf ".") = (dot, L') ∧ (dot && L'.peek == some '.') = false ∧
      (if dot then L'.acceptRun (oneOf "0123456789_") else L') =
        { L with pos := L.pos + (Numeral.fractionChars fr).length } := by
  have hstop : ∀ c ∈ X.head?, oneOf "0123456789_" c = false := fun c hc =>
    oneOf_digits_eq_false (.inr (hX c hc))
  cases fr with
  | none =>
    refine ⟨false, L, accept_of_invalid ?_, rfl, rfl⟩
    rw [h]
    intro c hc
    rcases hX c hc with rfl | ⟨-, hdot, -⟩
    · decide
    · simpa [oneOf] using hdot
  | some f =>
    have hf : ∀ c ∈ f, c.isDigit = true := hfr f rfl
    rw [Numeral.fractionChars, List.cons_append] at h
    refine ⟨true, { L with pos := L.pos + 1 }, accept_of_valid h (by decide), ?_, ?_⟩
    · -- after the point comes a digit, an `e` or a follower
      rw [Bool.true_and, peek_eq_head]
      show ((L.src.toList.drop (L.pos + 1)).head? == some '.') = false
      rw [drop_succ h]
      cases f with
      | nil =>
        rw [List.nil_append]
        cases hx : X.head? with
        | none => rfl
        | some c =>
          rcases hX c hx with rfl | ⟨-, hdot, -⟩
          · decide
          · simpa using hdot
      | cons d f =>
        have hd : d.isDigit = true := hf d (by simp)
        have : d ≠ '.' := fun hdot => by subst hdot; exact absurd hd (by decide)
        simpa using this
    · rw [if_pos rfl, acceptRun_of_valid (l := { L with pos := L.pos + 1 }) (drop_succ h)
        (fun c hc => oneOf_digits (hf c hc)) hstop]
      simp only [Numeral.fractionChars, List.length_cons]
      congr 1
      omega

theorem scan_power {pw : Option (Bool × List Char)} (hpw : ∀ p ∈ pw, ∀ c ∈ p.2, c.isDigit = true)
    (h : L.src.toList.drop L.pos = Numeral.powerChars pw ++ rest) (hrest : ∀ c ∈ rest.head?, Follows c) :
    ∃ exp L', L.accept (oneOf "eE") = (exp, L') ∧
      (if exp then (L'.accept (oneOf "+-")).2.acceptRun (oneOf "0123456789_") else L') =
        { L with pos := L.pos + (Numeral.powerChars pw).length } := by
  cases pw with
  | none =>
    refine ⟨false, L, accept_of_invalid ?_, rfl⟩
    rw [h]
    exact fun c hc => oneOf_eq_false_of_follows (by decide) (hrest c hc)
  | some p =>
    obtain ⟨negative, ds⟩ := p
    have hds : ∀ c ∈ ds, c.isDigit = true := hpw _ rfl
    rw [Numeral.powerChars, List.cons_append, List.cons_append] at h
    refine ⟨true, { L with pos := L.pos + 1 }, accept_of_valid h (by decide), ?_⟩
    have h₁ := drop_succ (l := L) h
    rw [if_pos rfl, accept_of_valid (l := { L with pos := L.pos + 1 }) h₁ (by cases negative <;> decide)]
    rw [acceptRun_of_valid (l := { L with pos := L.pos + 1 + 1 }) (drop_succ (l := { L with pos := L.pos + 1 }) h₁)
      (fun c hc => oneOf_digits (hds c hc))
      (fun c hc => oneOf_digits_eq_false (.inr (.inr (hrest c hc))))]
    simp only [Numeral.powerChars, List.length_cons]
    congr 1
    omega

end Lexer

open Lexer in
theorem scanNumber_numeral {l : Lexer} {n : Numeral} (hn : n.Valid) {rest : List Char}
    (h : l.src.toList.drop l.pos = n.chars ++ rest) (hrest : ∀ c ∈ rest.head?, Follows c) :
    l.scanNumber = (true, { l with pos := l.pos + n.chars.length }) := by
  obtain ⟨c0, w, hw⟩ : ∃ c0 w, n.whole = c0 :: w := by
    cases hw : n.whole with
    | nil => exact absurd hw hn.whole_ne
    | cons c0 w => exact ⟨c0, w, rfl⟩
  have hc0 : c0.isDigit = true := hn.whole c0 (by simp [hw])
  set tail := Numeral.fractionChars n.fraction ++ Numeral.powerChars n.power ++ rest with htail
  have hsrc : l.src.toList.drop l.pos = n.whole ++ tail := by
    rw [h, Numeral.chars, htail]
    simp
  have hstop : ∀ c ∈ tail.head?, c = '.' ∨ c = 'e' ∨ Follows c := Numeral.after_whole hrest
  unfold scanNumber
  split
  rename_i zero l₁ h₁
  split
  rename_i digits l₂ h₂
  -- after a leading zero no base letter follows, so the digits are decimal
  obtain ⟨k, ws, rfl, rfl, hk⟩ : ∃ k ws, digits = "0123456789_" ∧ l₂ = { l with pos := l.pos + k } ∧
      n.whole = List.replicate k '0' ++ ws := by
    rw [hw, List.cons_append] at hsrc
    by_cases h0 : c0 = '0'
    · subst h0
      rw [accept_of_valid hsrc (by decide)] at h₁
      obtain ⟨rfl, rfl⟩ := Prod.mk.inj h₁
      have hnext : ∀ c ∈ (w ++ tail).head?, c.isDigit = true ∨ c = '.' ∨ c = 'e' ∨ Follows c := by
        cases w with
        | nil => exact fun c hc => .inr (hstop c (by simpa using hc))
        | cons d w =>
          intro c hc
          obtain rfl : d = c := by simpa using hc
          exact .inl (hn.whole d (by simp [hw]))
      have hbase : ∀ s, (s = "xX" ∨ s = "oO" ∨ s = "bB") →
          ({ l with pos := l.pos + 1 } : Lexer).accept (oneOf s) = (false, { l with pos := l.pos + 1 }) :=
        fun s hs => accept_of_invalid fun c hc =>
          oneOf_base_eq_false hs (hnext c (by rwa [drop_succ hsrc] at hc))
      rw [if_pos rfl, hbase "xX" (.inl rfl)] at h₂
      simp only [Bool.false_eq_true, if_false] at h₂
      rw [hbase "oO" (.inr (.inl rfl))] at h₂
      simp only [Bool.false_eq_true, if_false] at h₂
      rw [hbase "bB" (.inr (.inr rfl))] at h₂
      simp only [Bool.false_eq_true, if_false] at h₂
      obtain ⟨rfl, rfl⟩ := Prod.mk.inj h₂
      exact ⟨1, w, rfl, rfl, by simp [hw]⟩
    · rw [accept_of_invalid fun c hc => ?_] at h₁
      · obtain ⟨rfl, rfl⟩ := Prod.mk.inj h₁
        rw [if_neg (by decide)] at h₂
        obtain ⟨rfl, rfl⟩ := Prod.mk.inj h₂
        exact ⟨0, c0 :: w, rfl, rfl, by simp [hw]⟩
      · obtain rfl : c0 = c := by simpa [hsrc] using hc
        simpa [oneOf] using h0
  -- the whole digits
  have hdrop : l.src.toList.drop (l.pos + k) = ws ++ tail := by
    rw [← List.drop_drop, hsrc, hk, List.append_assoc, List.drop_left' (by simp)]
  rw [acceptRun_of_valid (l := { l with pos := l.pos + k }) hdrop
    (fun c hc => oneOf_digits (hn.whole c (by rw [hk]; simp [hc])))
    (fun c hc => oneOf_digits_eq_false (hstop c hc))]
  -- the fraction and the exponent
  obtain ⟨dot, l₄, h₄, hdot, hl₅⟩ := scan_fraction (L := { l with pos := l.pos + k + ws.length })
    hn.fraction (by rw [← List.drop_drop, hdrop, List.drop_left, htail, List.append_assoc])
    (Numeral.after_fraction hrest)
  dsimp only at h₄ hl₅ ⊢
  rw [h₄]
  dsimp only
  rw [hdot, if_neg Bool.false_ne_true, hl₅]
  have hdrop₅ : l.src.toList.drop (l.pos + k + ws.length + (Numeral.fractionChars n.fraction).length) =
      Numeral.powerChars n.power ++ rest := by
    rw [← List.drop_drop, ← List.drop_drop, hdrop, List.drop_left, htail, List.append_assoc, List.drop_left]
  obtain ⟨exp, l₆, h₆, hl₇⟩ := scan_power (L := { l with pos := l.pos + k + ws.length +
    (Numeral.fractionChars n.fraction).length }) (fun p hp => (hn.power p hp).2) hdrop₅ hrest
  dsimp only at h₆ hl₇
  rw [h₆]
  dsimp only
  rw [hl₇, peek_eq_head]
  -- the character after the numeral is no letter or digit
  have hend : l.pos + k + ws.length + (Numeral.fractionChars n.fraction).length +
      (Numeral.powerChars n.power).length = l.pos + n.chars.length := by
    simp only [Numeral.chars, hk, List.length_append, List.length_replicate]
    omega
  have hdrop₇ : l.src.toList.drop (l.pos + n.chars.length) = rest := by
    rw [← List.drop_drop, h, List.drop_left]
  dsimp only
  rw [hend, hdrop₇]
  cases hr : rest.head? with
  | none => rfl
  | some c => simp only [(hrest c hr).1, Bool.false_eq_true, if_false]

def digitsValue (cs : List Char) : Nat := cs.foldl (fun v c => v * 10 + (c.toNat - 48)) 0

theorem foldl_digits (cs : List Char) (n : Nat) :
    cs.foldl (fun v c => v * 10 + (c.toNat - 48)) n = n * 10 ^ cs.length + digitsValue cs := by
  induction cs generalizing n with
  | nil => simp [digitsValue]
  | cons c cs ih =>
    have hc : digitsValue (c :: cs) = (0 * 10 + (c.toNat - 48)) * 10 ^ cs.length + digitsValue cs :=
      ih _
    rw [List.foldl_cons, ih, hc, List.length_cons, Nat.pow_succ]
    ring

theorem digitsValue_append (a b : List Char) :
    digitsValue (a ++ b) = digitsValue a * 10 ^ b.length + digitsValue b := by
  rw [digitsValue, List.foldl_append, foldl_digits]
  rfl

theorem digitsValue_cons (c : Char) (cs : List Char) :
    digitsValue (c :: cs) = (c.toNat - 48) * 10 ^ cs.length + digitsValue cs := by
  rw [← List.singleton_append, digitsValue_append]
  simp [digitsValue]

theorem digitsValue_replicate_zero (e : Nat) : digitsValue (List.replicate e '0') = 0 := by
  induction e with
  | zero => rfl
  | succ e ih =>
    rw [List.replicate_succ', digitsValue_append, ih]
    rfl

theorem digitsValue_toDigits (m : Nat) : digitsValue (Nat.toDigits 10 m) = m := by
  induction m using Nat.strong_induction_on with
  | _ m ih =>
    rw [Nat.toDigits_eq_if (by decide)]
    split
    · rename_i hm
      simp [digitsValue, Nat.toNat_digitChar_sub_48_of_lt_ten hm]
    · rename_i hm
      rw [digitsValue_append, ih (m / 10) (by omega)]
      simp [digitsValue, Nat.toNat_digitChar_sub_48_of_lt_ten (Nat.mod_lt m (by decide))]
      omega

theorem toDigits_mul_pow {m : Nat} (hm : 0 < m) (e : Nat) :
    Nat.toDigits 10 (m * 10 ^ e) = Nat.toDigits 10 m ++ List.replicate e '0' := by
  induction e with
  | zero => simp
  | succ e ih =>
    have hpos : 0 < m * 10 ^ e := Nat.mul_pos hm (Nat.pow_pos (by decide))
    have := Nat.toDigits_append_toDigits (by decide) hpos (show 0 < 10 by decide)
    rw [Nat.toDigits_zero, ih, Nat.add_zero] at this
    rw [List.replicate_succ', ← List.append_assoc, this, Nat.pow_succ]
    congr 1
    ring

theorem digitValue_of_isDigit {c : Char} (h : c.isDigit = true) : digitValue (some c) = c.toNat - 48 := by
  simp only [Char.isDigit, Bool.and_eq_true, decide_eq_true_eq] at h
  rw [digitValue, if_pos (by simp only [Bool.and_eq_true, decide_eq_true_eq]; exact ⟨h.1, h.2⟩)]
  rfl

theorem readDigits_ok {cs : List Char} (hcs : ∀ c ∈ cs, c.isDigit = true) (n : Nat)
    (hlt : n * 10 ^ cs.length + digitsValue cs < 2 ^ 64) :
    readDigits 10 cs n = .ok (n * 10 ^ cs.length + digitsValue cs) := by
  induction cs generalizing n with
  | nil => simp [readDigits, digitsValue]
  | cons c cs ih =>
    have hc := hcs c (by simp)
    have hd : c.toNat - 48 < 10 := by
      have := isDigit_toNat hc
      omega
    have hstep : (n * 10 + (c.toNat - 48)) * 10 ^ cs.length + digitsValue cs =
        n * 10 ^ (c :: cs).length + digitsValue (c :: cs) := by
      rw [digitsValue_cons, List.length_cons, Nat.pow_succ]
      ring
    have hle : n * 10 + (c.toNat - 48) ≤ (n * 10 + (c.toNat - 48)) * 10 ^ cs.length + digitsValue cs :=
      Nat.le_add_right_of_le (Nat.le_mul_of_pos_right _ (Nat.pow_pos (by decide)))
    rw [readDigits, digitValue_of_isDigit hc, if_neg (by omega), if_neg (by simp only [Nat.pow_eq]; omega),
      ih (fun c hc' => hcs c (by simp [hc'])) _ (by omega), hstep]

theorem parseInteger_digits {s : String} (hne : s.toList ≠ []) (hs : ∀ c ∈ s.toList, c.isDigit = true)
    (hlt : digitsValue s.toList < 2 ^ 63) : parseInteger 10 0 s = .ok (digitsValue s.toList) := by
  have hread := readDigits_ok hs 0 (by omega)
  simp only [Nat.zero_mul, Nat.zero_add] at hread
  unfold parseInteger
  simp only [List.drop_zero, List.isEmpty_eq_false_iff.mpr hne, Bool.false_eq_true, if_false, hread]
  rw [if_pos (by simpa using hlt)]

namespace Numeral

def fractionDigits : Option (List Char) → List Char
  | some f => f
  | none => []

def powerValue : Option (Bool × List Char) → Int
  | some (negative, ds) => if negative then -(digitsValue ds : Int) else digitsValue ds
  | none => 0

def mantissa (n : Numeral) : Nat := digitsValue (n.whole ++ fractionDigits n.fraction)

def scale (n : Numeral) : Int := powerValue n.power - (fractionDigits n.fraction).length

end Numeral

theorem takeWhile_digits {w X : List Char} (hw : ∀ c ∈ w, c.isDigit = true)
    (hX : ∀ c ∈ X.head?, c.isDigit = false) :
    (w ++ X).takeWhile Char.isDigit = w ∧ (w ++ X).dropWhile Char.isDigit = X := by
  rw [List.takeWhile_append_of_pos hw, List.dropWhile_append_of_pos hw]
  cases X with
  | nil => simp
  | cons c X => simp [hX c rfl]

theorem foldl_int_digits {cs : List Char} (hcs : ∀ c ∈ cs, c.isDigit = true) (n : Int) :
    cs.foldl (fun (v : Int) c => v * 10 + ((c.toNat : Int) - 48)) n = n * 10 ^ cs.length + digitsValue cs := by
  induction cs generalizing n with
  | nil => simp [digitsValue]
  | cons c cs ih =>
    have hc : 48 ≤ c.toNat := (isDigit_toNat (hcs c (by simp))).1
    have hcs' : ∀ c ∈ cs, c.isDigit = true := fun d hd => hcs d (by simp [hd])
    rw [List.foldl_cons, ih hcs', digitsValue_cons, List.length_cons, pow_succ]
    push_cast [Nat.cast_sub hc]
    ring

theorem decimalParts_numeral {n : Numeral} (hn : n.Valid) :
    decimalParts n.chars = some (n.mantissa, (Numeral.fractionDigits n.fraction).length,
      Numeral.powerValue n.power) := by
  have hstop : ∀ c ∈ (Numeral.fractionChars n.fraction ++ Numeral.powerChars n.power).head?,
      c.isDigit = false := by
    intro c hc
    rcases hf : n.fraction with _ | f <;> rcases hp : n.power with _ | ⟨neg, ds⟩ <;>
      simp [hf, hp, Numeral.fractionChars, Numeral.powerChars] at hc <;> subst hc <;> decide
  obtain ⟨h1, h2⟩ := takeWhile_digits hn.whole hstop
  have hm : ∀ cs, List.foldl (fun v c => v * 10 + (c.toNat - 48)) 0 cs = digitsValue cs := fun _ => rfl
  have hwhole : n.whole.isEmpty = false := List.isEmpty_eq_false_iff.mpr hn.whole_ne
  unfold decimalParts
  simp only [Numeral.chars, List.append_assoc, h1, h2, hm, hwhole, Bool.false_and, Bool.false_eq_true,
    if_false]
  have hpower : ∀ neg ds, n.power = some (neg, ds) → ds ≠ [] ∧ ∀ c ∈ ds, c.isDigit = true :=
    fun neg ds hp => hn.power _ hp
  have hint := fun (ds : List Char) (hds : ∀ c ∈ ds, c.isDigit = true) => foldl_int_digits hds 0
  simp only [Int.zero_mul, Int.zero_add] at hint
  rcases hf : n.fraction with _ | f <;> rcases hp : n.power with _ | ⟨neg, ds⟩
  · simp [Numeral.fractionChars, Numeral.powerChars, Numeral.mantissa, Numeral.fractionDigits,
      Numeral.powerValue, hf]
  · obtain ⟨hne, hds⟩ := hpower neg ds hp
    cases neg <;> simp [Numeral.fractionChars, Numeral.powerChars, Numeral.mantissa,
      Numeral.fractionDigits, Numeral.powerValue, hf, hne, hint ds hds] <;> exact hds
  · have hfd : ∀ c ∈ f, c.isDigit = true := hn.fraction f hf
    have h3 : f.takeWhile Char.isDigit = f := List.takeWhile_eq_self_iff.mpr hfd
    have h4 : f.dropWhile Char.isDigit = [] := List.dropWhile_eq_nil_iff.mpr hfd
    simp [Numeral.fractionChars, Numeral.powerChars, Numeral.mantissa, Numeral.fractionDigits,
      Numeral.powerValue, hf, h3, h4]
  · have hfd : ∀ c ∈ f, c.isDigit = true := hn.fraction f hf
    obtain ⟨hne, hds⟩ := hpower neg ds hp
    obtain ⟨h3, h4⟩ := takeWhile_digits (X := Numeral.powerChars (some (neg, ds))) hfd
      (by simp [Numeral.powerChars])
    cases neg <;> simp only [Numeral.powerChars, Bool.false_eq_true, if_false, if_true] at h3 h4 <;>
      simp [Numeral.fractionChars, Numeral.powerChars, Numeral.mantissa, Numeral.fractionDigits,
        Numeral.powerValue, hf, hne, hint ds hds, h3, h4] <;> exact hds

theorem Numeral.mem_chars {n : Numeral} (hn : n.Valid) {c : Char} (hc : c ∈ n.chars) :
    c.isDigit = true ∨ c ∈ ['.', 'e', '+', '-'] := by
  simp only [Numeral.chars, List.mem_append] at hc
  rcases hc with (hc | hc) | hc
  · exact .inl (hn.whole c hc)
  · rcases hf : n.fraction with _ | f <;> rw [hf] at hc <;> simp [Numeral.fractionChars] at hc
    rcases hc with rfl | hc
    · simp
    · exact .inl (hn.fraction f hf c hc)
  · rcases hp : n.power with _ | ⟨neg, ds⟩ <;> rw [hp] at hc <;> simp [Numeral.powerChars] at hc
    rcases hc with rfl | hc | hc
    · simp
    · cases neg <;> simp_all
    · exact .inl ((hn.power _ hp).2 c hc)

theorem Numeral.of_mem_chars {n : Numeral} (hn : n.Valid) {P : Char → Bool}
    (hP : (digitChars ++ ['.', 'e', '+', '-']).all P = true) {c : Char} (hc : c ∈ n.chars) : P c = true := by
  rcases n.mem_chars hn hc with hd | hs
  · exact List.all_eq_true.mp hP c (List.mem_append_left _ (mem_digitChars hd))
  · exact List.all_eq_true.mp hP c (List.mem_append_right _ hs)

theorem Numeral.any_point_or_e {n : Numeral} (hn : n.Valid) :
    n.chars.any (fun c => decide (c = '.') || decide (c = 'e')) = (n.fraction.isSome || n.power.isSome) := by
  have hwhole : n.whole.any (fun c => decide (c = '.') || decide (c = 'e')) = false := by
    rw [List.any_eq_false]
    intro c hc
    simpa using of_isDigit (P := fun c => !(decide (c = '.') || decide (c = 'e'))) (by decide) (hn.whole c hc)
  rcases hf : n.fraction with _ | f <;> rcases hp : n.power with _ | ⟨neg, ds⟩ <;>
    simp [Numeral.chars, hf, hp, Numeral.fractionChars, Numeral.powerChars, hwhole]

theorem not_prefix_of_numeral {n : Numeral} (hn : n.Valid) {b : Char}
    (hb : (digitChars ++ ['.', 'e', '+', '-']).all (· != b) = true) : ¬ ['0', b] <+: n.chars := by
  intro ⟨rest, hrest⟩
  have hmem : b ∈ n.chars := by rw [← hrest]; simp
  simpa using n.of_mem_chars hn hb hmem

theorem Numeral.ofNat_valid (m : Nat) : (Numeral.ofNat m).Valid where
  whole_ne := Nat.toDigits_ne_nil
  whole _ hc := Nat.isDigit_of_mem_toDigits (by decide) (by decide) hc
  fraction := by simp [Numeral.ofNat]
  power := by simp [Numeral.ofNat]

theorem toString_int_toList (i : Int) :
    (toString i).toList = (if i < 0 then ['-'] else []) ++ (Numeral.ofNat i.natAbs).chars := by
  rw [Int.toString_eq_repr, Int.repr_eq_if]
  simp only [Numeral.ofNat, Numeral.chars, Numeral.fractionChars, Numeral.powerChars, List.append_nil]
  split
  · rw [if_neg (by omega)]
    simp only [List.nil_append, Nat.toList_repr]
    congr 1
    omega
  · rw [if_pos (by omega)]
    simp only [String.toList_append, Nat.toList_repr]
    congr 2
    omega

namespace Parser

variable {n : Numeral} {t : Token}

theorem numeral_text (hn : n.Valid) (ht : t.text = String.ofList n.chars) :
    String.ofList (t.text.toList.filter (· ≠ '_')) = t.text ∧ t.text.toLower = t.text := by
  have hsame : ∀ c ∈ n.chars, c ≠ '_' ∧ c.toLower = c := fun c hc => by
    simpa using n.of_mem_chars hn (P := fun c => decide (c ≠ '_') && c.toLower == c) (by decide) hc
  rw [ht, String.toList_ofList]
  constructor
  · rw [List.filter_eq_self.mpr fun c hc => by simpa using (hsame c hc).1]
  · rw [← String.toList_inj, String.toLower, String.toList_map, String.toList_ofList]
    rw [List.map_congr_left (g := id) fun c hc => (hsame c hc).2, List.map_id]

theorem numeral_not_based (hn : n.Valid) (ht : t.text = String.ofList n.chars) :
    t.text.startsWith "0x" = false ∧ t.text.startsWith "0b" = false ∧ t.text.startsWith "0o" = false := by
  simp only [String.startsWith_string_eq_false_iff, ht, String.toList_ofList]
  exact ⟨not_prefix_of_numeral hn (b := 'x') (by decide), not_prefix_of_numeral hn (b := 'b') (by decide),
    not_prefix_of_numeral hn (b := 'o') (by decide)⟩

theorem numberNode_integer (hn : n.Valid) (ht : t.text = String.ofList n.chars) (hf : n.fraction = none)
    (hp : n.power = none) (hlt : digitsValue n.whole < 2 ^ 63) (s : ParseState) :
    numberNode t s = .ok (.integer (digitsValue n.whole), s) := by
  obtain ⟨hvalue, hlower⟩ := numeral_text hn ht
  obtain ⟨hx, hb, ho⟩ := numeral_not_based hn ht
  have hchars : n.chars = n.whole := by
    simp [Numeral.chars, hf, hp, Numeral.fractionChars, Numeral.powerChars]
  have hany : (t.text.toList.any fun c => decide (c = '.') || decide (c = 'e')) = false := by
    rw [ht, String.toList_ofList, n.any_point_or_e hn, hf, hp]
    rfl
  have hread : parseInteger 10 0 t.text = .ok (digitsValue n.whole) := by
    have hs : t.text.toList = n.whole := by rw [ht, String.toList_ofList, hchars]
    rw [← hs]
    exact parseInteger_digits (by rw [hs]; exact hn.whole_ne) (by rw [hs]; exact hn.whole) (by rw [hs]; exact hlt)
  unfold numberNode
  simp only [hvalue, hlower, hx, hb, ho, hany, hread, Bool.false_eq_true, if_false]
  rfl

theorem numberNode_float (hn : n.Valid) (ht : t.text = String.ofList n.chars)
    (hfp : n.fraction.isSome ∨ n.power.isSome) (hfin : (Decimal.ofDecimal n.mantissa n.scale).isInf = false)
    (s : ParseState) : numberNode t s = .ok (.float (Decimal.ofDecimal n.mantissa n.scale), s) := by
  obtain ⟨hvalue, hlower⟩ := numeral_text hn ht
  obtain ⟨hx, -, -⟩ := numeral_not_based hn ht
  have hany : (t.text.toList.any fun c => decide (c = '.') || decide (c = 'e')) = true := by
    rw [ht, String.toList_ofList, n.any_point_or_e hn]
    simpa using hfp
  have hread : parseFloat t.text = .ok (Decimal.ofDecimal n.mantissa n.scale) := by
    unfold parseFloat
    rw [ht, String.toList_ofList]
    simp only [Numeral.scale] at hfin ⊢
    simp only [decimalParts_numeral hn, hfin, Bool.false_eq_true, if_false]
  unfold numberNode
  simp only [hvalue, hlower, hx, hany, hread, Bool.false_eq_true, if_false, if_true]
  rfl

end Parser

end DruidQuery.Expr

namespace DruidQuery.Decimal

open DruidQuery.Expr

def Digits.positionalNumeral (d : Digits) : Numeral :=
  let s := Nat.toDigits 10 d.digits
  let point : Int := (s.length : Int) + d.exponent
  if d.exponent ≥ 0 then ⟨s ++ List.replicate d.exponent.toNat '0', none, none⟩
  else if point > 0 then ⟨s.take point.toNat, some (s.drop point.toNat), none⟩
  else ⟨['0'], some (List.replicate (-point).toNat '0' ++ s), none⟩

def Digits.scientificNumeral (d : Digits) : Numeral :=
  match Nat.toDigits 10 d.digits with
  | c :: rest => ⟨[c], if rest = [] then none else some rest,
      some (decide (d.leading < 0), (twoDigits d.leading.natAbs).toList)⟩
  | [] => ⟨['0'], none, none⟩

theorem positional_toList (d : Digits) : d.positional.toList = d.positionalNumeral.chars := by
  unfold Digits.positional Digits.positionalNumeral
  simp only [Nat.toString_eq_repr, ← String.length_toList, Nat.toList_repr]
  split
  · simp [Numeral.chars, Numeral.fractionChars, Numeral.powerChars]
  · split
    · simp [Numeral.chars, Numeral.fractionChars, Numeral.powerChars]
    · simp [Numeral.chars, Numeral.fractionChars, Numeral.powerChars]

theorem scientific_toList (d : Digits) : d.scientific.toList = d.scientificNumeral.chars := by
  unfold Digits.scientific Digits.scientificNumeral
  simp only [Nat.toString_eq_repr, Nat.toList_repr]
  obtain ⟨c, rest, hs⟩ := List.exists_cons_of_ne_nil (Nat.toDigits_ne_nil (b := 10) (n := d.digits))
  rw [hs]
  by_cases ht : d.leading < 0 <;> cases rest <;>
    simp [ht, Numeral.chars, Numeral.fractionChars, Numeral.powerChars, Char.toString]

theorem isDigit_of_mem_toDigits {m : Nat} {c : Char} (h : c ∈ Nat.toDigits 10 m) : c.isDigit = true :=
  Nat.isDigit_of_mem_toDigits (by decide) (by decide) h

theorem isDigit_of_mem_replicate {e : Nat} {c : Char} (h : c ∈ List.replicate e '0') : c.isDigit = true := by
  rw [List.eq_of_mem_replicate h]
  rfl

theorem twoDigits_toList (m : Nat) :
    (twoDigits m).toList = List.replicate (if m < 10 then 1 else 0) '0' ++ Nat.toDigits 10 m := by
  unfold twoDigits
  split <;> simp

theorem digitsValue_twoDigits (m : Nat) : digitsValue (twoDigits m).toList = m := by
  rw [twoDigits_toList, digitsValue_append, digitsValue_replicate_zero, digitsValue_toDigits, Nat.zero_mul,
    Nat.zero_add]

theorem positionalNumeral_valid (d : Digits) : d.positionalNumeral.Valid := by
  have hs : Nat.toDigits 10 d.digits ≠ [] := Nat.toDigits_ne_nil
  unfold Digits.positionalNumeral
  dsimp only
  split
  · refine ⟨by simp [hs], fun c hc => ?_, by simp, by simp⟩
    rcases List.mem_append.mp hc with hc | hc
    · exact isDigit_of_mem_toDigits hc
    · exact isDigit_of_mem_replicate hc
  · split
    · rename_i hpoint
      refine ⟨?_, fun c hc => isDigit_of_mem_toDigits (List.mem_of_mem_take hc), ?_, by simp⟩
      · simp only [ne_eq, List.take_eq_nil_iff, hs, or_false]
        omega
      · simpa using fun c hc => isDigit_of_mem_toDigits (List.mem_of_mem_drop hc)
    · refine ⟨by simp, by simp, ?_, by simp⟩
      simp only [Option.mem_def, Option.some.injEq, forall_eq']
      intro c hc
      rcases List.mem_append.mp hc with hc | hc
      · exact isDigit_of_mem_replicate hc
      · exact isDigit_of_mem_toDigits hc

theorem scientificNumeral_valid (d : Digits) : d.scientificNumeral.Valid := by
  obtain ⟨c, rest, hs⟩ := List.exists_cons_of_ne_nil (Nat.toDigits_ne_nil (b := 10) (n := d.digits))
  have hdigit : ∀ x ∈ c :: rest, x.isDigit = true := fun x hx => isDigit_of_mem_toDigits (hs ▸ hx)
  unfold Digits.scientificNumeral
  rw [hs]
  dsimp only
  refine ⟨by simp, by simpa using hdigit c (by simp), ?_, ?_⟩
  · split <;> simp
    exact fun x hx => hdigit x (by simp [hx])
  · simp only [Option.mem_def, Option.some.injEq, forall_eq']
    refine ⟨by simp [twoDigits_toList], fun x hx => ?_⟩
    rw [twoDigits_toList] at hx
    rcases List.mem_append.mp hx with hx | hx
    · exact isDigit_of_mem_replicate hx
    · exact isDigit_of_mem_toDigits hx

theorem positionalNumeral_whole {d : Digits} (he : 0 ≤ d.exponent) :
    d.positionalNumeral = ⟨Nat.toDigits 10 d.digits ++ List.replicate d.exponent.toNat '0', none, none⟩ := by
  unfold Digits.positionalNumeral
  dsimp only
  rw [if_pos he]

theorem digitsValue_whole (d : Digits) :
    digitsValue (Nat.toDigits 10 d.digits ++ List.replicate d.exponent.toNat '0') =
      d.digits * 10 ^ d.exponent.toNat := by
  rw [digitsValue_append, digitsValue_toDigits, digitsValue_replicate_zero, List.length_replicate,
    Nat.add_zero]

theorem positionalNumeral_point {d : Digits} (he : d.exponent < 0) :
    d.positionalNumeral.fraction.isSome ∧ d.positionalNumeral.mantissa = d.digits ∧
      d.positionalNumeral.scale = d.exponent := by
  unfold Digits.positionalNumeral
  dsimp only
  rw [if_neg (by omega)]
  split
  · rename_i hpoint
    refine ⟨rfl, ?_, ?_⟩
    · simp [Numeral.mantissa, Numeral.fractionDigits, digitsValue_toDigits]
    · simp only [Numeral.scale, Numeral.powerValue, Numeral.fractionDigits, List.length_drop]
      omega
  · rename_i hpoint
    refine ⟨rfl, ?_, ?_⟩
    · simp only [Numeral.mantissa, Numeral.fractionDigits]
      rw [List.singleton_append, ← List.cons_append, ← List.replicate_succ, digitsValue_append, digitsValue_replicate_zero,
        digitsValue_toDigits, Nat.zero_mul, Nat.zero_add]
    · simp only [Numeral.scale, Numeral.powerValue, Numeral.fractionDigits, List.length_append,
        List.length_replicate]
      omega

theorem length_toString (m : Nat) : (toString m).length = (Nat.toDigits 10 m).length := by
  rw [← String.length_toList, Nat.toString_eq_repr, Nat.toList_repr]

theorem scientificNumeral_value (d : Digits) :
    d.scientificNumeral.power.isSome ∧ d.scientificNumeral.mantissa = d.digits ∧
      d.scientificNumeral.scale = d.exponent := by
  obtain ⟨c, rest, hs⟩ := List.exists_cons_of_ne_nil (Nat.toDigits_ne_nil (b := 10) (n := d.digits))
  have hlead : d.leading = (rest.length : Int) + d.exponent := by
    rw [Digits.leading, length_toString, hs, List.length_cons]
    omega
  have hfd : Numeral.fractionDigits (if rest = [] then none else some rest) = rest := by
    split <;> simp_all [Numeral.fractionDigits]
  unfold Digits.scientificNumeral
  rw [hs]
  refine ⟨rfl, ?_, ?_⟩
  · simp only [Numeral.mantissa, hfd, List.singleton_append, ← hs, digitsValue_toDigits]
  · simp only [Numeral.scale, hfd, Numeral.powerValue, digitsValue_twoDigits]
    split <;> rename_i hsign <;> simp only [decide_eq_true_eq] at hsign <;> omega

def Layout.numeral (layout : Layout) (x : Float) : Numeral :=
  let d := shortest x
  if d.digits = 0 then ⟨['0'], none, none⟩
  else if layout.positionalFrom ≤ d.leading && d.leading < layout.positionalUntil then d.positionalNumeral
  else d.scientificNumeral

theorem render_toList (layout : Layout) (x : Float) :
    (layout.render x).toList =
      (if (Binary.ofFloat x).negative then ['-'] else []) ++ (layout.numeral x).chars := by
  unfold Layout.render Layout.numeral
  dsimp only
  split
  · cases (Binary.ofFloat x).negative <;> simp [Numeral.chars, Numeral.fractionChars, Numeral.powerChars]
  · split
    · cases (Binary.ofFloat x).negative <;> simp [positional_toList]
    · cases (Binary.ofFloat x).negative <;> simp [scientific_toList]

theorem numeral_valid (layout : Layout) (x : Float) : (layout.numeral x).Valid := by
  unfold Layout.numeral
  dsimp only
  split
  · exact ⟨by simp, by simp, by simp, by simp⟩
  · split
    · exact positionalNumeral_valid _
    · exact scientificNumeral_valid _

theorem general_numeral_cases (x : Float) :
    ((Layout.general.numeral x).fraction = none ∧ (Layout.general.numeral x).power = none ∧
      (Layout.general.numeral x).whole = Nat.toDigits 10 (digitsValue (Layout.general.numeral x).whole) ∧
      digitsValue (Layout.general.numeral x).whole < 10 ^ 6 ∧
      (digitsValue (Layout.general.numeral x).whole = 0 ↔ (shortest x).digits = 0) ∧
      Layout.json.render x = Layout.general.render x) ∨
    (((Layout.general.numeral x).fraction.isSome ∨ (Layout.general.numeral x).power.isSome) ∧
      (Layout.general.numeral x).mantissa = (shortest x).digits ∧
      (Layout.general.numeral x).scale = (shortest x).exponent ∧ (shortest x).digits ≠ 0) := by
  set d := shortest x with hd_def
  unfold Layout.numeral
  simp only [← hd_def]
  by_cases hzero : d.digits = 0
  · left
    rw [if_pos hzero]
    refine ⟨rfl, rfl, rfl, by decide, by simp [hzero, digitsValue], ?_⟩
    simp only [Layout.render, ← hd_def, if_pos hzero]
  rw [if_neg hzero]
  by_cases hpos : Layout.general.positionalFrom ≤ d.leading ∧ d.leading < Layout.general.positionalUntil
  · rw [if_pos (by simpa using hpos)]
    by_cases he : 0 ≤ d.exponent
    · left
      have hwhole := digitsValue_whole d
      have hdigits := toDigits_mul_pow (Nat.pos_of_ne_zero hzero) d.exponent.toNat
      rw [positionalNumeral_whole he]
      refine ⟨rfl, rfl, by rw [hwhole, hdigits], ?_, ?_, ?_⟩
      · -- the leading exponent is below six, so the number has at most six digits
        rw [hwhole, ← Nat.length_toDigits_le_iff (by decide) (by decide), hdigits, List.length_append,
          List.length_replicate]
        have hlead : d.leading = ((Nat.toDigits 10 d.digits).length : Int) + d.exponent - 1 := by
          rw [Digits.leading, length_toString]
        simp only [Layout.general] at hpos
        omega
      · rw [hwhole]
        simp [hzero]
      · simp only [Layout.render, ← hd_def, if_neg hzero]
        simp only [Layout.general] at hpos
        have hjson : -6 ≤ d.leading ∧ d.leading < 21 := ⟨by omega, by omega⟩
        simp [Layout.general, Layout.json, hpos, hjson]
    · right
      obtain ⟨hf, hm, hs⟩ := positionalNumeral_point (d := d) (by omega)
      exact ⟨.inl hf, hm, hs, hzero⟩
  · rw [if_neg (by simpa using hpos)]
    right
    obtain ⟨hp, hm, hs⟩ := scientificNumeral_value d
    exact ⟨.inr hp, hm, hs, hzero⟩

theorem signed_abs {x : Float} (h : x.isFinite = true) :
    (if (Binary.ofFloat x).negative then -x.abs else x.abs) = x := by
  rw [Binary.ofFloat_negative]
  split <;> rename_i hneg <;> simp only [decide_eq_true_eq, not_le] at hneg
  · exact neg_abs x (isNaN_of_isFinite h) hneg
  · exact abs_eq_self x (isNaN_of_isFinite h) hneg

/-- Reading what the general layout writes for a finite double other than `-0`: either a whole
number whose JSON text is that of the double, or a numeral with a point or an exponent whose
value is the double's magnitude. -/
theorem general_numeral_reads {x : Float} (hx : x.isFinite = true) (hz : x.toBits ≠ 0x8000000000000000) :
    ((Layout.general.numeral x).fraction = none ∧ (Layout.general.numeral x).power = none ∧
      digitsValue (Layout.general.numeral x).whole < 2 ^ 63 ∧
      Json.int (if (Binary.ofFloat x).negative then -(digitsValue (Layout.general.numeral x).whole : Int)
        else digitsValue (Layout.general.numeral x).whole) = Value.floatJson x) ∨
    (((Layout.general.numeral x).fraction.isSome ∨ (Layout.general.numeral x).power.isSome) ∧
      ofDecimal (Layout.general.numeral x).mantissa (Layout.general.numeral x).scale = x.abs) := by
  rcases general_numeral_cases x with ⟨hf, hp, hwhole, hlt, hzero, hjson⟩ | ⟨hfp, hmant, hs, hd⟩
  · left
    refine ⟨hf, hp, by omega, ?_⟩
    generalize digitsValue (Layout.general.numeral x).whole = v at hwhole hlt hzero ⊢
    -- the JSON text is the text of the whole number, with the sign of the double
    have htext := render_toList Layout.general x
    simp only [Numeral.chars, hf, hp, Numeral.fractionChars, Numeral.powerChars, List.append_nil] at htext
    unfold Json.int Value.floatJson
    rw [hjson]
    congr 1
    rw [← String.toList_inj, htext]
    split
    · rename_i hneg
      -- a negative double is not `-0`, so its digits are not zero
      have hpos : v ≠ 0 := by
        intro h0
        have hm : (Binary.ofFloat x).mantissa = 0 := by
          by_contra hm
          exact absurd (hzero.mp h0) (Nat.pos_iff_ne_zero.mp (shortest_contains hx (Nat.pos_of_ne_zero hm)).1)
        have hbits := Binary.ofFloat_mantissa_eq_zero hm
        rw [Binary.ofFloat_negative] at hneg
        have hlt64 : x.toBits.toNat < 2 ^ 64 := x.toBits.toNat_lt
        exact hz (UInt64.toNat_inj.mp (by simp at hneg ⊢; omega))
      rw [Int.toString_eq_repr, Int.repr_eq_if, if_neg (by omega), hwhole]
      simp
    · rw [Int.toString_eq_repr, Int.repr_eq_if, if_pos (by omega), hwhole]
      simp
  · right
    have hm : 0 < (Binary.ofFloat x).mantissa := by
      by_contra hm
      apply hd
      simp [shortest, Nat.eq_zero_of_not_pos hm]
    refine ⟨hfp, ?_⟩
    rw [hmant, hs]
    exact ofDecimal_shortest hx hm

end DruidQuery.Decimal
