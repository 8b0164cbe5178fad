import Mathlib
import DruidQuery.Proofs.Flatness
import DruidQuery.Proofs.TableReports

namespace DruidQuery.Script

theorem utf8GetAux_mem_or_default (cs : List Char) (i p : String.Pos.Raw) :
    String.Pos.Raw.utf8GetAux cs i p ∈ cs ∨ String.Pos.Raw.utf8GetAux cs i p = default := by
  induction cs generalizing i with
  | nil => exact .inr rfl
  | cons c cs ih =>
    simp only [String.Pos.Raw.utf8GetAux]
    split
    · exact .inl List.mem_cons_self
    · rcases ih (i + c) with h | h
      · exact .inl (List.mem_cons_of_mem _ h)
      · exact .inr h

theorem get_ne_of_not_mem {s : String} {c : Char} (hc : c ∉ s.toList) (hd : c ≠ default)
    (i : String.Pos.Raw) : i.get s ≠ c := by
  rcases utf8GetAux_mem_or_default s.toList 0 i with h | h
  · exact fun he => hc (he ▸ h)
  · exact fun he => hd (he.symm.trans h)

theorem extract_go₂_of_le (cs : List Char) (p e : String.Pos.Raw)
    (h : p.byteIdx + (String.ofList cs).utf8ByteSize ≤ e.byteIdx) :
    String.Pos.Raw.extract.go₂ cs p e = cs := by
  induction cs generalizing p with
  | nil => rfl
  | cons c cs ih =>
    have hsize : (String.ofList (c :: cs)).utf8ByteSize =
        c.utf8Size + (String.ofList cs).utf8ByteSize := by
      rw [String.ofList_cons, String.utf8ByteSize_append, String.utf8ByteSize_singleton]
    have hpos := Char.utf8Size_pos c
    rw [String.Pos.Raw.extract.go₂, if_neg (fun he => by subst he; omega), ih]
    show p.byteIdx + c.utf8Size + _ ≤ _
    omega

theorem extract_zero_of_atEnd (s : String) (e : String.Pos.Raw) (h : s.utf8ByteSize ≤ e.byteIdx) :
    (0 : String.Pos.Raw).extract s e = s := by
  rw [String.Pos.Raw.extract]
  split
  · rename_i h0
    have : s.utf8ByteSize = 0 := by simp at h0; omega
    exact (String.utf8ByteSize_eq_zero_iff.mp this).symm
  · by_cases hs : s.toList = []
    · simp only [String.toList_eq_nil_iff] at hs
      simp [hs, String.Pos.Raw.extract.go₁]
    · obtain ⟨c, cs, hcs⟩ := List.exists_cons_of_ne_nil hs
      rw [hcs, String.Pos.Raw.extract.go₁, if_pos rfl, ← hcs, extract_go₂_of_le, String.ofList_toList]
      simpa using h

theorem splitOnAux_of_not_mem (s : String) (hs : ',' ∉ s.toList) :
    ∀ n (i : String.Pos.Raw), s.utf8ByteSize - i.byteIdx = n →
      String.splitOnAux s "," 0 i 0 [] = [s] := by
  intro n
  -- the measure is the number of bytes left; each step moves past one character
  induction n using Nat.strongRecOn with
  | _ n ih =>
  intro i hn
  rw [String.splitOnAux]
  split
  · rename_i hend
    simp only [String.Pos.Raw.atEnd, ge_iff_le, decide_eq_true_eq] at hend
    simp [extract_zero_of_atEnd s i hend]
  · rename_i hend
    simp only [String.Pos.Raw.atEnd, ge_iff_le, decide_eq_true_eq] at hend
    have hget : (0 : String.Pos.Raw).get "," = ',' := rfl
    have hne := get_ne_of_not_mem hs (by decide) i
    rw [hget, if_neg (by simpa using hne)]
    have hoff : i.unoffsetBy 0 = i := by ext; simp
    rw [hoff]
    refine ih _ ?_ _ rfl
    have := Char.utf8Size_pos (i.get s)
    simp only [String.Pos.Raw.next, String.Pos.Raw.byteIdx_add_char]
    omega

theorem splitOn_comma_of_not_mem (s : String) (hs : ',' ∉ s.toList) : s.splitOn "," = [s] := by
  rw [String.splitOn, if_neg (by decide)]
  exact splitOnAux_of_not_mem s hs _ 0 rfl

@[simp] theorem trim_nil : trim [] = [] := rfl

theorem dropWhile_space_append {a cs : List Char} (ha : ∀ c ∈ a, Text.isSpace c)
    (hh : ∀ c ∈ cs.head?, Text.isSpace c = false) : (a ++ cs).dropWhile Text.isSpace = cs := by
  rw [List.dropWhile_append_of_pos ha]
  cases cs with
  | nil => rfl
  | cons c t => exact List.dropWhile_cons_of_neg (by simpa using hh c rfl)

theorem trim_eq {a cs b : List Char} (ha : ∀ c ∈ a, Text.isSpace c)
    (hb : ∀ c ∈ b, Text.isSpace c) (hne : cs ≠ []) (hh : ∀ c ∈ cs.head?, Text.isSpace c = false)
    (hl : ∀ c ∈ cs.getLast?, Text.isSpace c = false) : trim (a ++ cs ++ b) = cs := by
  have hh' : ∀ c ∈ (cs ++ b).head?, Text.isSpace c = false := by
    obtain ⟨c, t, rfl⟩ := List.exists_cons_of_ne_nil hne
    simpa using hh
  unfold trim
  rw [List.append_assoc, dropWhile_space_append ha hh', List.reverse_append,
    dropWhile_space_append (by simpa using hb) (by simpa using hl), List.reverse_reverse]

theorem trim_eq_self {cs : List Char} (hne : cs ≠ [])
    (hh : ∀ c ∈ cs.head?, Text.isSpace c = false) (hl : ∀ c ∈ cs.getLast?, Text.isSpace c = false) :
    trim cs = cs := by
  simpa using trim_eq (a := []) (b := []) (by simp) (by simp) hne hh hl

theorem isSpace_single : ∀ c ∈ [' '], Text.isSpace c := by
  simp only [List.mem_singleton, forall_eq]
  decide

theorem parseParams_names {l : List Char} {ps : List String} (h : parseParams l = .ok ps) :
    ∀ p ∈ ps, isName p := by
  unfold parseParams at h
  simp only at h
  split at h
  · cases h
    simp
  · -- the fold keeps a list of names, adding a part only when it is one
    have hfold : ∀ (parts acc : List String), (∀ p ∈ acc, isName p) →
        parts.foldlM (fun acc p =>
          if isName (String.ofList (trim p.toList)) then
            Except.ok (acc ++ [String.ofList (trim p.toList)])
          else Except.error (Error.badParameter (String.ofList (trim p.toList)))) acc = .ok ps →
        ∀ p ∈ ps, isName p := by
      intro parts
      induction parts with
      | nil =>
        intro acc hacc hrun
        cases hrun
        exact hacc
      | cons part parts ih =>
        intro acc hacc hrun
        rw [List.foldlM_cons] at hrun
        obtain ⟨acc', hstep, hrest⟩ := bind_eq_ok hrun
        split at hstep
        · cases hstep
          refine ih _ ?_ hrest
          intro p hp
          rcases List.mem_append.mp hp with hp | hp
          · exact hacc p hp
          · rw [List.mem_singleton.mp hp]
            assumption
        · cases hstep
    exact hfold _ [] (by simp) h

def Bare (d : String) : Prop :=
  d ≠ "" ∧ ∀ c ∈ d.toList, Text.isSpace c = false ∧ c ≠ ',' ∧ c ≠ ')' ∧
    c ≠ '"' ∧ c ≠ '\'' ∧ c ≠ '`' ∧ c ≠ '/' ∧ c ≠ '{' ∧ c ≠ '}'

instance : DecidablePred Bare :=
  fun d => @instDecidableAnd _ _ inferInstance (List.decidableBAll _ d.toList)

theorem parseParams_bare {d : String} (hd : Bare d) :
    parseParams d.toList = if isName d then .ok [d] else .error (.badParameter d) := by
  obtain ⟨hne, hchars⟩ := hd
  have hlist : d.toList ≠ [] := by simpa using hne
  have htrim : trim d.toList = d.toList := by
    apply trim_eq_self hlist
    · intro c hc
      exact (hchars c (List.mem_of_mem_head? hc)).1
    · intro c hc
      exact (hchars c (List.mem_of_mem_getLast? hc)).1
  have hsplit : d.splitOn "," = [d] :=
    splitOn_comma_of_not_mem d fun hc => (hchars ',' hc).2.1 rfl
  unfold parseParams
  simp only [htrim, String.ofList_toList, hsplit, List.isEmpty_iff, hlist, ↓reduceIte,
    List.foldlM_cons, List.foldlM_nil]
  split <;> rfl

def Plain (c : Char) : Prop :=
  c ≠ '"' ∧ c ≠ '\'' ∧ c ≠ '`' ∧ c ≠ '/' ∧ c ≠ '{' ∧ c ≠ '}'

instance : DecidablePred Plain := fun _ => inferInstanceAs (Decidable (_ ∧ _))

def PlainText (s : String) : Prop := ∀ c ∈ s.toList, Plain c

-- decided along the text, never by a search over all characters
instance : DecidablePred PlainText := fun s => List.decidableBAll Plain s.toList

theorem PlainText.append {a b : String} (ha : PlainText a) (hb : PlainText b) :
    PlainText (a ++ b) := by
  intro c hc
  rw [String.toList_append, List.mem_append] at hc
  exact hc.elim (ha c) (hb c)

theorem plainText_ofList {l : List Char} (h : ∀ c ∈ l, Plain c) : PlainText (String.ofList l) := by
  simpa [PlainText] using h

def ScansTo (body : List Char) (i d : Nat) (q : Option Char) (j d' : Nat) (q' : Option Char) :
    Prop :=
  ∀ fuel, body.length < fuel + i → ∃ fuel', body.length < fuel' + j ∧
    matchBrace body.toArray fuel i d q = matchBrace body.toArray fuel' j d' q'

section Scan

variable {body : List Char} {i j k d d' d'' : Nat} {q q' q'' : Option Char}

theorem ScansTo.refl : ScansTo body i d q i d q :=
  fun fuel h => ⟨fuel, h, rfl⟩

theorem ScansTo.trans (h₁ : ScansTo body i d q j d' q') (h₂ : ScansTo body j d' q' k d'' q'') :
    ScansTo body i d q k d'' q'' := by
  intro fuel hfuel
  obtain ⟨fuel₁, hfuel₁, he₁⟩ := h₁ fuel hfuel
  obtain ⟨fuel₂, hfuel₂, he₂⟩ := h₂ fuel₁ hfuel₁
  exact ⟨fuel₂, hfuel₂, he₁.trans he₂⟩

theorem ScansTo.step (hi : i < body.length) (hij : i < j)
    (h : ∀ fuel, matchBrace body.toArray (fuel + 1) i d q = matchBrace body.toArray fuel j d' q') :
    ScansTo body i d q j d' q' := by
  intro fuel hfuel
  obtain ⟨f, rfl⟩ : ∃ f, fuel = f + 1 := ⟨fuel - 1, by omega⟩
  exact ⟨f, by omega, h f⟩

theorem matchBrace_plain (hi : i < body.length) (hc : Plain body[i]) (fuel : Nat) :
    matchBrace body.toArray (fuel + 1) i d none =
      matchBrace body.toArray fuel (i + 1) d none := by
  obtain ⟨h1, h2, h3, h4, h5, h6⟩ := hc
  simp [matchBrace, hi, h1, h2, h3, h4, h5, h6]

theorem matchBrace_open (hi : i < body.length) (hc : body[i] = '{') (fuel : Nat) :
    matchBrace body.toArray (fuel + 1) i d none =
      matchBrace body.toArray fuel (i + 1) (d + 1) none := by
  simp [matchBrace, hi, hc]

theorem matchBrace_close (hi : i < body.length) (hc : body[i] = '}') (fuel : Nat) :
    matchBrace body.toArray (fuel + 1) i 1 none = .ok i := by
  simp [matchBrace, hi, hc]

theorem matchBrace_quote (hi : i < body.length) (hc : body[i] = '"') (fuel : Nat) :
    matchBrace body.toArray (fuel + 1) i d none =
      matchBrace body.toArray fuel (i + 1) d (some '"') := by
  simp [matchBrace, hi, hc]

theorem matchBrace_quoted {c : Char} (hi : i < body.length) (hb : body[i] ≠ '\\')
    (hc : body[i] ≠ c) (fuel : Nat) :
    matchBrace body.toArray (fuel + 1) i d (some c) =
      matchBrace body.toArray fuel (i + 1) d (some c) := by
  simp [matchBrace, hi, hb, hc]

theorem matchBrace_escape {c : Char} (hi : i < body.length) (hb : body[i] = '\\') (fuel : Nat) :
    matchBrace body.toArray (fuel + 1) i d (some c) =
      matchBrace body.toArray fuel (i + 2) d (some c) := by
  simp [matchBrace, hi, hb]

theorem matchBrace_unquote {c : Char} (hi : i < body.length) (hb : c ≠ '\\') (hc : body[i] = c)
    (fuel : Nat) :
    matchBrace body.toArray (fuel + 1) i d (some c) =
      matchBrace body.toArray fuel (i + 1) d none := by
  subst hc
  simp [matchBrace, hi, hb]

end Scan

/-- The brace scan steps over `seg` wherever it stands, and leaves it at the depth and in the
quote state it entered it with. -/
def Passes (q : Option Char) (seg : List Char) : Prop :=
  ∀ pre post d, ScansTo (pre ++ seg ++ post) pre.length d q (pre.length + seg.length) d q

section Passes

variable {q : Option Char} {a b : List Char}

theorem passes_nil : Passes q [] := fun _ _ _ => by simpa using ScansTo.refl

theorem Passes.append (ha : Passes q a) (hb : Passes q b) : Passes q (a ++ b) := by
  intro pre post d
  have h₁ := ha pre (b ++ post) d
  have h₂ := hb (pre ++ a) post d
  rw [show pre ++ a ++ (b ++ post) = pre ++ (a ++ b) ++ post by simp] at h₁
  rw [show pre ++ a ++ b ++ post = pre ++ (a ++ b) ++ post by simp, List.length_append] at h₂
  rw [List.length_append, ← Nat.add_assoc]
  exact h₁.trans h₂

theorem passes_of_forall (h : ∀ c ∈ a, Passes q [c]) : Passes q a := by
  induction a with
  | nil => exact passes_nil
  | cons c cs ih =>
    exact (h c List.mem_cons_self).append (ih fun c' hc' => h c' (List.mem_cons_of_mem _ hc'))

theorem passes_plain {c : Char} (hc : Plain c) : Passes none [c] := by
  intro pre post d
  apply ScansTo.step (by simp) (by simp)
  exact matchBrace_plain (by simp) (by simpa using hc)

theorem passes_quoted {c q : Char} (hb : c ≠ '\\') (hc : c ≠ q) : Passes (some q) [c] := by
  intro pre post d
  apply ScansTo.step (by simp) (by simp)
  exact matchBrace_quoted (by simp) (by simpa using hb) (by simpa using hc)

theorem passes_escape {c q : Char} : Passes (some q) ['\\', c] := by
  intro pre post d
  apply ScansTo.step (by simp) (by simp)
  exact matchBrace_escape (by simp) (by simp)

theorem passes_string (h : Passes (some '"') a) : Passes none ('"' :: a ++ ['"']) := by
  intro pre post d
  have hopen : ScansTo (pre ++ ('"' :: a ++ ['"']) ++ post) pre.length d none
      (pre.length + 1) d (some '"') :=
    ScansTo.step (by simp) (by simp) (matchBrace_quote (by simp) (by simp))
  have hinside := h (pre ++ ['"']) (['"'] ++ post) d
  rw [show pre ++ ['"'] ++ a ++ (['"'] ++ post) = pre ++ ('"' :: a ++ ['"']) ++ post by simp,
    List.length_append, List.length_singleton] at hinside
  have hclose : ScansTo (pre ++ ('"' :: a ++ ['"']) ++ post) (pre.length + 1 + a.length) d
      (some '"') (pre.length + 1 + a.length + 1) d none := by
    rw [show pre ++ ('"' :: a ++ ['"']) ++ post = (pre ++ '"' :: a) ++ '"' :: post by simp]
    have hi : pre.length + 1 + a.length = (pre ++ '"' :: a).length := by simp; omega
    apply ScansTo.step (by simp; omega) (by omega)
    apply matchBrace_unquote (by simp; omega) (by decide)
    simp only [hi, List.getElem_append_right (Nat.le_refl _), Nat.sub_self, List.getElem_cons_zero]
  rw [show pre.length + ('"' :: a ++ ['"']).length = pre.length + 1 + a.length + 1 by simp; omega]
  exact hopen.trans (hinside.trans hclose)

theorem passes_of_plain {s : String} (h : PlainText s) : Passes none s.toList :=
  passes_of_forall fun c hc => passes_plain (h c hc)

end Passes

theorem matchBrace_braced {mid : List Char} (h : Passes none mid) :
    matchBrace ('{' :: (mid ++ ['}'])).toArray (('{' :: (mid ++ ['}'])).toArray.size + 1) 0 0 none =
      .ok (mid.length + 1) := by
  have hopen : ScansTo ('{' :: (mid ++ ['}'])) 0 0 none 1 1 none :=
    ScansTo.step (by simp) (by omega) (matchBrace_open (by simp) rfl)
  have hmid := h ['{'] ['}'] 1
  simp only [List.cons_append, List.length_singleton] at hmid
  obtain ⟨fuel, hfuel, hrun⟩ := (hopen.trans hmid) (('{' :: (mid ++ ['}'])).length + 1) (by omega)
  obtain ⟨f, rfl⟩ : ∃ f, fuel = f + 1 := ⟨fuel - 1, by simp at hfuel; omega⟩
  rw [List.size_toArray, hrun, matchBrace_close (by simp; omega)]
  · rw [Nat.add_comm]
  · simp only [Nat.add_comm 1, List.getElem_cons_succ, List.getElem_append_right (Nat.le_refl _),
      Nat.sub_self, List.getElem_cons_zero]

theorem plain_of_isDigit {c : Char} (h : c.isDigit) : Plain c := by
  refine ⟨?_, ?_, ?_, ?_, ?_, ?_⟩ <;> (rintro rfl; exact absurd h (by decide))

theorem plainText_toString (n : Nat) : PlainText (toString n) := by
  intro c hc
  rw [Nat.toString_eq_repr, Nat.toList_repr] at hc
  exact plain_of_isDigit (Nat.isDigit_of_mem_toDigits (by decide) (by decide) hc)

theorem plainText_toString_int (n : Int) : PlainText (toString n) := by
  rw [Int.toString_eq_repr, Int.repr_eq_if]
  split
  · exact plainText_toString _
  · exact PlainText.append (by decide) (plainText_toString _)

theorem plainText_zeros (n : Nat) : PlainText (String.ofList (List.replicate n '0')) :=
  plainText_ofList fun c hc => by rw [List.eq_of_mem_replicate hc]; decide

theorem plainText_positional (d : Decimal.Digits) : PlainText d.positional := by
  have hs := plainText_toString d.digits
  unfold Decimal.Digits.positional
  dsimp only
  split
  · exact PlainText.append hs (plainText_zeros _)
  split
  · exact ((plainText_ofList fun c hc => hs c (List.mem_of_mem_take hc)).append (by decide)).append
      (plainText_ofList fun c hc => hs c (List.mem_of_mem_drop hc))
  · exact (PlainText.append (by decide) (plainText_zeros _)).append hs

theorem plainText_scientific (d : Decimal.Digits) : PlainText d.scientific := by
  have hs := plainText_toString d.digits
  have hexp : PlainText (Decimal.twoDigits d.leading.natAbs) := by
    unfold Decimal.twoDigits
    split
    · exact PlainText.append (by decide) (plainText_toString _)
    · exact plainText_toString _
  unfold Decimal.Digits.scientific
  refine ((PlainText.append ?_ (by decide)).append ?_).append hexp
  · -- the mantissa: the digits, with a point after the first when there are more
    split
    · decide
    · rename_i c h
      have hc := hs c (by rw [h]; exact List.mem_singleton_self c)
      simpa [PlainText] using hc
    · rename_i c rest _ h
      have hcs : ∀ c' ∈ c :: rest, Plain c' := by rw [← h]; exact hs
      refine (PlainText.append ?_ (by decide)).append (plainText_ofList ?_)
      · simpa [PlainText] using hcs c List.mem_cons_self
      · exact fun c' hc' => hcs c' (List.mem_cons_of_mem _ hc')
  · split <;> decide

theorem plainText_render (layout : Decimal.Layout) (x : Float) : PlainText (layout.render x) := by
  have hsign : PlainText (if (Decimal.Binary.ofFloat x).negative then "-" else "") := by
    split <;> decide
  simp only [Decimal.Layout.render]
  split
  · exact hsign.append (by decide)
  split
  · exact hsign.append (plainText_positional _)
  · exact hsign.append (plainText_scientific _)

theorem hexDigit_mem (n : Nat) : Text.hexDigit n ∈ "0123456789abcdef".toList := by
  unfold Text.hexDigit
  rw [List.getD_eq_getElem?_getD, List.getElem?_eq_getElem (by simp; omega)]
  exact List.getElem_mem _

theorem hexDigits_quoted : ∀ c ∈ "0123456789abcdef".toList, c ≠ '\\' ∧ c ≠ '"' := by simp

theorem passes_hexFixed (w n : Nat) : Passes (some '"') (Text.hexFixed w n).toList := by
  apply passes_of_forall
  intro c hc
  simp only [Text.hexFixed, String.toList_ofList, List.mem_map] at hc
  obtain ⟨_, _, rfl⟩ := hc
  obtain ⟨hb, hq⟩ := hexDigits_quoted _ (hexDigit_mem _)
  exact passes_quoted hb hq

theorem passes_quoteChar (c : Char) : Passes (some '"') (Text.quoteChar c).toList := by
  unfold Text.quoteChar
  split
  · exact passes_escape
  split
  · exact passes_escape
  split
  · simpa using passes_quoted ‹c ≠ '\\'› ‹c ≠ '"'›
  split
  case h_8 =>
    -- a code point: a backslash and a letter, then two, four or eight hexadecimal digits
    have hcode : ∀ (e : String) (w n : Nat), (∃ x, e.toList = ['\\', x]) →
        Passes (some '"') (e ++ Text.hexFixed w n).toList := by
      rintro e w n ⟨x, he⟩
      rw [String.toList_append, he]
      exact passes_escape.append (passes_hexFixed w n)
    split
    · exact hcode _ _ _ ⟨'x', rfl⟩
    split
    · exact hcode _ _ _ ⟨'u', rfl⟩
    · exact hcode _ _ _ ⟨'U', rfl⟩
  -- a short escape: a backslash and a letter
  all_goals exact passes_escape

theorem passes_quote (s : String) : Passes none (Text.quote s).toList := by
  have hjoin : Passes (some '"') (String.join (s.toList.map Text.quoteChar)).toList := by
    rw [String.toList_join, List.flatMap_map]
    induction s.toList with
    | nil => exact passes_nil
    | cons c cs ih => simpa using (passes_quoteChar c).append ih
  simpa [Text.quote] using passes_string hjoin

theorem passes_literal (v : Value) : Passes none (literal v).toList := by
  cases v with
  | null => exact passes_of_plain (by decide)
  | bool b => cases b <;> exact passes_of_plain (by decide)
  | int n => exact passes_of_plain (plainText_toString_int n)
  | float x => exact passes_of_plain (plainText_render _ x)
  | str s => exact passes_quote s
  | list items => exact passes_quote _
  | dict entries => exact passes_quote _
  | pattern source => exact passes_quote _

theorem parse_anonymous {src : String} {p mid : List Char} (hp : ∀ c ∈ p, c ≠ ')')
    (hmid : Passes none mid)
    (hsrc : src.toList = "function".toList ++ ('(' :: (p ++ ')' :: ' ' :: '{' :: (mid ++ ['}'])))) :
    parse src = (fun params => ⟨"", params, String.ofList (trim mid), src⟩) <$> parseParams p := by
  have hs : trim src.toList = src.toList := by
    rw [hsrc]
    apply trim_eq_self <;> simp [List.getLast?_eq_head?_reverse] <;> decide
  have hkw : src.toList.take "function".toList.length = "function".toList := by
    rw [hsrc, List.take_left]
  have hrest : trim (src.toList.drop "function".toList.length) =
      '(' :: (p ++ ')' :: ' ' :: '{' :: (mid ++ ['}'])) := by
    rw [hsrc, List.drop_left]
    apply trim_eq_self <;> simp [List.getLast?_eq_head?_reverse] <;> decide
  have hclose : (p ++ ')' :: ' ' :: '{' :: (mid ++ ['}'])).findIdx? (· = ')') = some p.length := by
    rw [List.findIdx?_append, List.findIdx?_eq_none_iff.mpr (by simpa using hp)]
    simp [List.findIdx?_cons]
  have hparams : ((('(' :: (p ++ ')' :: ' ' :: '{' :: (mid ++ ['}']))).take (p.length + 1)).drop 1) =
      p := by
    simp
  have hbody : trim ((('(' :: (p ++ ')' :: ' ' :: '{' :: (mid ++ ['}']))).drop (p.length + 1 + 1))) =
      '{' :: (mid ++ ['}']) := by
    have hdrop : (('(' :: (p ++ ')' :: ' ' :: '{' :: (mid ++ ['}']))).drop (p.length + 1 + 1)) =
        [' '] ++ ('{' :: (mid ++ ['}'])) ++ [] := by
      simp
    rw [hdrop]
    apply trim_eq isSpace_single (by simp) (by simp) <;> simp [List.getLast?_eq_head?_reverse] <;> decide
  have htrail : (('{' :: (mid ++ ['}'])).drop (mid.length + 1 + 1)) = [] := by simp
  simp only [parse, hs, hkw, hrest, bne_self_eq_false, List.findIdx?_cons, List.take_zero,
    List.drop_zero, decide_true, ↓reduceIte, Bool.false_eq_true, trim_nil, String.ofList_nil,
    hclose, Option.map_some, Nat.zero_add, hparams, hbody, show ("" : String).isEmpty = true from rfl,
    Bool.not_true, Bool.false_and, show decide ('(' = ')') = false from rfl, List.head?_cons,
    matchBrace_braced hmid]
  cases parseParams p <;>
    simp [bind, Except.bind, htrail, pure, Except.pure, Functor.map, Except.map]

theorem parse_params_names {src : String} {f : Function} (h : parse src = .ok f) :
    ∀ p ∈ f.params, isName p := by
  unfold parse at h
  simp only at h
  -- the checks before the parameter list throw or pass; after it the function is built from it
  split at h
  · cases h
  split at h
  case h_2 => cases h
  split at h
  · cases h
  split at h
  case h_2 => cases h
  obtain ⟨ps, hps, hk⟩ := bind_eq_ok h
  split at hk
  · cases hk
  obtain ⟨finish, -, hk⟩ := bind_eq_ok hk
  split at hk
  · cases hk
  cases hk
  exact parseParams_names hps

theorem isSpace_of_ascii {c : Char} (h₁ : 33 ≤ c.toNat) (h₂ : c.toNat < 128) :
    Text.isSpace c = false := by
  unfold Text.isSpace
  split <;> (simp_all; try omega)

theorem isName_chars {d : String} (h : isName d) :
    d ≠ "" ∧ ∀ c ∈ d.toList, c.isAlpha ∨ c.isDigit ∨ c = '_' ∨ c = '$' := by
  unfold isName at h
  split at h
  · rename_i c rest hd
    simp only [Bool.and_eq_true, List.all_eq_true, Bool.or_eq_true, decide_eq_true_eq] at h
    refine ⟨fun he => by simp [he] at hd, ?_⟩
    rw [hd]
    intro x hx
    rcases List.mem_cons.mp hx with rfl | hx
    · rcases h.1 with (h | h) | h <;> simp [h]
    · rcases h.2 x hx with ((h | h) | h) | h <;> simp [h]
  · cases h

theorem toNat_of_nameChar {c : Char} (h : c.isAlpha ∨ c.isDigit ∨ c = '_' ∨ c = '$') :
    c.toNat = 36 ∨ (48 ≤ c.toNat ∧ c.toNat ≤ 57) ∨ (65 ≤ c.toNat ∧ c.toNat ≤ 90) ∨
      c.toNat = 95 ∨ (97 ≤ c.toNat ∧ c.toNat ≤ 122) := by
  rcases h with h | h | rfl | rfl
  · simp only [Char.isAlpha, Char.isUpper, Char.isLower, Bool.or_eq_true, Bool.and_eq_true,
      decide_eq_true_eq, UInt32.le_iff_toNat_le, Char.toNat_val] at h
    have hA : 'A'.toNat = 65 := rfl
    have hZ : 'Z'.toNat = 90 := rfl
    have ha : 'a'.toNat = 97 := rfl
    have hz : 'z'.toNat = 122 := rfl
    omega
  · have := Char.isDigit_iff_toNat.mp h
    have h0 : '0'.toNat = 48 := rfl
    have h9 : '9'.toNat = 57 := rfl
    omega
  · decide
  · decide

theorem bare_of_isName {d : String} (h : isName d) : Bare d := by
  obtain ⟨hne, hchars⟩ := isName_chars h
  refine ⟨hne, fun c hc => ?_⟩
  have hr := toNat_of_nameChar (hchars c hc)
  refine ⟨isSpace_of_ascii (by omega) (by omega), ?_, ?_, ?_, ?_, ?_, ?_, ?_, ?_⟩ <;>
    (rintro rfl; revert hr; decide)

theorem plainText_comparison_op {op : String} (h : isComparison op) : PlainText op := by
  simp only [isComparison, Bool.or_eq_true, decide_eq_true_eq] at h
  rcases h with ((rfl | rfl) | rfl) | rfl <;> decide

theorem parse_comparison {d op : String} (hd : Bare d) (hop : isComparison op) (v : Value) :
    parse (comparison d op v) =
      if isName d then
        .ok ⟨"", [d], "return(" ++ d ++ " " ++ op ++ " " ++ literal v ++ ");", comparison d op v⟩
      else .error (.badParameter d) := by
  have hchars := hd.2
  have hdplain : PlainText d := fun c hc =>
    have h := hchars c hc
    ⟨h.2.2.2.1, h.2.2.2.2.1, h.2.2.2.2.2.1, h.2.2.2.2.2.2.1, h.2.2.2.2.2.2.2.1, h.2.2.2.2.2.2.2.2⟩
  have hmid : Passes none (" return(" ++ d ++ " " ++ op ++ " " ++ literal v ++ "); ").toList := by
    simp only [String.toList_append]
    refine ((((((passes_of_plain (by decide)).append (passes_of_plain hdplain)).append
      (passes_of_plain (by decide))).append (passes_of_plain (plainText_comparison_op hop))).append
      (passes_of_plain (by decide))).append (passes_literal v)).append (passes_of_plain (by decide))
  have htrim : trim (" return(" ++ d ++ " " ++ op ++ " " ++ literal v ++ "); ").toList =
      ("return(" ++ d ++ " " ++ op ++ " " ++ literal v ++ ");").toList := by
    rw [show (" return(" ++ d ++ " " ++ op ++ " " ++ literal v ++ "); ").toList =
      [' '] ++ ("return(" ++ d ++ " " ++ op ++ " " ++ literal v ++ ");").toList ++ [' '] by simp]
    apply trim_eq isSpace_single isSpace_single (by simp) <;>
      simp [List.getLast?_eq_head?_reverse] <;> decide
  rw [parse_anonymous (fun c hc => (hchars c hc).2.2.1) hmid (by unfold comparison; simp),
    parseParams_bare hd, htrim, String.ofList_toList]
  split <;> rfl

end DruidQuery.Script

namespace DruidQuery

theorem Script.Bare.not_isBlank {d : String} (hd : Script.Bare d) : Text.isBlank d = false := by
  obtain ⟨c, t, hct⟩ := List.exists_cons_of_ne_nil (by simpa using hd.1 : d.toList ≠ [])
  have hc := (hd.2 c (by simp [hct])).1
  simp [Text.isBlank, hct, hc]

theorem Filter.validate_javascript (d fn : String) :
    (Filter.javascript d fn).validate = checkNotBlank "dimension" d ++ checkScript "function" fn := by
  rw [Filter.validate_eq]
  simp [Filter.javascript, Filter.rules, RuleTable.validate, Rule.appliesTo, Filter.childFindings,
    Filter.listFindings, Filter.knownTypes]

theorem Filter.validate_compare {d op : String} (hd : Script.Bare d) (hop : Script.isComparison op)
    (v : Value) :
    (Filter.compare d op v).validate =
      if Script.isName d then [] else [⟨"function", (Script.Error.badParameter d).message⟩] := by
  have hsource : (Script.comparison d op v).isEmpty = false := by
    unfold Script.comparison
    simp
  rw [Filter.compare, Filter.validate_javascript, checkNotBlank, hd.not_isBlank, checkScript,
    hsource, Script.parse_comparison hd hop]
  simp only [Bool.false_eq_true, ↓reduceIte, List.nil_append]
  cases Script.isName d <;> rfl

/-- The script of a comparison reads back as the anonymous function of the dimension alone, with
the return statement for body, exactly when the dimension is a name; the comparison filter of a
name then has no finding at all. -/
theorem comparison_script_reads_back_iff_name (d op : String) (v : Value)
    (hop : Script.isComparison op) :
    (Script.parse (Script.comparison d op v) =
        .ok ⟨"", [d], "return(" ++ d ++ " " ++ op ++ " " ++ Script.literal v ++ ");",
          Script.comparison d op v⟩ ↔ Script.isName d) ∧
      (Script.isName d → (Filter.compare d op v).validate = []) := by
  refine ⟨⟨fun h => ?_, fun h => ?_⟩, fun h => ?_⟩
  · exact Script.parse_params_names h d (List.mem_singleton_self d)
  · rw [Script.parse_comparison (Script.bare_of_isName h) hop, if_pos h]
  · rw [Filter.validate_compare (Script.bare_of_isName h) hop, if_pos h]

theorem quoted_brace_comparison_reads_back :
    Script.isComparison ">=" ∧
      ((Script.parse (Script.comparison "price" ">=" (.str "\x7d")) =
          .ok ⟨"", ["price"], "return(" ++ "price" ++ " " ++ ">=" ++ " " ++
            Script.literal (.str "\x7d") ++ ");", Script.comparison "price" ">=" (.str "\x7d")⟩ ↔
          Script.isName "price") ∧
        (Script.isName "price" → (Filter.compare "price" ">=" (.str "\x7d")).validate = [])) :=
  ⟨by decide, comparison_script_reads_back_iff_name "price" ">=" (.str "\x7d") (by decide)⟩

/-- A dotted dimension is not a parameter name: its comparison filter is reported on its
function. -/
theorem dotted_dimension_comparison_reported :
    (Filter.compare "geo.country" ">" (.int 1)).validate =
      [⟨"function", "invalid javascript function: invalid parameter \"geo.country\""⟩] := by
  rw [Filter.validate_compare (by decide) (by decide), if_neg (by decide)]
  rfl

end DruidQuery
