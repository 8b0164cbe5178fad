import Mathlib
import DruidQuery.Proofs.BraceScan
import DruidQuery.Proofs.IsoDates

namespace DruidQuery.Script

section Trim

variable {cs : List Char}

theorem trim_decompose (cs : List Char) :
    ∃ lead trail, (∀ c ∈ lead, Text.isSpace c) ∧ (∀ c ∈ trail, Text.isSpace c) ∧
      cs = lead ++ trim cs ++ trail := by
  set m := cs.dropWhile Text.isSpace
  refine ⟨cs.takeWhile Text.isSpace, (m.reverse.takeWhile Text.isSpace).reverse,
    fun c hc => List.mem_takeWhile_imp hc,
    fun c hc => List.mem_takeWhile_imp (List.mem_reverse.mp hc), ?_⟩
  have hm : m = trim cs ++ (m.reverse.takeWhile Text.isSpace).reverse := by
    rw [trim, ← List.reverse_append, List.takeWhile_append_dropWhile, List.reverse_reverse]
  rw [List.append_assoc, ← hm, List.takeWhile_append_dropWhile]

theorem trim_getLast? : ∀ c ∈ (trim cs).getLast?, Text.isSpace c = false := by
  intro c hc
  rw [trim, List.getLast?_reverse] at hc
  have := List.head?_dropWhile_not Text.isSpace (cs.dropWhile Text.isSpace).reverse
  rw [hc] at this
  exact this

theorem trim_head? : ∀ c ∈ (trim cs).head?, Text.isSpace c = false := by
  intro c hc
  rw [trim, List.head?_reverse] at hc
  set r := (cs.dropWhile Text.isSpace).reverse
  -- the trimmed text ends where the text after its leading white space does
  have hne : r.dropWhile Text.isSpace ≠ [] := fun h => by simp [h] at hc
  have hlast : (r.dropWhile Text.isSpace).getLast? = r.getLast? := by
    conv_rhs => rw [← List.takeWhile_append_dropWhile (p := Text.isSpace) (l := r)]
    rw [List.getLast?_append_of_ne_nil _ hne]
  rw [hlast, List.getLast?_reverse] at hc
  have := List.head?_dropWhile_not Text.isSpace cs
  rw [hc] at this
  exact this

theorem trim_of_spaces (h : ∀ c ∈ cs, Text.isSpace c) : trim cs = [] := by
  simp [trim, List.dropWhile_eq_nil_iff.mpr h]

theorem trim_trim (cs : List Char) : trim (trim cs) = trim cs := by
  by_cases he : trim cs = []
  · rw [he]
    rfl
  · exact trim_eq_self he trim_head? trim_getLast?

theorem trim_trim_append {w : List Char} (hw : ∀ c ∈ w, Text.isSpace c) :
    trim (trim cs ++ w) = trim cs := by
  by_cases he : trim cs = []
  · rw [he, List.nil_append, trim_of_spaces hw]
  · simpa using trim_eq (a := []) (by simp) hw he trim_head? trim_getLast?

theorem trim_space_cons (hne : cs ≠ []) (hh : ∀ c ∈ cs.head?, Text.isSpace c = false)
    (hl : ∀ c ∈ cs.getLast?, Text.isSpace c = false) : trim (' ' :: cs) = cs := by
  simpa using trim_eq (a := [' ']) (b := []) isSpace_single (by simp) hne hh hl

end Trim

section Params

theorem trim_name {p : String} (hp : isName p) : trim p.toList = p.toList := by
  obtain ⟨hne, hchars⟩ := bare_of_isName hp
  exact trim_eq_self (by simpa using hne) (fun c hc => (hchars c (List.mem_of_mem_head? hc)).1)
    (fun c hc => (hchars c (List.mem_of_mem_getLast? hc)).1)

theorem trim_space_name {p : String} (hp : isName p) : trim (' ' :: p.toList) = p.toList := by
  obtain ⟨hne, hchars⟩ := bare_of_isName hp
  exact trim_space_cons (by simpa using hne) (fun c hc => (hchars c (List.mem_of_mem_head? hc)).1)
    (fun c hc => (hchars c (List.mem_of_mem_getLast? hc)).1)

theorem name_ne_open {d : String} (h : isName d) : ∀ c ∈ d.toList, c ≠ '(' := by
  obtain ⟨-, hchars⟩ := isName_chars h
  intro c hc
  have hr := toNat_of_nameChar (hchars c hc)
  rintro rfl
  revert hr
  decide

theorem intercalate_names_toList (p : String) (qs : List String) :
    (", ".intercalate (p :: qs)).toList =
      [','].intercalate (p.toList :: qs.map fun q => ' ' :: q.toList) := by
  induction qs generalizing p with
  | nil => simp
  | cons q qs ih =>
    rw [String.intercalate_cons_cons, String.toList_append, String.toList_append, ih,
      List.map_cons, List.intercalate_cons_cons, List.intercalate_cons_cons_left]
    simp

theorem intercalate_names_head? {p : String} (qs : List String) {c : Char} {t : List Char}
    (hp : p.toList = c :: t) : (", ".intercalate (p :: qs)).toList.head? = some c := by
  rw [intercalate_names_toList, hp, List.intercalate_cons_cons_left, List.head?_cons]

theorem intercalate_names_ne_nil {p : String} (qs : List String) (hp : p ≠ "") :
    (", ".intercalate (p :: qs)).toList ≠ [] := by
  obtain ⟨c, t, hct⟩ := List.exists_cons_of_ne_nil (by simpa using hp : p.toList ≠ [])
  exact List.ne_nil_of_mem (List.mem_of_mem_head? (intercalate_names_head? qs hct))

theorem intercalate_names_getLast? {p : String} {qs : List String} (hp : isName p)
    (hqs : ∀ q ∈ qs, isName q) :
    ∀ c ∈ (", ".intercalate (p :: qs)).toList.getLast?, Text.isSpace c = false := by
  induction qs generalizing p with
  | nil =>
    intro c hc
    rw [String.intercalate_singleton, ← trim_name hp] at hc
    exact trim_getLast? c hc
  | cons q qs ih =>
    intro c hc
    have hq := hqs q List.mem_cons_self
    rw [String.intercalate_cons_cons, String.toList_append,
      List.getLast?_append_of_ne_nil _ (intercalate_names_ne_nil qs (bare_of_isName hq).1)] at hc
    exact ih hq (fun r hr => hqs r (List.mem_cons_of_mem _ hr)) c hc

theorem intercalate_names_ne_close {ps : List String} (hps : ∀ p ∈ ps, isName p) :
    ∀ c ∈ (", ".intercalate ps).toList, c ≠ ')' := by
  induction ps with
  | nil => simp
  | cons p qs ih =>
    have hp := bare_of_isName (hps p List.mem_cons_self)
    have hqs : ∀ q ∈ qs, isName q := fun q hq => hps q (List.mem_cons_of_mem _ hq)
    cases qs with
    | nil =>
      rw [String.intercalate_singleton]
      exact fun c hc => (hp.2 c hc).2.2.1
    | cons q qs =>
      intro c hc
      rw [String.intercalate_cons_cons, String.toList_append, String.toList_append] at hc
      rcases List.mem_append.mp hc with hc | hc
      · rcases List.mem_append.mp hc with hc | hc
        · exact (hp.2 c hc).2.2.1
        · rw [show (", " : String).toList = [',', ' '] from rfl] at hc
          simp only [List.mem_cons, List.not_mem_nil, or_false] at hc
          rcases hc with rfl | rfl <;> decide
      · exact ih hqs c hc

theorem intercalate_names_trim {p : String} {qs : List String} (hp : isName p)
    (hqs : ∀ q ∈ qs, isName q) :
    trim (", ".intercalate (p :: qs)).toList = (", ".intercalate (p :: qs)).toList := by
  have hbare := bare_of_isName hp
  obtain ⟨c, t, hct⟩ := List.exists_cons_of_ne_nil (by simpa using hbare.1 : p.toList ≠ [])
  have hhead := intercalate_names_head? qs hct
  refine trim_eq_self (intercalate_names_ne_nil qs hbare.1) ?_ (intercalate_names_getLast? hp hqs)
  rw [hhead]
  intro d hd
  exact (hbare.2 d (by simp [Option.mem_some_iff.mp hd, hct])).1

theorem comma_not_mem_parts {p : String} {qs : List String} (hp : isName p)
    (hqs : ∀ q ∈ qs, isName q) :
    ∀ l ∈ p.toList :: qs.map (fun q => ' ' :: q.toList), ',' ∉ l := by
  intro l hl
  rcases List.mem_cons.mp hl with rfl | hl
  · exact fun h => ((bare_of_isName hp).2 ',' h).2.1 rfl
  · obtain ⟨q, hq, rfl⟩ := List.mem_map.mp hl
    intro h
    rcases List.mem_cons.mp h with h | h
    · exact absurd h (by decide)
    · exact ((bare_of_isName (hqs q hq)).2 ',' h).2.1 rfl

theorem foldlM_spaced_names (rs acc : List String) (hrs : ∀ r ∈ rs, isName r) :
    (List.map String.ofList (rs.map fun q => ' ' :: q.toList)).foldlM (fun acc p =>
      if isName (String.ofList (trim p.toList)) = true then
        Except.ok (acc ++ [String.ofList (trim p.toList)])
      else Except.error (Error.badParameter (String.ofList (trim p.toList)))) acc =
      .ok (acc ++ rs) := by
  induction rs generalizing acc with
  | nil => simp [pure, Except.pure]
  | cons r rs ih =>
    have hr := hrs r List.mem_cons_self
    rw [List.map_cons, List.map_cons, List.foldlM_cons, String.toList_ofList, trim_space_name hr,
      String.ofList_toList, if_pos hr]
    exact (ih (acc ++ [r]) (fun q hq => hrs q (List.mem_cons_of_mem _ hq))).trans (by simp)

theorem parseParams_intercalate {ps : List String} (hps : ∀ p ∈ ps, isName p) :
    parseParams (", ".intercalate ps).toList = .ok ps := by
  cases ps with
  | nil => rfl
  | cons p qs =>
    have hp := hps p List.mem_cons_self
    have hqs : ∀ q ∈ qs, isName q := fun q hq => hps q (List.mem_cons_of_mem _ hq)
    have hne : ¬(", ".intercalate (p :: qs)).toList.isEmpty = true := by
      simpa using intercalate_names_ne_nil qs (bare_of_isName hp).1
    unfold parseParams
    simp only [intercalate_names_trim hp hqs, String.ofList_toList, if_neg hne]
    -- the text splits at its commas into the first name and the others after their space
    rw [show ("," : String) = String.singleton ',' from rfl, Time.splitOn_singleton,
      intercalate_names_toList, ← List.splitOn_eq_splitOnP,
      List.splitOn_intercalate ',' (comma_not_mem_parts hp hqs) (List.cons_ne_nil _ _),
      List.map_cons, List.foldlM_cons, String.toList_ofList, trim_name hp, String.ofList_toList,
      if_pos hp]
    exact foldlM_spaced_names qs [p] hqs

end Params

section Read

theorem name_check {n : String} (h : ¬(!n.isEmpty && !isName n) = true) : n = "" ∨ isName n := by
  by_cases hn : n = ""
  · exact Or.inl hn
  · right
    simpa [hn] using h

theorem matchBrace_opening (tl : List Char) :
    matchBrace ('{' :: tl).toArray (('{' :: tl).toArray.size + 1) 0 0 none =
      (⟨.code, 1⟩ : ScanState).scan tl 1 := by
  rw [matchBrace_eq_scan _ _ 0 0 none (by simp), List.drop_zero,
    show ScanMode.ofQuote none = .code from rfl,
    ScanState.scan_cons_of_step
      (show ScanState.step ⟨.code, 0⟩ '{' = some ⟨.code, 1⟩ from rfl)]

theorem body_scan {body : List Char} {finish : Nat} (hhead : ¬(body.head? != some '{') = true)
    (hfinish : matchBrace body.toArray (body.toArray.size + 1) 0 0 none = .ok finish) :
    ∃ pre t, ScanState.run ⟨.code, 1⟩ pre = some t ∧ t.Settled ∧
      (body.take finish).drop 1 = pre := by
  obtain ⟨tl, rfl⟩ := List.head?_eq_some_iff.mp (by simpa using hhead)
  rw [matchBrace_opening] at hfinish
  obtain ⟨pre, c, post, t, rfl, rfl, hrun, hstep⟩ := ScanState.scan_eq_ok hfinish
  refine ⟨pre, t, hrun, ScanState.settled_of_step_eq_none hstep, ?_⟩
  rw [Nat.add_comm 1, List.take_succ_cons, List.drop_one, List.tail_cons,
    List.take_left]

theorem parse_parts {src : String} {f : Function} (h : parse src = .ok f) :
    (f.name = "" ∨ isName f.name) ∧ (∀ p ∈ f.params, isName p) ∧
      ∃ pre t, ScanState.run ⟨.code, 1⟩ pre = some t ∧ t.Settled ∧
        f.body.toList = trim pre := by
  unfold parse at h
  simp only at h
  split at h
  · cases h
  split at h
  case h_2 => cases h
  split at h
  · cases h
  rename_i hname
  split at h
  case h_2 => cases h
  obtain ⟨ps, hps, hk⟩ := bind_eq_ok h
  split at hk
  · cases hk
  rename_i hhead
  obtain ⟨finish, hfinish, hk⟩ := bind_eq_ok hk
  split at hk
  · cases hk
  cases hk
  obtain ⟨pre, t, hrun, hsettled, hpre⟩ := body_scan hhead hfinish
  exact ⟨name_check hname, parseParams_names hps, pre, t, hrun, hsettled,
    by rw [String.toList_ofList, hpre]⟩

theorem run_trim_settled {pre : List Char} {t : ScanState}
    (hrun : ScanState.run ⟨.code, 1⟩ pre = some t) (ht : t.Settled) :
    ∃ u, ScanState.run ⟨.code, 1⟩ (trim pre) = some u ∧ u.Settled := by
  obtain ⟨lead, trail, hlead, htrail, hpre⟩ := trim_decompose pre
  rw [hpre, ScanState.run_append, ScanState.run_append, ScanState.run_spaces_code hlead,
    Option.bind_some, Option.bind_eq_some_iff] at hrun
  obtain ⟨u, hu, hut⟩ := hrun
  -- the trailing white space left the scan as settled as it found it
  exact ⟨u, hu,
    ScanState.settled_of_run_spaces ((ScanState.code_quoted 1).run hu) htrail hut ht⟩

end Read

section Canonical

/-- The canonical text of a function literal: the keyword, the name, the parameters joined by
`, `, and the body between braces, the closing one on a line of its own. -/
def Function.canonical (f : Function) : String :=
  "function " ++ f.name ++ "(" ++ ", ".intercalate f.params ++ ") \x7b" ++ f.body ++ "\n\x7d"

theorem canonical_toList (f : Function) :
    f.canonical.toList = "function".toList ++ ' ' :: (f.name.toList ++ '(' ::
      ((", ".intercalate f.params).toList ++ ')' :: ' ' :: '{' ::
        (f.body.toList ++ ['\n', '}']))) := by
  have hkw : ("function " : String).toList = "function".toList ++ [' '] := rfl
  have hopen : ("(" : String).toList = ['('] := rfl
  have hclose : (") \x7b" : String).toList = [')', ' ', '{'] := rfl
  have hend : ("\n\x7d" : String).toList = ['\n', '}'] := rfl
  unfold Function.canonical
  simp only [String.toList_append, hkw, hopen, hclose, hend, List.append_assoc, List.cons_append,
    List.nil_append]

theorem trim_canonical (f : Function) : trim f.canonical.toList = f.canonical.toList := by
  rw [canonical_toList]
  apply trim_eq_self <;> simp [List.getLast?_eq_head?_reverse] <;> decide

theorem findIdx?_open {N : List Char} (hN : ∀ c ∈ N, c ≠ '(') (rest : List Char) :
    (N ++ '(' :: rest).findIdx? (· = '(') = some N.length := by
  rw [List.findIdx?_append, List.findIdx?_eq_none_iff.mpr (by simpa using hN)]
  simp [List.findIdx?_cons]

theorem findIdx?_close {P : List Char} (hP : ∀ c ∈ P, c ≠ ')') (rest : List Char) :
    ('(' :: (P ++ ')' :: rest)).findIdx? (· = ')') = some (P.length + 1) := by
  rw [List.findIdx?_cons, List.findIdx?_append, List.findIdx?_eq_none_iff.mpr (by simpa using hP)]
  simp [List.findIdx?_cons]

theorem trim_space_header {N : List Char} (hN : ∀ c ∈ N, Text.isSpace c = false)
    (rest : List Char) :
    trim (' ' :: (N ++ '(' :: (rest ++ ['}']))) = N ++ '(' :: (rest ++ ['}']) := by
  refine trim_space_cons (by simp) ?_ (by simp [List.getLast?_eq_head?_reverse]; decide)
  -- the text starts with the name's first character, or with the parenthesis
  intro c hc
  rw [List.head?_append, List.head?_cons] at hc
  cases hh : N.head? with
  | none =>
    rw [hh, Option.none_or, Option.mem_some_iff] at hc
    rw [← hc]
    decide
  | some d =>
    rw [hh, Option.some_or, Option.mem_some_iff] at hc
    exact hc ▸ hN d (List.mem_of_mem_head? hh)

theorem matchBrace_canonical {B : List Char}
    (hrun : ScanState.run ⟨.code, 1⟩ (B ++ ['\n']) = some ⟨.code, 1⟩) :
    matchBrace ('{' :: (B ++ ['\n', '}'])).toArray
      (('{' :: (B ++ ['\n', '}'])).toArray.size + 1) 0 0 none = .ok (B.length + 2) := by
  rw [matchBrace_opening, show B ++ ['\n', '}'] = (B ++ ['\n']) ++ ['}'] by simp,
    ScanState.scan_append ['}'] hrun,
    ScanState.scan_cons_of_close (show ScanState.step ⟨.code, 1⟩ '}' = none from rfl)]
  simp only [List.length_append, List.length_singleton, Except.ok.injEq]
  omega

theorem canonical_body_back {B : List Char} (hbody : trim B = B) :
    trim ((('{' :: (B ++ ['\n', '}'])).take (B.length + 2)).drop 1) = B :=
  calc trim ((('{' :: (B ++ ['\n', '}'])).take (B.length + 2)).drop 1)
      _ = trim (trim B ++ ['\n']) := by simp [List.take_length_add_append, hbody]
      _ = trim B := trim_trim_append fun c hc => by rw [List.mem_singleton.mp hc]; decide
      _ = B := hbody

theorem parse_canonical {f : Function} (hname : f.name = "" ∨ isName f.name)
    (hparams : ∀ p ∈ f.params, isName p) (hbody : trim f.body.toList = f.body.toList)
    (hrun : ScanState.run ⟨.code, 1⟩ (f.body.toList ++ ['\n']) = some ⟨.code, 1⟩) :
    parse f.canonical = .ok { f with source := f.canonical } := by
  have hsrc := canonical_toList f
  set N := f.name.toList
  set P := (", ".intercalate f.params).toList
  set B := f.body.toList
  set rest := N ++ '(' :: (P ++ ')' :: ' ' :: '{' :: (B ++ ['\n', '}'])) with hrest_def
  -- the name is empty or bare: no white space and no opening parenthesis in it
  have hN : ∀ c ∈ N, Text.isSpace c = false ∧ c ≠ '(' := by
    rcases hname with hn | hn
    · simp [N, hn]
    · exact fun c hc => ⟨((bare_of_isName hn).2 c hc).1, name_ne_open hn c hc⟩
  have htrimN : trim N = N := by
    rcases hname with hn | hn
    · simp [N, hn]
    · exact trim_name hn
  have hkw : f.canonical.toList.take "function".toList.length = "function".toList := by
    rw [hsrc, List.take_left]
  have hrest : trim (f.canonical.toList.drop "function".toList.length) = rest := by
    rw [hsrc, List.drop_left, hrest_def]
    simpa using
      trim_space_header (fun c hc => (hN c hc).1) (P ++ ')' :: ' ' :: '{' :: (B ++ ['\n']))
  have hopen : rest.findIdx? (· = '(') = some N.length := findIdx?_open (fun c hc => (hN c hc).2) _
  have hnameText : String.ofList (trim (rest.take N.length)) = f.name := by
    rw [List.take_left, htrimN, String.ofList_toList]
  have hcheck : (!f.name.isEmpty && !isName f.name) = false := by
    rcases hname with hn | hn <;> simp [hn]
  have hclose : (rest.drop N.length).findIdx? (· = ')') = some (P.length + 1) := by
    rw [hrest_def, List.drop_left]
    exact findIdx?_close (intercalate_names_ne_close hparams) _
  have hparamsText : (rest.take (N.length + (P.length + 1))).drop (N.length + 1) = P := by
    simp [rest, List.take_append, List.drop_append]
  have hbodyText :
      trim (rest.drop (N.length + (P.length + 1) + 1)) = '{' :: (B ++ ['\n', '}']) := by
    rw [hrest_def, Nat.add_assoc, List.drop_length_add_append, List.drop_succ_cons,
      List.drop_length_add_append, List.drop_succ_cons, List.drop_zero]
    exact trim_space_cons (by simp)
      (by simp only [List.head?_cons, Option.mem_some_iff, forall_eq']; decide)
      (by simp [List.getLast?_eq_head?_reverse]; decide)
  have hps : parseParams P = .ok f.params := parseParams_intercalate hparams
  have htrail : trim (('{' :: (B ++ ['\n', '}'])).drop (B.length + 2 + 1)) = [] := by
    simp
  simp only [parse, trim_canonical, hkw, hrest, hopen, bne_self_eq_false, Bool.false_eq_true,
    ↓reduceIte, hnameText, hcheck, hclose, hparamsText, hps, hbodyText, List.head?_cons,
    matchBrace_canonical hrun, htrail, canonical_body_back hbody, List.isEmpty_nil, Bool.not_true,
    bind, Except.bind, pure, Except.pure]
  simp only [B, String.ofList_toList]

/-- A function literal that reads is read back, name, parameters and body, from its canonical
text. Its body leaves the scan from just inside the opening brace outside strings and block
comments, with that brace still the only one open; it may end in a line comment, which the line
break of the canonical text closes, so that the closing brace is read as code. -/
theorem canonical_function_reads_back {src : String} {f : Function} (h : parse src = .ok f) :
    parse f.canonical = .ok { f with source := f.canonical } ∧
      (∃ t, ScanState.run ⟨.code, 1⟩ f.body.toList = some t ∧ t.Settled) ∧
      ScanState.run ⟨.code, 1⟩ (f.body.toList ++ ['\n']) = some ⟨.code, 1⟩ := by
  obtain ⟨hname, hparams, pre, t, hrun, ht, hbody⟩ := parse_parts h
  obtain ⟨u, hu, hsettled⟩ := run_trim_settled hrun ht
  have hnewline : ScanState.run ⟨.code, 1⟩ (f.body.toList ++ ['\n']) = some ⟨.code, 1⟩ := by
    rw [hbody, ScanState.run_append, hu, Option.bind_some, hsettled.run_newline]
  exact ⟨parse_canonical hname hparams (by rw [hbody, trim_trim]) hnewline,
    ⟨u, hbody ▸ hu, hsettled⟩, hnewline⟩

theorem check_literal_reads_back :
    parse " function check () \x7b if (x) \x7b return \"\x7d\"; \x7d // done\n \x7d " =
      .ok ⟨"check", [], "if (x) \x7b return \"\x7d\"; \x7d // done",
        " function check () \x7b if (x) \x7b return \"\x7d\"; \x7d // done\n \x7d "⟩ ∧
    parse (Function.canonical ⟨"check", [], "if (x) \x7b return \"\x7d\"; \x7d // done",
        " function check () \x7b if (x) \x7b return \"\x7d\"; \x7d // done\n \x7d "⟩) =
      .ok ⟨"check", [], "if (x) \x7b return \"\x7d\"; \x7d // done",
        Function.canonical ⟨"check", [], "if (x) \x7b return \"\x7d\"; \x7d // done",
          " function check () \x7b if (x) \x7b return \"\x7d\"; \x7d // done\n \x7d "⟩⟩ ∧
    (∃ t, ScanState.run ⟨.code, 1⟩ "if (x) \x7b return \"\x7d\"; \x7d // done".toList = some t ∧
      t.Settled) ∧
    ScanState.run ⟨.code, 1⟩ ("if (x) \x7b return \"\x7d\"; \x7d // done".toList ++ ['\n']) =
      some ⟨.code, 1⟩ := by
  have h : parse " function check () \x7b if (x) \x7b return \"\x7d\"; \x7d // done\n \x7d " =
      .ok ⟨"check", [], "if (x) \x7b return \"\x7d\"; \x7d // done",
        " function check () \x7b if (x) \x7b return \"\x7d\"; \x7d // done\n \x7d "⟩ := by
    decide +kernel
  exact ⟨h, canonical_function_reads_back h⟩

/-- A body may end inside a line comment: the line break before the closing brace ends it. -/
theorem body_ends_in_line_comment :
    parse "function f() \x7b x // c\n\x7d" =
        .ok ⟨"f", [], "x // c", "function f() \x7b x // c\n\x7d"⟩ ∧
      ScanState.run ⟨.code, 1⟩ "x // c".toList = some ⟨.line, 1⟩ := by
  constructor
  · decide +kernel
  · decide

end Canonical

end DruidQuery.Script
