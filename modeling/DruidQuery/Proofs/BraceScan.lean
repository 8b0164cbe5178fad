import Mathlib
import DruidQuery.Proofs.ComparisonScripts

namespace DruidQuery.Script

inductive ScanMode where
  | code
  | slash
  | quote (q : Char)
  | escape (q : Char)
  | line
  | block
  | star
deriving DecidableEq, Repr

/-- A point of the brace scan: where it stands and how many braces are open. -/
structure ScanState where
  mode : ScanMode
  depth : Nat
deriving DecidableEq, Repr

theorem indexOf?_cons (c : Char) (cs pat : List Char) :
    indexOf? (c :: cs) pat =
      if (c :: cs).take pat.length == pat then some 0 else (indexOf? cs pat).map (· + 1) := by
  have hshift : ((fun i => ((c :: cs).drop i).take pat.length == pat) ∘ Nat.succ) =
      fun i => (cs.drop i).take pat.length == pat := by
    funext i
    simp
  unfold indexOf?
  rw [List.length_cons, List.range_succ_eq_map, List.find?_cons, List.find?_map, hshift,
    List.drop_zero]
  cases (c :: cs).take pat.length == pat <;> rfl

namespace ScanState

def inCode (depth : Nat) (c : Char) : Option ScanState :=
  if c = '"' ∨ c = '\'' ∨ c = '`' then some ⟨.quote c, depth⟩
  else if c = '/' then some ⟨.slash, depth⟩
  else if c = '{' then some ⟨.code, depth + 1⟩
  else if c = '}' then (if depth = 1 then none else some ⟨.code, depth - 1⟩)
  else some ⟨.code, depth⟩

def step : ScanState → Char → Option ScanState
  | ⟨.code, d⟩, c => inCode d c
  | ⟨.slash, d⟩, c =>
    if c = '/' then some ⟨.line, d⟩ else if c = '*' then some ⟨.block, d⟩ else inCode d c
  | ⟨.quote q, d⟩, c =>
    if c = '\\' then some ⟨.escape q, d⟩ else if c = q then some ⟨.code, d⟩ else some ⟨.quote q, d⟩
  | ⟨.escape q, d⟩, _ => some ⟨.quote q, d⟩
  | ⟨.line, d⟩, c => if c = '\n' then some ⟨.code, d⟩ else some ⟨.line, d⟩
  | ⟨.block, d⟩, c => if c = '*' then some ⟨.star, d⟩ else some ⟨.block, d⟩
  | ⟨.star, d⟩, c =>
    if c = '/' then some ⟨.code, d⟩ else if c = '*' then some ⟨.star, d⟩ else some ⟨.block, d⟩

def endError (s : ScanState) : Error :=
  match s.mode with
  | .quote _ | .escape _ => .unterminatedString
  | .block | .star => .unterminatedComment
  | _ => .unbalancedBraces

def scan : ScanState → List Char → Nat → Except Error Nat
  | s, [], _ => .error s.endError
  | s, c :: cs, pos =>
    match s.step c with
    | none => .ok pos
    | some s' => scan s' cs (pos + 1)

def run : ScanState → List Char → Option ScanState
  | s, [] => some s
  | s, c :: cs => (s.step c).bind fun s' => run s' cs

variable {s s' : ScanState} {c : Char} {cs : List Char} {pos : Nat}

@[simp] theorem scan_nil : s.scan [] pos = .error s.endError := rfl

theorem scan_cons_of_step (h : s.step c = some s') : s.scan (c :: cs) pos = s'.scan cs (pos + 1) := by
  simp [scan, h]

theorem scan_cons_of_close (h : s.step c = none) : s.scan (c :: cs) pos = .ok pos := by
  simp [scan, h]

@[simp] theorem run_nil : s.run [] = some s := rfl

theorem run_cons : s.run (c :: cs) = (s.step c).bind fun s' => s'.run cs := rfl

theorem run_append (s : ScanState) (xs ys : List Char) :
    s.run (xs ++ ys) = (s.run xs).bind fun t => t.run ys := by
  induction xs generalizing s with
  | nil => rfl
  | cons x xs ih =>
    cases h : s.step x with
    | none => simp [run, h]
    | some t => simpa [run, h] using ih t

theorem scan_append {xs : List Char} (ys : List Char) (h : s.run xs = some s') (pos : Nat) :
    s.scan (xs ++ ys) pos = s'.scan ys (pos + xs.length) := by
  induction xs generalizing s pos with
  | nil => simp_all
  | cons x xs ih =>
    rw [run_cons] at h
    obtain ⟨t, ht, hrun⟩ := Option.bind_eq_some_iff.mp h
    rw [List.cons_append, scan_cons_of_step ht, ih hrun, List.length_cons]
    congr 1
    omega

theorem scan_eq_ok {k : Nat} (h : s.scan cs pos = .ok k) :
    ∃ pre c post t, cs = pre ++ c :: post ∧ k = pos + pre.length ∧ s.run pre = some t ∧
      t.step c = none := by
  induction cs generalizing s pos with
  | nil => simp at h
  | cons x xs ih =>
    cases hx : s.step x with
    | none =>
      rw [scan_cons_of_close hx] at h
      cases h
      exact ⟨[], x, xs, s, rfl, rfl, rfl, hx⟩
    | some t =>
      rw [scan_cons_of_step hx] at h
      obtain ⟨pre, c, post, t', rfl, rfl, hrun, hc⟩ := ih h
      refine ⟨x :: pre, c, post, t', rfl, by simp; omega, ?_, hc⟩
      rw [run_cons, hx, Option.bind_some, hrun]

theorem scan_line (d : Nat) (cs : List Char) (pos : Nat) :
    (⟨.line, d⟩ : ScanState).scan cs pos =
      match indexOf? cs ['\n'] with
      | some p => (⟨.code, d⟩ : ScanState).scan (cs.drop (p + 1)) (pos + p + 1)
      | none => .error .unbalancedBraces := by
  induction cs generalizing pos with
  | nil => rfl
  | cons x xs ih =>
    rw [indexOf?_cons]
    by_cases hx : x = '\n'
    · subst hx
      rw [scan_cons_of_step (by rfl)]
      simp
    · rw [scan_cons_of_step (show step ⟨.line, d⟩ x = some ⟨.line, d⟩ by simp [step, hx]), ih]
      simp only [List.length_singleton, List.take_succ_cons, List.take_zero, beq_iff_eq,
        List.cons.injEq, hx, false_and, if_false]
      cases indexOf? xs ['\n'] with
      | none => rfl
      | some p =>
        simp only [Option.map_some, List.drop_succ_cons]
        congr 1
        omega

theorem scan_star_of_head (d : Nat) {cs : List Char} (h : cs.head? ≠ some '/') (pos : Nat) :
    (⟨.star, d⟩ : ScanState).scan cs pos = (⟨.block, d⟩ : ScanState).scan cs pos := by
  cases cs with
  | nil => rfl
  | cons x xs =>
    have hx : x ≠ '/' := fun hx => h (by simp [hx])
    by_cases hstar : x = '*'
    · subst hstar
      rw [scan_cons_of_step (by rfl), scan_cons_of_step (by rfl)]
    · rw [scan_cons_of_step (show step ⟨.star, d⟩ x = some ⟨.block, d⟩ by simp [step, hx, hstar]),
        scan_cons_of_step (show step ⟨.block, d⟩ x = some ⟨.block, d⟩ by simp [step, hstar])]

theorem scan_block (d : Nat) (cs : List Char) (pos : Nat) :
    (⟨.block, d⟩ : ScanState).scan cs pos =
      match indexOf? cs ['*', '/'] with
      | some e => (⟨.code, d⟩ : ScanState).scan (cs.drop (e + 2)) (pos + e + 2)
      | none => .error .unterminatedComment := by
  induction cs generalizing pos with
  | nil => rfl
  | cons x xs ih =>
    rw [indexOf?_cons]
    by_cases hx : x = '*'
    · subst hx
      rw [scan_cons_of_step (by rfl)]
      -- after the star, a slash ends the comment; anything else leaves it open
      cases xs with
      | nil => rfl
      | cons y ys =>
        by_cases hy : y = '/'
        · subst hy
          rw [scan_cons_of_step (by rfl)]
          simp
        · rw [scan_star_of_head d (by simpa using hy), ih]
          simp only [List.length_cons, List.length_nil, List.take_succ_cons, List.take_zero,
            beq_iff_eq, List.cons.injEq, hy, false_and, and_false, if_false]
          cases indexOf? (y :: ys) ['*', '/'] with
          | none => rfl
          | some e =>
            simp only [Option.map_some, List.drop_succ_cons]
            congr 1
            omega
    · rw [scan_cons_of_step (show step ⟨.block, d⟩ x = some ⟨.block, d⟩ by simp [step, hx]), ih]
      simp only [List.length_cons, List.length_nil, List.take_succ_cons, beq_iff_eq,
        List.cons.injEq, hx, false_and, if_false]
      cases indexOf? xs ['*', '/'] with
      | none => rfl
      | some e =>
        simp only [Option.map_some, List.drop_succ_cons]
        congr 1
        omega

theorem scan_escape (q : Char) (d : Nat) (cs : List Char) (pos : Nat) :
    (⟨.escape q, d⟩ : ScanState).scan cs pos = (⟨.quote q, d⟩ : ScanState).scan cs.tail (pos + 1) := by
  cases cs with
  | nil => rfl
  | cons x xs => exact scan_cons_of_step rfl

theorem scan_slash_of_head (d : Nat) {cs : List Char} (h₁ : cs.head? ≠ some '/')
    (h₂ : cs.head? ≠ some '*') (pos : Nat) :
    (⟨.slash, d⟩ : ScanState).scan cs pos = (⟨.code, d⟩ : ScanState).scan cs pos := by
  cases cs with
  | nil => rfl
  | cons x xs =>
    have hx₁ : x ≠ '/' := fun hx => h₁ (by simp [hx])
    have hx₂ : x ≠ '*' := fun hx => h₂ (by simp [hx])
    have hstep : step ⟨.slash, d⟩ x = step ⟨.code, d⟩ x := by
      simp [step, hx₁, hx₂]
    simp only [scan, hstep]

def Settled (s : ScanState) : Prop :=
  s.depth = 1 ∧ (s.mode = .code ∨ s.mode = .slash ∨ s.mode = .line)

def Quoted (s : ScanState) : Prop :=
  ∀ q, s.mode = .quote q ∨ s.mode = .escape q → q = '"' ∨ q = '\'' ∨ q = '`'

theorem settled_of_step_eq_none (h : s.step c = none) : s.Settled := by
  obtain ⟨mode, d⟩ := s
  cases mode <;> simp only [step, inCode] at h <;> (repeat' split at h) <;> simp_all [Settled]

theorem Settled.run_newline (h : s.Settled) : s.run ['\n'] = some ⟨.code, 1⟩ := by
  obtain ⟨mode, d⟩ := s
  obtain ⟨rfl, hmode⟩ := h
  rcases hmode with rfl | rfl | rfl <;> rfl

theorem Quoted.step (hs : s.Quoted) (h : s.step c = some s') : s'.Quoted := by
  obtain ⟨mode, d⟩ := s
  intro q hq
  cases mode <;> simp only [step, inCode] at h <;> (try split_ifs at h) <;> cases h <;>
    simp_all [Quoted]

theorem Quoted.run (hs : s.Quoted) {xs : List Char} (h : s.run xs = some s') : s'.Quoted := by
  induction xs generalizing s with
  | nil =>
    rw [run_nil, Option.some.injEq] at h
    exact h ▸ hs
  | cons x xs ih =>
    rw [run_cons] at h
    obtain ⟨t, ht, hrun⟩ := Option.bind_eq_some_iff.mp h
    exact ih (hs.step ht) hrun

theorem code_quoted (d : Nat) : (⟨.code, d⟩ : ScanState).Quoted := by
  simp [Quoted]

theorem ne_of_isSpace (hc : Text.isSpace c) :
    c ≠ '"' ∧ c ≠ '\'' ∧ c ≠ '`' ∧ c ≠ '/' ∧ c ≠ '{' ∧ c ≠ '}' ∧ c ≠ '*' ∧ c ≠ '\\' := by
  refine ⟨?_, ?_, ?_, ?_, ?_, ?_, ?_, ?_⟩ <;> (rintro rfl; exact absurd hc (by decide))

theorem run_spaces_code {w : List Char} (hw : ∀ c ∈ w, Text.isSpace c) (d : Nat) :
    (⟨.code, d⟩ : ScanState).run w = some ⟨.code, d⟩ := by
  induction w with
  | nil => rfl
  | cons x xs ih =>
    obtain ⟨h1, h2, h3, h4, h5, h6, -⟩ := ne_of_isSpace (hw x List.mem_cons_self)
    rw [run_cons, show step ⟨.code, d⟩ x = some ⟨.code, d⟩ by simp [step, inCode, *],
      Option.bind_some, ih fun c hc => hw c (List.mem_cons_of_mem _ hc)]

theorem settled_of_step_space (hq : s.Quoted) (hc : Text.isSpace c) (h : s.step c = some s')
    (hs' : s'.Settled) : s.Settled := by
  obtain ⟨h1, h2, h3, h4, h5, h6, h7, h8⟩ := ne_of_isSpace hc
  obtain ⟨mode, d⟩ := s
  cases mode with
  | quote q =>
    have hq' := hq q (.inl rfl)
    have hcq : c ≠ q := by rintro rfl; rcases hq' with rfl | rfl | rfl <;> contradiction
    simp [step, h8, hcq] at h
    subst h
    simp [Settled] at hs'
  | escape q =>
    simp [step] at h
    subst h
    simp [Settled] at hs'
  | block =>
    simp [step, h7] at h
    subst h
    simp [Settled] at hs'
  | star =>
    simp [step, h4, h7] at h
    subst h
    simp [Settled] at hs'
  | code | slash | line =>
    simp only [step, inCode, h1, h2, h3, h4, h5, h6, h7, or_self, if_false] at h
    (repeat' split at h) <;> (simp only [Option.some.injEq] at h; subst h) <;>
      simp_all [Settled]

theorem settled_of_run_spaces {w : List Char} (hq : s.Quoted) (hw : ∀ c ∈ w, Text.isSpace c)
    (h : s.run w = some s') (hs' : s'.Settled) : s.Settled := by
  induction w generalizing s with
  | nil =>
    rw [run_nil, Option.some.injEq] at h
    exact h ▸ hs'
  | cons x xs ih =>
    rw [run_cons] at h
    obtain ⟨t, ht, hrun⟩ := Option.bind_eq_some_iff.mp h
    exact settled_of_step_space hq (hw x List.mem_cons_self) ht
      (ih (hq.step ht) (fun c hc => hw c (List.mem_cons_of_mem _ hc)) hrun)

end ScanState

def ScanMode.ofQuote : Option Char → ScanMode
  | none => .code
  | some q => .quote q

section Agreement

open ScanState

variable {body : List Char} {fuel i d : Nat}

def Agrees (body : List Char) (fuel i : Nat) : Prop :=
  ∀ j d q, i < j →
    matchBrace body.toArray fuel j d q = (⟨.ofQuote q, d⟩ : ScanState).scan (body.drop j) j

theorem matchBrace_quote_step (hi : i < body.length) (hnext : Agrees body fuel i) (q : Char) :
    matchBrace body.toArray (fuel + 1) i d (some q) = (⟨.quote q, d⟩ : ScanState).scan (body.drop i) i := by
  rw [List.drop_eq_getElem_cons hi]
  simp only [matchBrace, List.size_toArray, hi, dite_true, List.getElem_toArray]
  by_cases hb : body[i] = '\\'
  · -- the escaped character is skipped, whether or not there is one
    rw [if_pos hb, scan_cons_of_step (show step ⟨.quote q, d⟩ body[i] = some ⟨.escape q, d⟩ by
      simp [step, hb]), scan_escape, hnext (i + 2) d (some q) (by omega), ← List.tail_drop]
    rfl
  · rw [if_neg hb]
    by_cases hq : body[i] = q
    · rw [if_pos hq, scan_cons_of_step (show step ⟨.quote q, d⟩ body[i] = some ⟨.code, d⟩ by
        simp [step, hq, show q ≠ '\\' from hq ▸ hb])]
      exact hnext (i + 1) d none (by omega)
    · rw [if_neg hq, scan_cons_of_step (show step ⟨.quote q, d⟩ body[i] = some ⟨.quote q, d⟩ by
        simp [step, hb, hq])]
      exact hnext (i + 1) d (some q) (by omega)

theorem matchBrace_line (hi : i + 1 < body.length) (hs : body[i] = '/') (hs' : body[i + 1] = '/')
    (hnext : Agrees body fuel i) :
    (match indexOf? (body.drop i) ['\n'] with
      | some nl => matchBrace body.toArray fuel (i + nl + 1) d none
      | none => .error .unbalancedBraces) =
      (⟨.slash, d⟩ : ScanState).scan (body.drop (i + 1)) (i + 1) := by
  have hidx : indexOf? (body.drop i) ['\n'] = (indexOf? (body.drop (i + 2)) ['\n']).map (· + 2) := by
    rw [List.drop_eq_getElem_cons (by omega), List.drop_eq_getElem_cons hi, indexOf?_cons,
      indexOf?_cons, hs, hs']
    simp [Option.map_map, Function.comp_def]
  rw [List.drop_eq_getElem_cons hi, hs', scan_cons_of_step rfl, scan_line, hidx]
  cases indexOf? (body.drop (i + 2)) ['\n'] with
  | none => rfl
  | some p =>
    simp only [Option.map_some]
    rw [hnext _ d none (by omega), List.drop_drop]
    congr 2 <;> omega

theorem matchBrace_block (hi : i + 1 < body.length) (hs' : body[i + 1] = '*')
    (hnext : Agrees body fuel i) :
    (match indexOf? (body.drop (i + 2)) ['*', '/'] with
      | some e => matchBrace body.toArray fuel (i + e + 4) d none
      | none => .error .unterminatedComment) =
      (⟨.slash, d⟩ : ScanState).scan (body.drop (i + 1)) (i + 1) := by
  rw [List.drop_eq_getElem_cons hi, hs', scan_cons_of_step rfl, scan_block]
  cases indexOf? (body.drop (i + 2)) ['*', '/'] with
  | none => rfl
  | some e =>
    have hdrop : (body.drop (i + 1 + 1)).drop (e + 2) = body.drop (i + e + 4) := by
      rw [List.drop_drop]
      congr 1
      omega
    dsimp only
    rw [hnext _ d none (by omega), hdrop, show i + 1 + 1 + e + 2 = i + e + 4 by omega]
    rfl

theorem matchBrace_code_step (hi : i < body.length) (hnext : Agrees body fuel i) :
    matchBrace body.toArray (fuel + 1) i d none = (⟨.code, d⟩ : ScanState).scan (body.drop i) i := by
  simp only [matchBrace, List.size_toArray, hi, dite_true, List.getElem_toArray,
    List.getElem?_toArray]
  conv_rhs => rw [List.drop_eq_getElem_cons hi]
  by_cases hq : (body[i] = '"' ∨ body[i] = '\'') ∨ body[i] = '`'
  · rw [if_pos (by simpa using hq), scan_cons_of_step (show step ⟨.code, d⟩ body[i] =
      some ⟨.quote body[i], d⟩ by simp only [step, inCode, if_pos (or_assoc.mp hq)])]
    exact hnext (i + 1) d (some body[i]) (by omega)
  rw [if_neg (by simpa using hq)]
  by_cases hs : body[i] = '/'
  · -- after a slash, the next character decides between a comment and a plain slash
    rw [scan_cons_of_step (show step ⟨.code, d⟩ body[i] = some ⟨.slash, d⟩ by
      simp [step, inCode, hs])]
    by_cases hline : body[i + 1]? = some '/'
    · obtain ⟨hlt, hs'⟩ := List.getElem?_eq_some_iff.mp hline
      rw [if_pos (by simp [hs, hline])]
      exact matchBrace_line hlt hs hs' hnext
    by_cases hblock : body[i + 1]? = some '*'
    · obtain ⟨hlt, hs'⟩ := List.getElem?_eq_some_iff.mp hblock
      rw [if_neg (by simp [hline]), if_pos (by simp [hs, hblock])]
      exact matchBrace_block hlt hs' hnext
    rw [if_neg (by simp [hline]), if_neg (by simp [hblock]), if_neg (by simp [hs]),
      if_neg (by simp [hs]), scan_slash_of_head d (by rwa [List.head?_drop]) (by rwa [List.head?_drop])]
    exact hnext (i + 1) d none (by omega)
  rw [if_neg (by simp [hs]), if_neg (by simp [hs])]
  by_cases ho : body[i] = '{'
  · rw [if_pos ho, scan_cons_of_step (show step ⟨.code, d⟩ body[i] = some ⟨.code, d + 1⟩ by
      simp [step, inCode, ho])]
    exact hnext (i + 1) (d + 1) none (by omega)
  rw [if_neg ho]
  by_cases hc : body[i] = '}'
  · rw [if_pos hc]
    by_cases hd : d = 1
    · rw [if_pos hd, scan_cons_of_close (by simp [step, inCode, hc, hd])]
    · rw [if_neg hd, scan_cons_of_step (show step ⟨.code, d⟩ body[i] = some ⟨.code, d - 1⟩ by
        simp [step, inCode, hc, hd])]
      exact hnext (i + 1) (d - 1) none (by omega)
  rw [if_neg hc, scan_cons_of_step (show step ⟨.code, d⟩ body[i] = some ⟨.code, d⟩ by
    simp only [step, inCode, if_neg (or_assoc.not.mp hq), hs, ho, hc, if_false])]
  exact hnext (i + 1) d none (by omega)

/-- `matchBrace`, given fuel for every character left, is the scan. -/
theorem matchBrace_eq_scan (body : List Char) (fuel : Nat) :
    ∀ i d q, body.length < fuel + i →
      matchBrace body.toArray fuel i d q = (⟨.ofQuote q, d⟩ : ScanState).scan (body.drop i) i := by
  induction fuel with
  | zero =>
    intro i d q hfuel
    rw [List.drop_eq_nil_of_le (by omega)]
    cases q <;> rfl
  | succ fuel ih =>
    intro i d q hfuel
    by_cases hi : i < body.length
    · have hnext : Agrees body fuel i := fun j d q hj => ih j d q (by omega)
      cases q with
      | none => exact matchBrace_code_step hi hnext
      | some q => exact matchBrace_quote_step hi hnext q
    · rw [List.drop_eq_nil_of_le (by omega)]
      cases q <;> simp [matchBrace, hi, ScanState.endError, ScanMode.ofQuote]

end Agreement

end DruidQuery.Script
