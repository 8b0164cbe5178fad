import Mathlib
import DruidQuery.Proofs.CivilDates
import DruidQuery.Proofs.ComparisonScripts
import DruidQuery.Query.Interval

namespace DruidQuery.Time

def decimal : Nat → Nat → List Char
  | 0, _ => []
  | w + 1, n => decimal w (n / 10) ++ [Nat.digitChar (n % 10)]

theorem decimal_zero (w : Nat) : decimal w 0 = List.replicate w '0' := by
  induction w with
  | zero => rfl
  | succ w ih => simp [decimal, ih, List.replicate_succ']

theorem toDigits_padded (w n : Nat) (h : n < 10 ^ (w + 1)) :
    List.replicate (w + 1 - (Nat.toDigits 10 n).length) '0' ++ Nat.toDigits 10 n =
      decimal (w + 1) n := by
  induction w generalizing n with
  | zero =>
    have hn : n < 10 := by simpa using h
    simp [Nat.toDigits_of_lt_base hn, decimal, Nat.mod_eq_of_lt hn]
  | succ w ih =>
    rw [Nat.toDigits_eq_if (by decide)]
    split
    · rename_i hn
      rw [decimal, Nat.div_eq_of_lt hn, Nat.mod_eq_of_lt hn, decimal_zero]
      simp
    · rename_i hn
      have hq : n / 10 < 10 ^ (w + 1) := by rw [Nat.pow_succ] at h; omega
      rw [decimal, ← ih (n / 10) hq]
      simp

theorem padded_natCast (w n : Nat) (h : n < 10 ^ (w + 1)) :
    (padded (w + 1) (n : Int)).toList = decimal (w + 1) n := by
  unfold padded
  rw [if_neg (by omega)]
  simp only [Int.natAbs_natCast, Nat.toString_eq_repr, String.toList_append, String.toList_ofList,
    ← String.length_toList, Nat.toList_repr]
  exact toDigits_padded w n h

theorem decimal_two (n : Nat) : decimal 2 n = [Nat.digitChar (n / 10 % 10), Nat.digitChar (n % 10)] := by
  simp [decimal]

theorem decimal_four (n : Nat) :
    decimal 4 n = [Nat.digitChar (n / 1000 % 10), Nat.digitChar (n / 100 % 10),
      Nat.digitChar (n / 10 % 10), Nat.digitChar (n % 10)] := by
  simp [decimal, Nat.div_div_eq_div_mul]

theorem digitAt_digitChar {k : Nat} (hk : k < 10) (cs : List Char) :
    digitAt (Nat.digitChar k :: cs) 0 = some k := by
  simp [digitAt, Nat.isDigit_digitChar, hk, Nat.toNat_digitChar_sub_48_of_lt_ten hk]

theorem digitAt_cons_succ (c : Char) (cs : List Char) (i : Nat) :
    digitAt (c :: cs) (i + 1) = digitAt cs i := rfl

theorem twoDigits_decimal {n : Nat} (h : n < 100) (rest : List Char) :
    twoDigits (decimal 2 n ++ rest) = some (n, rest) := by
  rw [decimal_two]
  simp [twoDigits, digitAt_cons_succ, digitAt_digitChar (k := n / 10 % 10) (by omega),
    digitAt_digitChar (k := n % 10) (by omega)]
  omega

theorem oneOrTwoDigits_decimal {n : Nat} (h : n < 100) (rest : List Char) :
    oneOrTwoDigits (decimal 2 n ++ rest) = some (n, rest) := by
  rw [decimal_two]
  simp [oneOrTwoDigits, digitAt_cons_succ, digitAt_digitChar (k := n / 10 % 10) (by omega),
    digitAt_digitChar (k := n % 10) (by omega)]
  omega

section Pieces

variable (ps : Layout) (rest : List Char) (r : Reading)

theorem readPieces_literal (c : Char) :
    readPieces (.literal c :: ps) (c :: rest) r = readPieces ps rest r := by
  simp [readPieces]

theorem readPieces_year {y : Nat} (h : y < 10000) :
    readPieces (.year :: ps) (decimal 4 y ++ rest) r = readPieces ps rest { r with year := y } := by
  have hv : y / 1000 % 10 * 1000 + y / 100 % 10 * 100 + y / 10 % 10 * 10 + y % 10 = y := by omega
  rw [decimal_four]
  simp [readPieces, digitAt_cons_succ, digitAt_digitChar (k := y / 1000 % 10) (by omega),
    digitAt_digitChar (k := y / 100 % 10) (by omega), digitAt_digitChar (k := y / 10 % 10) (by omega),
    digitAt_digitChar (k := y % 10) (by omega), hv]

theorem readPieces_month {m : Nat} (h1 : 1 ≤ m) (h12 : m ≤ 12) :
    readPieces (.month :: ps) (decimal 2 m ++ rest) r = readPieces ps rest { r with month := m } := by
  simp [readPieces, twoDigits_decimal (show m < 100 by omega) rest]
  omega

theorem readPieces_day {d : Nat} (h : d < 100) :
    readPieces (.day :: ps) (decimal 2 d ++ rest) r = readPieces ps rest { r with day := d } := by
  simp [readPieces, twoDigits_decimal h rest]

theorem readPieces_hour {h : Nat} (hh : h < 24) :
    readPieces (.hour :: ps) (decimal 2 h ++ rest) r = readPieces ps rest { r with hour := h } := by
  simp [readPieces, oneOrTwoDigits_decimal (show h < 100 by omega) rest]
  omega

theorem readPieces_minute {m : Nat} (h : m < 60) :
    readPieces (.minute :: ps) (decimal 2 m ++ rest) r = readPieces ps rest { r with minute := m } := by
  simp [readPieces, twoDigits_decimal (show m < 100 by omega) rest]
  omega

theorem readPieces_fraction_of_none (h : fractionAt rest = none) :
    readPieces (.fraction :: ps) rest r = readPieces ps rest r := by
  simp [readPieces, h]

end Pieces

theorem padded_two {n : Nat} (h : n < 100) : (padded 2 (n : Int)).toList = decimal 2 n :=
  padded_natCast 1 n h

theorem padded_year {y : Int} (h0 : 0 ≤ y) (h1 : y ≤ 9999) :
    (padded 4 y).toList = decimal 4 y.toNat := by
  obtain ⟨n, rfl⟩ := Int.eq_ofNat_of_zero_le h0
  exact padded_natCast 3 n (by omega)

theorem isSpace_digitChar : ∀ k < 10, Text.isSpace (Nat.digitChar k) = false := by
  decide

theorem daysIn_le_31 (m : Nat) (y : Int) : daysIn m y ≤ 31 := by
  unfold daysIn
  split <;> (try split) <;> omega

theorem splitOnAux_singleton (c : Char) (l m r : List Char) (acc : List String) :
    String.splitOnAux (String.ofList (l ++ m ++ r)) (String.singleton c) ⟨String.utf8Len l⟩
      ⟨String.utf8Len l + String.utf8Len m⟩ 0 acc =
      acc.reverse ++ (List.splitOnPPrepend (· == c) r m.reverse).map String.ofList := by
  rw [String.splitOnAux]
  cases r with
  | nil =>
    have hend : (⟨String.utf8Len l + String.utf8Len m⟩ : String.Pos.Raw).atEnd
        (String.ofList (l ++ m ++ [])) := by
      simpa [String.utf8Len_append] using (String.atEnd_of_valid (l ++ m) []).mpr rfl
    rw [if_pos hend]
    simpa using String.extract_of_valid l m []
  | cons d r =>
    have hnot : ¬(⟨String.utf8Len l + String.utf8Len m⟩ : String.Pos.Raw).atEnd
        (String.ofList (l ++ m ++ d :: r)) := by
      simpa [String.utf8Len_append] using (String.atEnd_of_valid (l ++ m) (d :: r)).not.mpr (by simp)
    have hget : (⟨String.utf8Len l + String.utf8Len m⟩ : String.Pos.Raw).get
        (String.ofList (l ++ m ++ d :: r)) = d := by
      simpa [String.utf8Len_append] using String.get_of_valid (l ++ m) (d :: r)
    have hnext : (⟨String.utf8Len l + String.utf8Len m⟩ : String.Pos.Raw).next
        (String.ofList (l ++ m ++ d :: r)) = ⟨String.utf8Len l + String.utf8Len m + d.utf8Size⟩ := by
      simpa [String.utf8Len_append] using String.next_of_valid (l ++ m) d r
    have hsep : String.Pos.Raw.get (String.singleton c) 0 = c := by
      rw [String.Pos.Raw.get, String.toList_singleton]
      rfl
    rw [if_neg hnot, hget, hsep]
    by_cases hdc : d = c
    · -- the separator closes the piece `m`; the scan goes on after it with an empty piece
      subst hdc
      have hj : String.Pos.Raw.next (String.singleton d) 0 = ⟨d.utf8Size⟩ := by
        simp only [String.Pos.Raw.next, hsep]
        ext
        simp
      have hjend : String.Pos.Raw.atEnd (String.singleton d) ⟨d.utf8Size⟩ = true := by
        simp [String.Pos.Raw.atEnd]
      have hun : (⟨String.utf8Len l + String.utf8Len m + d.utf8Size⟩ : String.Pos.Raw).unoffsetBy
          ⟨d.utf8Size⟩ = ⟨String.utf8Len l + String.utf8Len m⟩ := by
        ext
        simp [String.Pos.Raw.unoffsetBy]
      rw [if_pos (beq_self_eq_true d)]
      dsimp only
      rw [hnext, hj, if_pos hjend, hun, String.extract_of_valid l m (d :: r)]
      have ih := splitOnAux_singleton d (l ++ m ++ [d]) [] r (String.ofList m :: acc)
      rw [List.splitOnPPrepend_cons_pos (by simp)]
      simpa [String.utf8Len_append, List.append_assoc, Nat.add_assoc] using ih
    · -- any other character joins the piece
      have hzero : (⟨String.utf8Len l + String.utf8Len m⟩ : String.Pos.Raw).unoffsetBy 0 =
          ⟨String.utf8Len l + String.utf8Len m⟩ := by
        ext
        simp [String.Pos.Raw.unoffsetBy]
      rw [if_neg (by simpa using hdc), hzero, hnext]
      have ih := splitOnAux_singleton c l (m ++ [d]) r acc
      rw [List.splitOnPPrepend_cons_neg (by simpa using hdc)]
      simpa [String.utf8Len_append, List.append_assoc, Nat.add_assoc] using ih

theorem splitOn_singleton (s : String) (c : Char) :
    s.splitOn (String.singleton c) = (s.toList.splitOnP (· == c)).map String.ofList := by
  have hne : String.singleton c ≠ "" := fun h => by simpa using congrArg String.toList h
  rw [String.splitOn, if_neg (by simp [hne])]
  simpa using splitOnAux_singleton c [] [] s.toList []

theorem beq_false_of_not_mem {l : List Char} {c : Char} (h : c ∉ l) : ∀ x ∈ l, (x == c) = false :=
  fun _ hx => beq_false_of_ne fun he => h (he ▸ hx)

end DruidQuery.Time
