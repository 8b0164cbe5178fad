import Mathlib
import DruidQuery.Finding

namespace DruidQuery

section Join

@[simp]
theorem joinPath_empty_left (child : String) : joinPath "" child = child := by
  simp [joinPath]

@[simp]
theorem joinPath_empty_right (parent : String) : joinPath parent "" = parent := by
  unfold joinPath
  split <;> simp_all

theorem joinPath_of_ne_empty {parent child : String} (hp : parent ≠ "") (hc : child ≠ "") :
    joinPath parent child = parent ++ (if child.startsWith "[" then "" else ".") ++ child := by
  unfold joinPath
  rw [if_neg (by simpa using hp), if_neg (by simpa using hc)]
  split <;> simp

theorem joinPath_ne_empty {parent : String} (child : String) (hp : parent ≠ "") :
    joinPath parent child ≠ "" := by
  by_cases hc : child = ""
  · simpa [hc] using hp
  · rw [joinPath_of_ne_empty hp hc]
    intro h
    exact hp (String.append_eq_empty_iff.mp (String.append_eq_empty_iff.mp h).1).1

theorem startsWith_bracket_append {p : String} (s : String) (hp : p ≠ "") :
    (p ++ s).startsWith "[" = p.startsWith "[" := by
  obtain ⟨c, t, hct⟩ := List.exists_cons_of_ne_nil (by simpa using hp : p.toList ≠ [])
  rw [Bool.eq_iff_iff, String.startsWith_string_iff, String.startsWith_string_iff,
    String.toList_append, hct]
  simp

theorem startsWith_bracket_joinPath {parent : String} (child : String) (hp : parent ≠ "") :
    (joinPath parent child).startsWith "[" = parent.startsWith "[" := by
  by_cases hc : child = ""
  · simp [hc]
  · rw [joinPath_of_ne_empty hp hc, String.append_assoc, startsWith_bracket_append _ hp]

theorem joinPath_assoc (p q r : String) : joinPath (joinPath p q) r = joinPath p (joinPath q r) := by
  by_cases hp : p = ""
  · simp [hp]
  by_cases hq : q = ""
  · simp [hq]
  by_cases hr : r = ""
  · simp [hr]
  -- all three nonempty: the separator before `r` is fixed by `r`, the one before `q` by the
  -- first character of `q`, which `joinPath q r` keeps
  rw [joinPath_of_ne_empty (joinPath_ne_empty q hp) hr, joinPath_of_ne_empty hp hq,
    joinPath_of_ne_empty hp (joinPath_ne_empty r hq), startsWith_bracket_joinPath r hq,
    joinPath_of_ne_empty hq hr]
  simp only [String.append_assoc]

theorem foldr_joinPath (segs : List String) (last : String) :
    segs.foldr joinPath last = joinPath (segs.foldr joinPath "") last := by
  induction segs with
  | nil => simp
  | cons s segs ih => rw [List.foldr_cons, List.foldr_cons, ih, joinPath_assoc]

theorem indexPath_eq_joinPath (field : String) (i : Int) :
    indexPath field i = joinPath field ("[" ++ toString i ++ "]") := by
  by_cases hf : field = ""
  · simp [hf, indexPath]
  · have hopen : ("[" ++ toString i ++ "]").startsWith "[" = true := by
      simp [String.startsWith_string_iff, String.toList_append]
    rw [joinPath_of_ne_empty hf (by simp), if_pos hopen, indexPath]
    simp only [String.append_empty, String.append_assoc]

end Join

section Qualify

@[simp]
theorem qualify_empty (findings : List Finding) : qualify "" findings = findings := by
  simp [qualify]

theorem qualify_qualify (p q : String) (findings : List Finding) :
    qualify p (qualify q findings) = qualify (joinPath p q) findings := by
  simp [qualify, joinPath_assoc]

theorem foldr_qualify (prefixes : List String) (findings : List Finding) :
    prefixes.foldr qualify findings = qualify (prefixes.foldr joinPath "") findings := by
  induction prefixes with
  | nil => simp
  | cons p prefixes ih => rw [List.foldr_cons, List.foldr_cons, ih, qualify_qualify]

/-- Path qualification is associative: joining is a monoid with the empty path as unit,
qualifying twice is qualifying by the joined prefix, and a finding reported through any cascade
of groups of segments ends at the join of all the segments on its way and its own field. -/
theorem path_qualification_associative :
    (∀ p q r : String, joinPath (joinPath p q) r = joinPath p (joinPath q r)) ∧
    (∀ p : String, joinPath "" p = p ∧ joinPath p "" = p) ∧
    (∀ (p q : String) (findings : List Finding),
      qualify p (qualify q findings) = qualify (joinPath p q) findings) ∧
    (∀ (groups : List (List String)) (findings : List Finding),
      (groups.map (·.foldr joinPath "")).foldr qualify findings =
        findings.map fun f => ⟨(groups.flatten ++ [f.field]).foldr joinPath "", f.message⟩) := by
  refine ⟨joinPath_assoc, fun p => ⟨joinPath_empty_left p, joinPath_empty_right p⟩,
    qualify_qualify, fun groups findings => ?_⟩
  -- each group is one level of the cascade, qualifying by the join of its own segments
  have hlevels : (groups.map (·.foldr joinPath "")).foldr joinPath "" =
      groups.flatten.foldr joinPath "" := by
    induction groups with
    | nil => simp
    | cons g groups ih =>
      rw [List.map_cons, List.foldr_cons, ih, List.flatten_cons, List.foldr_append,
        foldr_joinPath g (groups.flatten.foldr joinPath "")]
  rw [foldr_qualify, hlevels, qualify]
  refine List.map_congr_left fun f _ => ?_
  rw [List.foldr_append, List.foldr_cons, List.foldr_nil, joinPath_empty_right,
    ← foldr_joinPath]

end Qualify

end DruidQuery
