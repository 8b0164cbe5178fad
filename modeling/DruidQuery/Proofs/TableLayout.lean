import Mathlib
import DruidQuery.Text.Table

namespace DruidQuery.Table

section Text

theorem length_le_utf8ByteSize (s : String) : s.length ≤ s.utf8ByteSize := by
  rw [← String.ofList_toList (s := s)]
  generalize s.toList = cs
  induction cs with
  | nil => simp
  | cons c cs ih =>
    rw [String.ofList_cons, String.utf8ByteSize_append, String.utf8ByteSize_singleton,
      String.length_append, String.length_singleton]
    have := c.utf8Size_pos
    omega

theorem foldl_eq_append_join {α : Type} {g : String → α → String} (f : α → String)
    (hg : ∀ acc x, g acc x = acc ++ f x) (init : String) (xs : List α) :
    xs.foldl g init = init ++ String.join (xs.map f) := by
  induction xs generalizing init with
  | nil => simp [String.join_nil]
  | cons x xs ih => rw [List.foldl_cons, ih, hg, List.map_cons, String.join_cons, String.append_assoc]

theorem newline_not_mem_toString (n : Nat) : '\n' ∉ (toString n).toList := by
  intro h
  rw [Nat.toString_eq_ofList_toDigits, String.toList_ofList] at h
  exact absurd (Nat.isDigit_of_mem_toDigits (by decide) (by decide) h) (by decide)

end Text

section Lines

def borderLine (ws : List Nat) : String :=
  "+" ++ String.join (ws.map fun w => String.ofList (List.replicate (w + 2) '-') ++ "+")

def rowLine (ws : List Nat) (cells : List String) : String :=
  "|" ++ String.join (ws.zipIdx.map fun (w, i) => " " ++ pad w (cells.getD i "") ++ " |")

def textLines (headings : List String) (rows : List (List String)) : List String :=
  let ws := widths headings rows
  [borderLine ws, rowLine ws headings, borderLine ws] ++ rows.map (rowLine ws) ++
    [borderLine ws, "(" ++ toString rows.length ++ " rows)"]

theorem border_eq (ws : List Nat) : border ws = borderLine ws ++ "\n" := by
  rw [border, borderLine]
  congr 1
  exact foldl_eq_append_join (fun w => String.ofList (List.replicate (w + 2) '-') ++ "+")
    (fun _ _ => String.append_assoc ..) _ _

theorem row_eq (ws : List Nat) (cells : List String) : row ws cells = rowLine ws cells ++ "\n" := by
  rw [row, rowLine]
  congr 1
  exact foldl_eq_append_join _ (fun _ _ => by simp only [String.append_assoc]) _ _

theorem render_eq_lines {headings : List String} (rows : List (List String)) (hne : headings ≠ []) :
    render headings rows = String.join ((textLines headings rows).map (· ++ "\n")) := by
  have hjoin : String.join (rows.map (row (widths headings rows))) =
      String.join ((rows.map (rowLine (widths headings rows))).map (· ++ "\n")) := by
    simp only [List.map_map]
    congr 1
    exact List.map_congr_left fun r _ => row_eq _ r
  have hcount : " rows)\n" = " rows)" ++ "\n" := rfl
  rw [render, if_neg (by simpa using hne)]
  dsimp only [textLines]
  rw [hjoin, hcount]
  simp only [border_eq, row_eq, List.map_append, List.map_cons, List.map_nil, String.join_append,
    String.join_cons, String.join_nil, String.append_empty, String.append_assoc]

theorem length_pad {w : Nat} {s : String} (h : s.length ≤ w) : (pad w s).length = w := by
  simp only [pad, String.length_append, String.length_ofList, List.length_replicate]
  omega

theorem length_borderLine (ws : List Nat) : (borderLine ws).length = 1 + (ws.map (· + 3)).sum := by
  have hplus : "+".length = 1 := rfl
  simp only [borderLine, String.length_append, String.length_join, List.map_map, hplus]
  congr 1
  -- a column's border is two more dashes than its width and a `+`
  refine congrArg List.sum (List.map_congr_left fun w _ => ?_)
  show (String.ofList _ ++ "+").length = w + 3
  rw [String.length_append, String.length_ofList, List.length_replicate, hplus]

theorem length_join_cells (cells : List String) (ws : List Nat) (k : Nat)
    (hfit : ∀ i w, ws[i]? = some w → (cells.getD (k + i) "").length ≤ w) :
    (String.join ((ws.zipIdx k).map fun (w, i) => " " ++ pad w (cells.getD i "") ++ " |")).length =
      (ws.map (· + 3)).sum := by
  induction ws generalizing k with
  | nil => simp [String.join_nil]
  | cons w ws ih =>
    have hhead : (cells.getD k "").length ≤ w := hfit 0 w rfl
    have htail := ih (k + 1) fun i w' hw' => by
      simpa [Nat.add_assoc, Nat.add_comm 1 i] using hfit (i + 1) w' hw'
    have hspace : " ".length = 1 := rfl
    have hbar : " |".length = 2 := rfl
    rw [List.zipIdx_cons, List.map_cons, String.join_cons, String.length_append, htail,
      List.map_cons, List.sum_cons]
    simp only [String.length_append, length_pad hhead, hspace, hbar]
    omega

theorem length_rowLine (ws : List Nat) (cells : List String)
    (hfit : ∀ i w, ws[i]? = some w → (cells.getD i "").length ≤ w) :
    (rowLine ws cells).length = 1 + (ws.map (· + 3)).sum := by
  have hbar : "|".length = 1 := rfl
  rw [rowLine, String.length_append, length_join_cells cells ws 0 (by simpa using hfit), hbar]

theorem newline_not_mem_borderLine (ws : List Nat) : '\n' ∉ (borderLine ws).toList := by
  simp [borderLine, String.toList_append, String.toList_join, List.mem_flatMap, List.mem_replicate]

theorem newline_not_mem_rowLine (ws : List Nat) {cells : List String}
    (hcells : ∀ c ∈ cells, '\n' ∉ c.toList) : '\n' ∉ (rowLine ws cells).toList := by
  have hcell (i : Nat) : '\n' ∉ (cells.getD i "").toList := by
    rw [List.getD_eq_getElem?_getD]
    cases hget : cells[i]? with
    | none => simp
    | some c => exact hcells c (List.mem_of_getElem? hget)
  intro h
  simp only [rowLine, String.toList_append, String.toList_join, List.mem_append, List.mem_flatMap,
    List.mem_map] at h
  rcases h with h | ⟨_, ⟨⟨w, i⟩, -, rfl⟩, h⟩
  · exact absurd h (by decide)
  · simp only [pad, String.toList_append, String.toList_ofList, List.mem_append,
      List.mem_replicate] at h
    rcases h with (h | h | h) | h
    · exact absurd h (by decide)
    · exact hcell i h
    · exact absurd h.2 (by decide)
    · exact absurd h (by decide)

end Lines

section Widths

theorem foldr_max_le_iff {l : List Nat} {a m : Nat} :
    l.foldr max a ≤ m ↔ a ≤ m ∧ ∀ x ∈ l, x ≤ m := by
  induction l with
  | nil => simp
  | cons x l ih =>
    rw [List.foldr_cons, Nat.max_le, ih]
    simp only [List.mem_cons, forall_eq_or_imp]
    tauto

theorem foldl_max_le_iff {α : Type} {g : α → Nat} {l : List α} {a m : Nat} :
    l.foldl (fun w s => max w (g s)) a ≤ m ↔ a ≤ m ∧ ∀ s ∈ l, g s ≤ m := by
  induction l generalizing a with
  | nil => simp
  | cons s l ih => simp only [List.foldl_cons, ih, Nat.max_le, List.mem_cons, forall_eq_or_imp, and_assoc]

theorem utf8ByteSize_getD_le_iff {r : List String} {i m : Nat} :
    (r.getD i "").utf8ByteSize ≤ m ↔ ∀ c, r[i]? = some c → c.utf8ByteSize ≤ m := by
  rw [List.getD_eq_getElem?_getD]
  cases r[i]? with
  | none => simp
  | some c => simp

variable {rows : List (List String)}

theorem columnWidth_le_iff {heading : String} {i m : Nat} :
    columnWidth heading rows i ≤ m ↔
      4 ≤ m ∧ heading.utf8ByteSize ≤ m ∧ ∀ r ∈ rows, (r.getD i "").utf8ByteSize ≤ m := by
  simp only [columnWidth, Nat.max_le, foldl_max_le_iff, List.mem_cons, forall_eq_or_imp,
    List.mem_filterMap, utf8ByteSize_getD_le_iff]
  constructor
  · rintro ⟨h4, -, hh, hcells⟩
    exact ⟨h4, hh, fun r hr c hc => hcells c ⟨r, hr, hc⟩⟩
  · rintro ⟨h4, hh, hcells⟩
    exact ⟨h4, Nat.zero_le _, hh, fun c ⟨r, hr, hc⟩ => hcells r hr c hc⟩

theorem utf8ByteSize_le_columnWidth (heading : String) (i : Nat) :
    heading.utf8ByteSize ≤ columnWidth heading rows i :=
  (columnWidth_le_iff.mp (Nat.le_refl _)).2.1

theorem cell_utf8ByteSize_le_columnWidth {r : List String} (heading : String) (i : Nat)
    (hr : r ∈ rows) : (r.getD i "").utf8ByteSize ≤ columnWidth heading rows i :=
  (columnWidth_le_iff.mp (Nat.le_refl _)).2.2 r hr

theorem columnWidth_eq (heading : String) (i : Nat) :
    columnWidth heading rows i =
      (rows.map fun r => (r.getD i "").utf8ByteSize).foldr max (max 4 heading.utf8ByteSize) := by
  have hle (m : Nat) : columnWidth heading rows i ≤ m ↔
      (rows.map fun r => (r.getD i "").utf8ByteSize).foldr max (max 4 heading.utf8ByteSize) ≤ m := by
    simp only [columnWidth_le_iff, foldr_max_le_iff, Nat.max_le, List.mem_map, forall_exists_index,
      and_imp, forall_apply_eq_imp_iff₂, and_assoc]
  exact Nat.le_antisymm ((hle _).mpr (Nat.le_refl _)) ((hle _).mp (Nat.le_refl _))

variable (rows) in
theorem getElem?_widths (headings : List String) (i : Nat) :
    (widths headings rows)[i]? = headings[i]?.map fun heading => columnWidth heading rows i := by
  simp [widths, List.getElem?_zipIdx, Option.map_map, Function.comp_def]

variable (rows) in
theorem widths_eq (headings : List String) :
    widths headings rows =
      (List.range headings.length).map fun i => columnWidth (headings.getD i "") rows i := by
  apply List.ext_getElem?
  intro i
  rw [getElem?_widths, List.getElem?_map]
  by_cases hi : i < headings.length
  · rw [List.getElem?_range hi, List.getElem?_eq_getElem hi]
    simp [List.getD_eq_getElem?_getD, List.getElem?_eq_getElem hi]
  · rw [List.getElem?_eq_none (by simpa using hi), List.getElem?_eq_none (by simpa using hi)]
    rfl

theorem zipIdx_map_range {α : Type} (n : Nat) (f : Nat → α) :
    ((List.range n).map f).zipIdx = (List.range n).map fun i => (f i, i) := by
  apply List.ext_getElem?
  intro i
  by_cases hi : i < n
  · simp [List.getElem?_zipIdx, List.getElem?_range hi]
  · have hnone : (List.range n)[i]? = none := List.getElem?_eq_none (by simp; omega)
    simp [List.getElem?_zipIdx, hnone]

end Widths

section Layout

variable {headings : List String} {rows : List (List String)}

theorem headings_fit (i w : Nat) (hw : (widths headings rows)[i]? = some w) :
    (headings.getD i "").length ≤ w := by
  rw [getElem?_widths, Option.map_eq_some_iff] at hw
  obtain ⟨heading, hh, rfl⟩ := hw
  rw [List.getD_eq_getElem?_getD, hh, Option.getD_some]
  exact Nat.le_trans (length_le_utf8ByteSize _) (utf8ByteSize_le_columnWidth _ _)

theorem row_fits {r : List String} (hr : r ∈ rows) (i w : Nat)
    (hw : (widths headings rows)[i]? = some w) : (r.getD i "").length ≤ w := by
  rw [getElem?_widths, Option.map_eq_some_iff] at hw
  obtain ⟨heading, -, rfl⟩ := hw
  exact Nat.le_trans (length_le_utf8ByteSize _) (cell_utf8ByteSize_le_columnWidth _ _ hr)

theorem newline_not_mem_textLines (hheadings : ∀ h ∈ headings, '\n' ∉ h.toList)
    (hcells : ∀ r ∈ rows, ∀ c ∈ r, '\n' ∉ c.toList) :
    ∀ l ∈ textLines headings rows, '\n' ∉ l.toList := by
  intro l hl
  simp only [textLines, List.cons_append, List.mem_cons, List.mem_append, List.mem_map,
    List.not_mem_nil, or_false, false_or] at hl
  rcases hl with rfl | rfl | rfl | ⟨r, hr, rfl⟩ | rfl | rfl
  · exact newline_not_mem_borderLine _
  · exact newline_not_mem_rowLine _ hheadings
  · exact newline_not_mem_borderLine _
  · exact newline_not_mem_rowLine _ (hcells r hr)
  · exact newline_not_mem_borderLine _
  · simp only [String.toList_append, List.mem_append, not_or]
    exact ⟨⟨by decide, newline_not_mem_toString _⟩, by decide⟩

theorem textLines_eq_concat (headings : List String) (rows : List (List String)) :
    textLines headings rows =
      ([borderLine (widths headings rows), rowLine (widths headings rows) headings,
        borderLine (widths headings rows)] ++ rows.map (rowLine (widths headings rows)) ++
        [borderLine (widths headings rows)]) ++ ["(" ++ toString rows.length ++ " rows)"] := by
  simp [textLines]

theorem length_textLines_dropLast :
    ∀ l ∈ (textLines headings rows).dropLast,
      l.length = 1 + ((widths headings rows).map (· + 3)).sum := by
  intro l hl
  rw [textLines_eq_concat, List.dropLast_concat] at hl
  simp only [List.cons_append, List.mem_cons, List.mem_append, List.mem_map,
    List.not_mem_nil, or_false, false_or] at hl
  rcases hl with rfl | rfl | rfl | ⟨r, hr, rfl⟩ | rfl
  · exact length_borderLine _
  · exact length_rowLine _ _ headings_fit
  · exact length_borderLine _
  · exact length_rowLine _ _ (row_fits hr)
  · exact length_borderLine _

/-- Bordered tables stay aligned. With at least one heading and no line break in any cell, a
table of `n` rows is `n + 5` lines; all but the last, the count of rows, have the same number of
characters, one more than the widths of the columns and three per column, where a column is as
wide in bytes as the widest of four, its heading and its cells; and the line of each row shows,
column by column, the row's cell or an empty one, padded to the column's width. -/
theorem bordered_table_aligned (headings : List String) (rows : List (List String))
    (hne : headings ≠ []) (hheadings : ∀ h ∈ headings, '\n' ∉ h.toList)
    (hcells : ∀ r ∈ rows, ∀ c ∈ r, '\n' ∉ c.toList) :
    (let w : Nat → Nat := fun i =>
      (rows.map fun r => (r.getD i "").utf8ByteSize).foldr max (max 4 (headings.getD i "").utf8ByteSize)
    let columns := List.range headings.length
    ∃ lines : List String,
      render headings rows = String.join (lines.map (· ++ "\n")) ∧
      lines.length = rows.length + 5 ∧
      (∀ l ∈ lines, '\n' ∉ l.toList) ∧
      (∀ l ∈ lines.dropLast, l.length = 1 + (columns.map fun i => w i + 3).sum) ∧
      lines.getLast? = some ("(" ++ toString rows.length ++ " rows)") ∧
      ∀ k r, rows[k]? = some r → lines[k + 3]? = some ("|" ++ String.join (columns.map fun i =>
        " " ++ r.getD i "" ++ String.ofList (List.replicate (w i - (r.getD i "").length) ' ') ++
          " |"))) := by
  intro w columns
  have hws : widths headings rows = columns.map w := by
    rw [widths_eq]
    exact List.map_congr_left fun i _ => columnWidth_eq _ i
  refine ⟨textLines headings rows, render_eq_lines rows hne, by simp [textLines],
    newline_not_mem_textLines hheadings hcells, ?_,
    by rw [textLines_eq_concat, List.getLast?_concat], ?_⟩
  · intro l hl
    rw [length_textLines_dropLast l hl, hws, List.map_map]
    rfl
  · intro k r hr
    have hline : (textLines headings rows)[k + 3]? = some (rowLine (widths headings rows) r) := by
      have hk : k < rows.length := (List.getElem?_eq_some_iff.mp hr).1
      simp [textLines, List.getElem?_append_left (by simpa using hk : k < (rows.map _).length), hr]
    rw [hline, rowLine, hws, zipIdx_map_range, List.map_map]
    simp [pad, String.append_assoc, Function.comp_def, columns]

theorem findings_table_aligned :
    ["field", "message"] ≠ [] ∧ (∀ h ∈ ["field", "message"], '\n' ∉ h.toList) ∧
    (∀ r ∈ [["aggregations[0]", "may not be blank"], ["é"]], ∀ c ∈ r, '\n' ∉ c.toList) ∧
    (let headings := ["field", "message"]
    let rows := [["aggregations[0]", "may not be blank"], ["é"]]
    let w : Nat → Nat := fun i =>
      (rows.map fun r => (r.getD i "").utf8ByteSize).foldr max (max 4 (headings.getD i "").utf8ByteSize)
    let columns := List.range headings.length
    ∃ lines : List String,
      render headings rows = String.join (lines.map (· ++ "\n")) ∧
      lines.length = rows.length + 5 ∧
      (∀ l ∈ lines, '\n' ∉ l.toList) ∧
      (∀ l ∈ lines.dropLast, l.length = 1 + (columns.map fun i => w i + 3).sum) ∧
      lines.getLast? = some ("(" ++ toString rows.length ++ " rows)") ∧
      ∀ k r, rows[k]? = some r → lines[k + 3]? = some ("|" ++ String.join (columns.map fun i =>
        " " ++ r.getD i "" ++ String.ofList (List.replicate (w i - (r.getD i "").length) ' ') ++
          " |"))) :=
  ⟨by decide, by decide, by decide,
    bordered_table_aligned ["field", "message"] [["aggregations[0]", "may not be blank"], ["é"]]
      (by decide) (by decide) (by decide)⟩

end Layout

end DruidQuery.Table
