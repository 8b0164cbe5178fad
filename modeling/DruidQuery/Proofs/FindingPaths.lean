import Mathlib
import DruidQuery.Proofs.AbsentNodes
/-!
Every finding of a record names, by object keys and list indices, a place of the record's own
document.
-/

namespace DruidQuery

inductive Doc where
  | record (entries : List (String × Doc))
  | list (items : List Doc)
  | leaf

inductive Seg where
  | key (k : String)
  | index (i : Nat)

def isKey (k : String) : Bool := !k.isEmpty && k.toList.all Char.isAlpha

namespace Doc

def ofOption {α : Type} (f : α → Doc) : Option α → Doc
  | none => .leaf
  | some a => f a

def leaves {α : Type} (xs : List α) : Doc := .list (xs.map fun _ => .leaf)

def keys : Doc → List String
  | .record entries => entries.map Prod.fst
  | _ => []

def Keyed (d : Doc) (j : Json) : Prop :=
  ∃ fields : List (String × Option Json), j = .record fields ∧ d.keys = fields.map Prod.fst

inductive Path : Doc → List Seg → Prop
  | here (d : Doc) : Path d []
  | key {entries : List (String × Doc)} {k : String} {d : Doc} {rest : List Seg} :
      (k, d) ∈ entries → isKey k → Path d rest → Path (.record entries) (.key k :: rest)
  | index {items : List Doc} {i : Nat} {d : Doc} {rest : List Seg} :
      items[i]? = some d → Path d rest → Path (.list items) (.index i :: rest)

end Doc

def Seg.text : Seg → String
  | .key k => "." ++ k
  | .index i => "[" ++ toString i ++ "]"

def pathText : List Seg → String
  | [] => ""
  | .key k :: rest => k ++ String.join (rest.map Seg.text)
  | .index i :: rest => String.join ((Seg.index i :: rest).map Seg.text)

/-- A path text names a place of the document. -/
def Doc.Locates (d : Doc) (path : String) : Prop := ∃ segs, d.Path segs ∧ path = pathText segs

section Paths

theorem isKey_ne_empty {k : String} (hk : isKey k) : k ≠ "" := by
  rintro rfl
  simp [isKey] at hk

theorem not_startsWith_bracket {k : String} (s : String) (hk : isKey k) :
    (k ++ s).startsWith "[" = false := by
  simp only [isKey, Bool.and_eq_true, Bool.not_eq_true', List.all_eq_true] at hk
  obtain ⟨c, t, hct⟩ := List.exists_cons_of_ne_nil (by simpa using hk.1 : k.toList ≠ [])
  have hc : c ≠ '[' := by
    rintro rfl
    exact absurd (hk.2 '[' (by simp [hct])) (by decide)
  rw [String.startsWith_string_eq_false_iff, String.toList_append, hct]
  simpa using hc.symm

theorem joinPath_key {p k : String} (hp : p ≠ "") (hk : isKey k) : joinPath p k = p ++ "." ++ k := by
  have hbracket := not_startsWith_bracket "" hk
  rw [String.append_empty] at hbracket
  unfold joinPath
  rw [if_neg (by simpa using hp), if_neg (by simpa using isKey_ne_empty hk),
    if_neg (by simp [hbracket])]

theorem joinPath_pathText {k : String} {p q : List Seg} (hk : isKey k)
    (hq : ∀ k' rest, q = .key k' :: rest → isKey k') :
    joinPath (pathText (.key k :: p)) (pathText q) = pathText (.key k :: (p ++ q)) := by
  have hparent : pathText (.key k :: p) ≠ "" := by
    simp [pathText, isKey_ne_empty hk]
  unfold joinPath
  rw [if_neg (by simpa using hparent)]
  cases q with
  | nil => simp [pathText]
  | cons s rest =>
    cases s with
    | key k' =>
      have hk' := hq k' rest rfl
      rw [if_neg (by simp [pathText, isKey_ne_empty hk']), pathText, not_startsWith_bracket _ hk']
      simp [pathText, Seg.text, String.join_cons, String.append_assoc]
    | index i =>
      have hopen : (pathText (.index i :: rest)).startsWith "[" = true := by
        simp [pathText, Seg.text, String.join_cons, String.startsWith_string_iff,
          String.toList_append]
      rw [if_neg (by simp [pathText, Seg.text, String.join_cons]), if_pos hopen]
      simp [pathText, Seg.text, String.join_cons, String.append_assoc]

theorem Doc.Path.head_isKey {d : Doc} {segs : List Seg} (h : d.Path segs) :
    ∀ k rest, segs = .key k :: rest → isKey k := by
  intro k rest hsegs
  subst hsegs
  cases h
  assumption

theorem indexPath_eq (field : String) (i : Nat) :
    indexPath field i = pathText [.key field, .index i] := by
  simp [indexPath, pathText, Seg.text, String.join_cons, String.append_assoc]
  rfl

end Paths

namespace Doc

section Locates

variable {entries : List (String × Doc)} {k : String} {d : Doc}

theorem locates_here : d.Locates "" := ⟨[], .here d, rfl⟩

theorem locates_key (hmem : (k, d) ∈ entries) (hk : isKey k) : (record entries).Locates k :=
  ⟨[.key k], .key hmem hk (.here d), by simp [pathText]⟩

theorem locates_of_mem_keys {d : Doc} {k : String} (hmem : k ∈ d.keys) (hk : isKey k) :
    d.Locates k := by
  cases d with
  | record entries =>
    obtain ⟨⟨k', c⟩, hc, rfl⟩ := List.mem_map.mp hmem
    exact locates_key hc hk
  | list items => simp [keys] at hmem
  | leaf => simp [keys] at hmem

theorem locates_join {p : String} (hmem : (k, d) ∈ entries) (hk : isKey k) (hp : d.Locates p) :
    (record entries).Locates (joinPath k p) := by
  obtain ⟨segs, hpath, rfl⟩ := hp
  refine ⟨.key k :: segs, .key hmem hk hpath, ?_⟩
  simpa [pathText] using joinPath_pathText (p := []) hk hpath.head_isKey

theorem locates_index {items : List Doc} {i : Nat} (hmem : (k, .list items) ∈ entries)
    (hk : isKey k) (hi : i < items.length) : (record entries).Locates (indexPath k i) :=
  ⟨[.key k, .index i], .key hmem hk (.index (List.getElem?_eq_getElem hi) (.here _)),
    indexPath_eq k i⟩

theorem locates_join_index {items : List Doc} {i : Nat} {p : String}
    (hmem : (k, .list items) ∈ entries) (hk : isKey k) (hd : items[i]? = some d)
    (hp : d.Locates p) : (record entries).Locates (joinPath (indexPath k i) p) := by
  obtain ⟨segs, hpath, rfl⟩ := hp
  refine ⟨.key k :: .index i :: segs, .key hmem hk (.index hd hpath), ?_⟩
  rw [indexPath_eq, joinPath_pathText hk hpath.head_isKey]
  rfl

theorem locates_index_of_mem_zipIdx {α : Type} {f : α → Doc} {xs : List α} {x : α} {i : Nat}
    (hmem : (k, .list (xs.map f)) ∈ entries) (hk : isKey k) (hxi : (x, i) ∈ xs.zipIdx) :
    (record entries).Locates (indexPath k i) := by
  have hi : i < xs.length :=
    (List.getElem?_eq_some_iff.mp (List.mem_zipIdx_iff_getElem?.mp hxi)).1
  exact locates_index hmem hk (by simpa using hi)

theorem locates_join_index_of_mem_zipIdx {α : Type} {f : α → Doc} {xs : List α} {x : α} {i : Nat}
    {p : String} (hmem : (k, .list (xs.map f)) ∈ entries) (hk : isKey k)
    (hxi : (x, i) ∈ xs.zipIdx) (hp : (f x).Locates p) :
    (record entries).Locates (joinPath (indexPath k i) p) := by
  have hx : xs[i]? = some x := List.mem_zipIdx_iff_getElem?.mp hxi
  exact locates_join_index hmem hk (by simp [hx]) hp

theorem locates_of_mem_qualify {fs : List Finding} {g : Finding} (hmem : (k, d) ∈ entries)
    (hk : isKey k) (hfs : ∀ g ∈ fs, d.Locates g.field) (hg : g ∈ qualify k fs) :
    (record entries).Locates g.field := by
  obtain ⟨g', hg', rfl⟩ := mem_qualify.mp hg
  exact locates_join hmem hk (hfs g' hg')

theorem locates_of_mem_qualify_index {α : Type} {f : α → Doc} {xs : List α} {x : α} {i : Nat}
    {fs : List Finding} {g : Finding} (hmem : (k, .list (xs.map f)) ∈ entries) (hk : isKey k)
    (hxi : (x, i) ∈ xs.zipIdx) (hfs : ∀ g ∈ fs, (f x).Locates g.field)
    (hg : g ∈ qualify (indexPath k i) fs) : (record entries).Locates g.field := by
  obtain ⟨g', hg', rfl⟩ := mem_qualify.mp hg
  exact locates_join_index_of_mem_zipIdx hmem hk hxi (hfs g' hg')

theorem locates_of_mem_indexed {m : String} {items : List Doc} {cs : List (Option (List Finding))}
    (hmem : (k, .list items) ∈ entries) (hk : isKey k)
    (hcs : ∀ (i : Nat) c, cs[i]? = some c →
      ∃ d : Doc, items[i]? = some d ∧ ∀ fs, c = some fs → ∀ g ∈ fs, d.Locates g.field)
    {g : Finding}
    (h : g ∈ cs.zipIdx.flatMap fun (c, i) => match c with
      | none => [⟨indexPath k i, m⟩]
      | some fs => qualify (indexPath k i) fs) :
    (record entries).Locates g.field := by
  obtain ⟨⟨c, i⟩, hci, hg⟩ := List.mem_flatMap.mp h
  obtain ⟨d, hd, hfindings⟩ := hcs i c (List.mem_zipIdx_iff_getElem?.mp hci : cs[i]? = some c)
  cases c with
  | none =>
    simp only [List.mem_singleton] at hg
    subst hg
    exact locates_index hmem hk (List.getElem?_eq_some_iff.mp hd).1
  | some fs =>
    obtain ⟨g', hg', rfl⟩ := mem_qualify.mp hg
    exact locates_join_index hmem hk hd (hfindings fs rfl g' hg')

end Locates

end Doc

theorem RuleTable.locates_of_mem_validate {α : Type} {t : RuleTable α} {r : α} {d : Doc}
    (hfields : ∀ F ∈ t.fields, F ∈ d.keys ∧ isKey F)
    (hchecks : ∀ ρ ∈ t.rules, ∀ g ∈ ρ.check r, g.field = ρ.field ∨ d.Locates g.field) :
    ∀ g ∈ t.validate r, d.Locates g.field := by
  intro g hg
  obtain ⟨ρ, hρ, ⟨-, hg⟩ | ⟨-, -, rfl⟩⟩ := (RuleTable.mem_validate t r).mp hg
  · rcases hchecks ρ hρ g hg with he | hl
    · obtain ⟨hkey, hk⟩ := hfields ρ.field (List.mem_map_of_mem hρ)
      rw [he]
      exact Doc.locates_of_mem_keys hkey hk
    · exact hl
  · obtain ⟨hkey, hk⟩ := hfields ρ.field (List.mem_map_of_mem hρ)
    exact Doc.locates_of_mem_keys hkey hk

section Checks

variable {F v : String} {g : Finding}

theorem field_of_mem_singleton {m : String} (h : g ∈ [⟨F, m⟩]) : g.field = F := by
  simp only [List.mem_singleton] at h
  rw [h]

theorem field_of_mem_checkNotBlank (h : g ∈ checkNotBlank F v) : g.field = F := by
  unfold checkNotBlank at h
  split at h
  · exact field_of_mem_singleton h
  · simp at h

theorem field_of_mem_checkOneOf {allowed : List String} (h : g ∈ checkOneOf F v allowed) :
    g.field = F := by
  unfold checkOneOf at h
  split at h
  · simp at h
  · exact field_of_mem_singleton h

theorem field_of_mem_report {c : Prop} [Decidable c] {m : String}
    (h : g ∈ if c then [⟨F, m⟩] else []) : g.field = F := by
  split at h
  · exact field_of_mem_singleton h
  · simp at h

theorem field_of_mem_report_else {c : Prop} [Decidable c] {m : String}
    (h : g ∈ if c then [] else [⟨F, m⟩]) : g.field = F := by
  split at h
  · simp at h
  · exact field_of_mem_singleton h

theorem field_of_mem_checkScript (h : g ∈ checkScript F v) : g.field = F := by
  unfold checkScript at h
  split at h
  · exact field_of_mem_singleton h
  · split at h
    · simp at h
    · exact field_of_mem_singleton h

end Checks

def Bound.doc (b : Bound) : Doc :=
  .record [("type", .leaf), ("coords", .leaves b.coords), ("radius", .leaf),
    ("minCoords", .leaves b.minCoords), ("maxCoords", .leaves b.maxCoords)]

theorem Bound.doc_keyed (b : Bound) : b.doc.Keyed b.toJson := ⟨_, rfl, rfl⟩

theorem Bound.locates_of_mem_validate (b : Bound) : ∀ g ∈ b.validate, b.doc.Locates g.field := by
  intro g hg
  -- every finding of a bound is at one of its keys
  have hfield : g.field ∈ ["type", "coords", "radius", "minCoords", "maxCoords"] := by
    unfold Bound.validate at hg
    split at hg
    · simp only [List.mem_append] at hg
      rcases hg with hg | hg <;> split at hg <;> simp at hg <;> simp [hg]
    split at hg
    · simp only [List.mem_append] at hg
      rcases hg with (hg | hg) | hg <;> split at hg <;> simp at hg <;> simp [hg]
    · simp at hg
      simp [hg]
  have hkeys : ∀ k ∈ ["type", "coords", "radius", "minCoords", "maxCoords"], isKey k := by decide
  exact Doc.locates_of_mem_keys hfield (hkeys _ hfield)

mutual

def Filter.doc : Filter → Doc
  | ⟨_, _, _, _, _, bound, field, fields, _⟩ =>
    .record [("type", .leaf), ("dimension", .leaf), ("value", .leaf), ("pattern", .leaf),
      ("function", .leaf), ("bound", .ofOption Bound.doc bound), ("field", Filter.childDoc field),
      ("fields", .list (Filter.childrenDocs fields))]

def Filter.childDoc : Option Filter → Doc
  | none => .leaf
  | some f => f.doc

def Filter.childrenDocs : List (Option Filter) → List Doc
  | [] => []
  | c :: cs => Filter.childDoc c :: Filter.childrenDocs cs

end

namespace Filter

theorem doc_keyed (f : Filter) : f.doc.Keyed f.toJson := by
  cases f
  exact ⟨_, rfl, rfl⟩

theorem doc_keys (f : Filter) :
    f.doc.keys =
      ["type", "dimension", "value", "pattern", "function", "bound", "field", "fields"] := by
  cases f
  rfl

theorem rules_locates {cf : Option (List Finding)} {lf : List (Option (List Finding))}
    (f : Filter) (hcf : ∀ fs, cf = some fs → ∀ g ∈ fs, (childDoc f.field).Locates g.field)
    (hlf : ∀ (i : Nat) c, lf[i]? = some c →
      ∃ d : Doc, (childrenDocs f.fields)[i]? = some d ∧ ∀ fs, c = some fs → ∀ g ∈ fs, d.Locates g.field) :
    ∀ ρ ∈ (rules cf lf).rules, ∀ g ∈ ρ.check f, g.field = ρ.field ∨ f.doc.Locates g.field := by
  obtain ⟨type, dimension, value, pattern, function, bound, field, fields, _⟩ := f
  simp only [rules, List.mem_cons, List.not_mem_nil, or_false, doc]
  rintro ρ (rfl | rfl | rfl | rfl | rfl | rfl | rfl | rfl) g hg <;> dsimp only at hg hcf hlf ⊢
  · -- type
    split at hg
    · simp at hg
    · exact .inl (field_of_mem_singleton hg)
  · exact .inl (field_of_mem_checkNotBlank hg)
  · simp at hg
  · exact .inl (field_of_mem_checkNotBlank hg)
  · exact .inl (field_of_mem_checkScript hg)
  · -- bound
    split at hg
    · exact .inl (field_of_mem_singleton hg)
    · exact .inr (Doc.locates_of_mem_qualify (k := "bound") (by simp [Doc.ofOption]) (by decide)
        (Bound.locates_of_mem_validate _) hg)
  · -- field
    split at hg
    · exact .inl (field_of_mem_singleton hg)
    · exact .inr (Doc.locates_of_mem_qualify (k := "field") (by simp) (by decide) (hcf _ rfl) hg)
  · -- fields
    split at hg
    · exact .inl (field_of_mem_singleton hg)
    · exact .inr (Doc.locates_of_mem_indexed (by simp) (by decide) hlf hg)

theorem childrenDocs_eq_map (cs : List (Option Filter)) : childrenDocs cs = cs.map childDoc := by
  induction cs with
  | nil => rfl
  | cons c cs ih => simp [childrenDocs, ih]

theorem childFindings_locates {c : Option Filter}
    (h : ∀ g ∈ c, ∀ x ∈ g.validate, g.doc.Locates x.field) :
    ∀ fs, childFindings c = some fs → ∀ x ∈ fs, (childDoc c).Locates x.field := by
  cases c with
  | none => simp [childFindings]
  | some g =>
    simp only [childFindings, childDoc, Option.some.injEq, forall_eq']
    exact h g rfl

theorem listFindings_locates {cs : List (Option Filter)}
    (h : ∀ c ∈ cs, ∀ g ∈ c, ∀ x ∈ g.validate, g.doc.Locates x.field) : ∀ (i : Nat) c,
    (listFindings cs)[i]? = some c →
      ∃ d : Doc, (childrenDocs cs)[i]? = some d ∧ ∀ fs, c = some fs → ∀ g ∈ fs, d.Locates g.field := by
  intro i c hc
  rw [listFindings_eq_map, List.getElem?_map] at hc
  obtain ⟨e, he, rfl⟩ := Option.map_eq_some_iff.mp hc
  refine ⟨childDoc e, by rw [childrenDocs_eq_map, List.getElem?_map, he]; rfl, ?_⟩
  exact childFindings_locates (h e (List.mem_of_getElem? he))

theorem locates_of_mem_validate (f : Filter) : ∀ g ∈ f.validate, f.doc.Locates g.field := by
  induction f using branching.induction with
  | node f hfield hfields =>
    intro g hg
    rw [validate_eq] at hg
    refine RuleTable.locates_of_mem_validate ?_
      (rules_locates _ (childFindings_locates hfield) (listFindings_locates hfields)) g hg
    rw [rules_fields, doc_keys]
    decide

end Filter

mutual

def Having.doc : Having → Doc
  | ⟨_, _, _, spec, specs, _⟩ =>
    .record [("type", .leaf), ("aggregation", .leaf), ("value", .leaf),
      ("havingSpec", Having.childDoc spec), ("havingSpecs", .list (Having.childrenDocs specs))]

def Having.childDoc : Option Having → Doc
  | none => .leaf
  | some h => h.doc

def Having.childrenDocs : List (Option Having) → List Doc
  | [] => []
  | c :: cs => Having.childDoc c :: Having.childrenDocs cs

end

namespace Having

theorem doc_keyed (h : Having) : h.doc.Keyed h.toJson := by
  cases h
  exact ⟨_, rfl, rfl⟩

theorem doc_keys (h : Having) :
    h.doc.keys = ["type", "aggregation", "value", "havingSpec", "havingSpecs"] := by
  cases h
  rfl

theorem rules_locates {cf : Option (List Finding)} {lf : List (Option (List Finding))}
    (h : Having) (hcf : ∀ fs, cf = some fs → ∀ g ∈ fs, (childDoc h.havingSpec).Locates g.field)
    (hlf : ∀ (i : Nat) c, lf[i]? = some c →
      ∃ d : Doc, (childrenDocs h.havingSpecs)[i]? = some d ∧
        ∀ fs, c = some fs → ∀ g ∈ fs, d.Locates g.field) :
    ∀ ρ ∈ (rules cf lf).rules, ∀ g ∈ ρ.check h, g.field = ρ.field ∨ h.doc.Locates g.field := by
  obtain ⟨type, aggregation, value, spec, specs, _⟩ := h
  simp only [rules, List.mem_cons, List.not_mem_nil, or_false, doc]
  rintro ρ (rfl | rfl | rfl | rfl | rfl) g hg <;> dsimp only at hg hcf hlf ⊢
  · exact .inl (field_of_mem_checkOneOf hg)
  · exact .inl (field_of_mem_checkNotBlank hg)
  · split at hg
    · exact .inl (field_of_mem_singleton hg)
    · simp at hg
  · -- havingSpec
    split at hg
    · exact .inl (field_of_mem_singleton hg)
    · exact .inr (Doc.locates_of_mem_qualify (k := "havingSpec") (by simp) (by decide)
        (hcf _ rfl) hg)
  · -- havingSpecs
    split at hg
    · exact .inl (field_of_mem_singleton hg)
    · exact .inr (Doc.locates_of_mem_indexed (by simp) (by decide) hlf hg)

theorem childrenDocs_eq_map (cs : List (Option Having)) : childrenDocs cs = cs.map childDoc := by
  induction cs with
  | nil => rfl
  | cons c cs ih => simp [childrenDocs, ih]

theorem childFindings_locates {c : Option Having}
    (h : ∀ g ∈ c, ∀ x ∈ g.validate, g.doc.Locates x.field) :
    ∀ fs, childFindings c = some fs → ∀ x ∈ fs, (childDoc c).Locates x.field := by
  cases c with
  | none => simp [childFindings]
  | some g =>
    simp only [childFindings, childDoc, Option.some.injEq, forall_eq']
    exact h g rfl

theorem listFindings_locates {cs : List (Option Having)}
    (h : ∀ c ∈ cs, ∀ g ∈ c, ∀ x ∈ g.validate, g.doc.Locates x.field) : ∀ (i : Nat) c,
    (listFindings cs)[i]? = some c →
      ∃ d : Doc, (childrenDocs cs)[i]? = some d ∧ ∀ fs, c = some fs → ∀ g ∈ fs, d.Locates g.field := by
  intro i c hc
  rw [listFindings_eq_map, List.getElem?_map] at hc
  obtain ⟨e, he, rfl⟩ := Option.map_eq_some_iff.mp hc
  refine ⟨childDoc e, by rw [childrenDocs_eq_map, List.getElem?_map, he]; rfl, ?_⟩
  exact childFindings_locates (h e (List.mem_of_getElem? he))

theorem locates_of_mem_validate (h : Having) : ∀ g ∈ h.validate, h.doc.Locates g.field := by
  induction h using branching.induction with
  | node h hspec hspecs =>
    intro g hg
    rw [validate_eq] at hg
    refine RuleTable.locates_of_mem_validate ?_
      (rules_locates _ (childFindings_locates hspec) (listFindings_locates hspecs)) g hg
    rw [rules_fields, doc_keys]
    decide

end Having

mutual

def PostAggregation.doc : PostAggregation → Doc
  | ⟨_, _, _, _, _, fieldNames, _, _, fields, field, _, _, _, breaks, _, probabilities, _, _, _, _⟩ =>
    .record [("type", .leaf), ("name", .leaf), ("fn", .leaf), ("func", .leaf), ("fieldName", .leaf),
      ("fieldNames", .leaves fieldNames), ("function", .leaf), ("value", .leaf),
      ("fields", .list (PostAggregation.childrenDocs fields)),
      ("field", PostAggregation.childDoc field), ("numBuckets", .leaf), ("bucketSize", .leaf),
      ("offset", .leaf), ("breaks", .leaves breaks), ("probability", .leaf),
      ("probabilities", .leaves probabilities)]

def PostAggregation.childDoc : Option PostAggregation → Doc
  | none => .leaf
  | some p => p.doc

def PostAggregation.childrenDocs : List (Option PostAggregation) → List Doc
  | [] => []
  | c :: cs => PostAggregation.childDoc c :: PostAggregation.childrenDocs cs

end

namespace PostAggregation

theorem doc_keyed (p : PostAggregation) : p.doc.Keyed p.toJson := by
  cases p
  exact ⟨_, rfl, rfl⟩

theorem doc_keys (p : PostAggregation) :
    p.doc.keys = ["type", "name", "fn", "func", "fieldName", "fieldNames", "function", "value",
      "fields", "field", "numBuckets", "bucketSize", "offset", "breaks", "probability",
      "probabilities"] := by
  cases p
  rfl

theorem field_of_mem_checkProbability {F : String} {x : Float} {g : Finding}
    (h : g ∈ checkProbability F x) : g.field = F := by
  unfold checkProbability at h
  exact field_of_mem_report h

theorem rules_locates {cf : Option (List Finding)} {lf : List (Option (List Finding))}
    (p : PostAggregation) (hcf : ∀ fs, cf = some fs → ∀ g ∈ fs, (childDoc p.field).Locates g.field)
    (hlf : ∀ (i : Nat) c, lf[i]? = some c →
      ∃ d : Doc, (childrenDocs p.fields)[i]? = some d ∧
        ∀ fs, c = some fs → ∀ g ∈ fs, d.Locates g.field) :
    ∀ ρ ∈ (rules cf lf).rules, ∀ g ∈ ρ.check p, g.field = ρ.field ∨ p.doc.Locates g.field := by
  obtain ⟨type, name, fn, func, fieldName, fieldNames, function, value, fields, field, numBuckets,
    bucketSize, offset, breaks, probability, probabilities, _, _, _, _⟩ := p
  simp only [rules, List.mem_cons, List.not_mem_nil, or_false, doc]
  rintro ρ (rfl | rfl | rfl | rfl | rfl | rfl | rfl | rfl | rfl | rfl | rfl | rfl | rfl | rfl |
    rfl) g hg <;> dsimp only at hg hcf hlf ⊢
  · -- type
    split at hg
    · exact .inl (field_of_mem_singleton hg)
    · exact .inl (field_of_mem_checkOneOf hg)
  · rcases List.mem_append.mp hg with hg | hg
    exacts [.inl (field_of_mem_checkNotBlank hg), .inl (field_of_mem_checkOneOf hg)]
  · rcases List.mem_append.mp hg with hg | hg
    exacts [.inl (field_of_mem_checkNotBlank hg), .inl (field_of_mem_checkOneOf hg)]
  · exact .inl (field_of_mem_checkNotBlank hg)
  · exact .inl (field_of_mem_report hg)
  · -- function
    split at hg
    · simp at hg
    · exact .inl (field_of_mem_singleton hg)
  · -- value
    split at hg
    · exact .inl (field_of_mem_singleton hg)
    · simp at hg
  · -- fields: a wrong count at the field, each operand below its index
    rcases List.mem_append.mp hg with hg | hg
    · split at hg
      · exact .inl (field_of_mem_singleton hg)
      · exact .inl (field_of_mem_report hg)
    · unfold operandFindings at hg
      exact .inr (Doc.locates_of_mem_indexed (by simp) (by decide) hlf hg)
  · -- field: a wrong operand type at the field, the operand's findings below it
    split at hg
    · rcases List.mem_append.mp hg with hg | hg
      · exact .inl (field_of_mem_report hg)
      · exact .inr (Doc.locates_of_mem_qualify (k := "field") (by simp) (by decide) (hcf _ rfl) hg)
    · exact .inl (field_of_mem_singleton hg)
  · exact .inl (field_of_mem_report hg)
  · exact .inl (field_of_mem_report hg)
  · simp at hg
  · exact .inl (field_of_mem_report hg)
  · -- probability
    split at hg
    · exact .inl (field_of_mem_singleton hg)
    · exact .inl (field_of_mem_checkProbability hg)
  · -- probabilities: an empty list at the field, each probability at its index
    rcases List.mem_append.mp hg with hg | hg
    · exact .inl (field_of_mem_report hg)
    · obtain ⟨⟨x, i⟩, hxi, hg⟩ := List.mem_flatMap.mp hg
      rw [field_of_mem_checkProbability hg]
      exact .inr (Doc.locates_index_of_mem_zipIdx (f := fun _ => .leaf) (by simp [Doc.leaves]) (by decide) hxi)

theorem childrenDocs_eq_map (cs : List (Option PostAggregation)) :
    childrenDocs cs = cs.map childDoc := by
  induction cs with
  | nil => rfl
  | cons c cs ih => simp [childrenDocs, ih]

theorem childFindings_locates {c : Option PostAggregation}
    (h : ∀ g ∈ c, ∀ x ∈ g.validate, g.doc.Locates x.field) :
    ∀ fs, childFindings c = some fs → ∀ x ∈ fs, (childDoc c).Locates x.field := by
  cases c with
  | none => simp [childFindings]
  | some g =>
    simp only [childFindings, childDoc, Option.some.injEq, forall_eq']
    exact h g rfl

theorem listFindings_locates {cs : List (Option PostAggregation)}
    (h : ∀ c ∈ cs, ∀ g ∈ c, ∀ x ∈ g.validate, g.doc.Locates x.field) : ∀ (i : Nat) c,
    (listFindings cs)[i]? = some c →
      ∃ d : Doc, (childrenDocs cs)[i]? = some d ∧ ∀ fs, c = some fs → ∀ g ∈ fs, d.Locates g.field := by
  intro i c hc
  rw [listFindings_eq_map, List.getElem?_map] at hc
  obtain ⟨e, he, rfl⟩ := Option.map_eq_some_iff.mp hc
  refine ⟨childDoc e, by rw [childrenDocs_eq_map, List.getElem?_map, he]; rfl, ?_⟩
  exact childFindings_locates (h e (List.mem_of_getElem? he))

theorem locates_of_mem_validate (p : PostAggregation) : ∀ g ∈ p.validate, p.doc.Locates g.field := by
  induction p using branching.induction with
  | node p hfield hfields =>
    intro g hg
    rw [validate_eq] at hg
    refine RuleTable.locates_of_mem_validate ?_
      (rules_locates _ (childFindings_locates hfield) (listFindings_locates hfields)) g hg
    rw [rules_fields, doc_keys]
    decide

end PostAggregation

mutual

def Aggregation.doc : Aggregation → Doc
  | ⟨_, _, _, fieldNames, _, _, _, _, filter, aggregator, _⟩ =>
    .record [("type", .leaf), ("name", .leaf), ("fieldName", .leaf),
      ("fieldNames", .leaves (fieldNames.getD [])), ("fnAggregate", .leaf), ("fnCombine", .leaf),
      ("fnReset", .leaf), ("byRow", .leaf), ("filter", .ofOption Filter.doc filter),
      ("aggregator", Aggregation.innerDoc aggregator)]

def Aggregation.innerDoc : Option Aggregation → Doc
  | none => .leaf
  | some a => a.doc

end

namespace Aggregation

theorem doc_keyed (a : Aggregation) : a.doc.Keyed a.toJson := by
  obtain ⟨_, _, _, _, _, _, _, _, _, _ | inner, _⟩ := a <;> rw [toJson] <;> exact ⟨_, rfl, rfl⟩

theorem doc_keys (a : Aggregation) :
    a.doc.keys = ["type", "name", "fieldName", "fieldNames", "fnAggregate", "fnCombine", "fnReset",
      "byRow", "filter", "aggregator"] := by
  cases a
  rfl

theorem field_of_mem_scriptRule {F : String} {get : Aggregation → String} {a : Aggregation}
    {g : Finding} (h : g ∈ (scriptRule F get).check a) : g.field = F := by
  simp only [scriptRule] at h
  split at h
  · exact field_of_mem_singleton h
  · split at h
    · simp at h
    · exact field_of_mem_singleton h

theorem rules_locates {inner : Option (List Finding)} (a : Aggregation)
    (hinner : ∀ fs, inner = some fs → ∀ g ∈ fs, (innerDoc a.aggregator).Locates g.field) :
    ∀ ρ ∈ (rules inner).rules, ∀ g ∈ ρ.check a, g.field = ρ.field ∨ a.doc.Locates g.field := by
  obtain ⟨type, name, fieldName, fieldNames, fnAggregate, fnCombine, fnReset, byRow, filter,
    aggregator, _⟩ := a
  simp only [rules, List.mem_cons, List.not_mem_nil, or_false, doc]
  rintro ρ (rfl | rfl | rfl | rfl | rfl | rfl | rfl | rfl | rfl | rfl) g hg
  · -- type
    dsimp only at hg ⊢
    split at hg
    · exact .inl (field_of_mem_singleton hg)
    · exact .inl (field_of_mem_checkOneOf hg)
  · exact .inl (field_of_mem_checkNotBlank hg)
  · exact .inl (field_of_mem_checkNotBlank hg)
  · -- fieldNames: an empty list at the field, each blank name at its index
    dsimp only at hg ⊢
    split at hg
    · exact .inl (field_of_mem_singleton hg)
    · obtain ⟨⟨n, i⟩, hni, hg⟩ := List.mem_filterMap.mp hg
      split at hg
      · cases hg
        exact .inr (Doc.locates_index_of_mem_zipIdx (f := fun _ => .leaf) (by simp [Doc.leaves]) (by decide) hni)
      · cases hg
  · exact .inl (field_of_mem_scriptRule hg)
  · exact .inl (field_of_mem_scriptRule hg)
  · exact .inl (field_of_mem_scriptRule hg)
  · simp at hg
  · -- filter
    dsimp only at hg ⊢
    split at hg
    · exact .inl (field_of_mem_singleton hg)
    · exact .inr (Doc.locates_of_mem_qualify (k := "filter") (by simp [Doc.ofOption]) (by decide)
        (Filter.locates_of_mem_validate _) hg)
  · -- aggregator
    dsimp only at hg hinner ⊢
    split at hg
    · exact .inl (field_of_mem_singleton hg)
    · exact .inr (Doc.locates_of_mem_qualify (k := "aggregator") (by simp) (by decide)
        (hinner _ rfl) hg)

theorem locates_of_mem_validate : (a : Aggregation) → ∀ g ∈ a.validate, a.doc.Locates g.field
  | ⟨_, _, _, _, _, _, _, _, _, aggregator, _⟩ => by
    intro g hg
    rw [validate_eq] at hg
    refine RuleTable.locates_of_mem_validate ?_ (rules_locates _ ?_) g hg
    · rw [rules_fields, doc_keys]
      decide
    · -- the inner aggregator's findings, by recursion on it
      cases aggregator with
      | none => simp
      | some inner =>
        simp only [Option.map_some, Option.some.injEq, forall_eq', innerDoc]
        exact locates_of_mem_validate inner

end Aggregation

def Granularity.doc (g : Granularity) : Doc :=
  if g.simple.isEmpty then
    .record [("type", .leaf), ("period", .leaf), ("duration", .leaf), ("timeZone", .leaf),
      ("origin", .leaf)]
  else .leaf

def Dimension.doc (_ : Dimension) : Doc :=
  .record [("type", .leaf), ("dimension", .leaf), ("outputName", .leaf)]

def Column.doc (_ : Column) : Doc := .record [("dimension", .leaf), ("direction", .leaf)]

def LimitSpec.doc (l : LimitSpec) : Doc :=
  .record [("type", .leaf), ("limit", .leaf), ("columns", .list (l.columns.map (.ofOption Column.doc)))]

def SearchQuery.doc (_ : SearchQuery) : Doc :=
  .record [("type", .leaf), ("value", .leaf), ("caseSensitive", .leaf)]

def SearchSort.doc (_ : SearchSort) : Doc := .record [("type", .leaf)]

def PagingSpec.doc (p : PagingSpec) : Doc :=
  .record [("pagingIdentifiers", .record (p.pagingIdentifiers.map fun e => (e.1, .leaf))),
    ("threshold", .leaf)]

def ToInclude.doc (t : ToInclude) : Doc := .record [("type", .leaf), ("columns", .leaves t.columns)]

def Context.doc (_ : Context) : Doc :=
  .record [("timeout", .leaf), ("priority", .leaf), ("queryId", .leaf), ("useCache", .leaf),
    ("populateCache", .leaf), ("bySegment", .leaf), ("finalize", .leaf)]

def Query.doc (q : Query) : Doc :=
  .record [("queryType", .leaf), ("dataSource", .leaf), ("intervals", .leaves q.intervals),
    ("granularity", .ofOption Granularity.doc q.granularity),
    ("dimensions", .list (q.dimensions.map (.ofOption Dimension.doc))),
    ("aggregations", .list (q.aggregations.map (.ofOption Aggregation.doc))),
    ("postAggregations", .list (q.postAggregations.map (.ofOption PostAggregation.doc))),
    ("filter", .ofOption Filter.doc q.filter), ("having", .ofOption Having.doc q.having),
    ("limitSpec", .ofOption LimitSpec.doc q.limitSpec), ("limit", .leaf),
    ("searchDimensions", .leaves q.searchDimensions),
    ("query", .ofOption SearchQuery.doc q.searchQuery), ("sort", .ofOption SearchSort.doc q.sort),
    ("bound", .leaf), ("toInclude", .ofOption ToInclude.doc q.toInclude), ("merge", .leaf),
    ("metrics", .leaves q.metrics), ("pagingSpec", .ofOption PagingSpec.doc q.pagingSpec),
    ("dimension", .leaf), ("metric", .leaf), ("threshold", .leaf),
    ("context", .ofOption Context.doc q.context)]

theorem Granularity.doc_keyed {g : Granularity} (h : g.simple.isEmpty = true) :
    g.doc.Keyed g.objectJson := ⟨_, rfl, by simp [doc, h, Doc.keys]⟩

theorem Dimension.doc_keyed (d : Dimension) : d.doc.Keyed d.toJson := ⟨_, rfl, rfl⟩

theorem Column.doc_keyed (c : Column) : c.doc.Keyed c.toJson :=
  ⟨[("dimension", some (.string c.dimension)), ("direction", some (.string c.direction))], rfl, rfl⟩

theorem LimitSpec.doc_keyed (l : LimitSpec) : l.doc.Keyed l.toJson := ⟨_, rfl, rfl⟩

theorem SearchQuery.doc_keyed (s : SearchQuery) : s.doc.Keyed s.toJson := ⟨_, rfl, rfl⟩

theorem SearchSort.doc_keyed (s : SearchSort) : s.doc.Keyed s.toJson :=
  ⟨[("type", some (.string s.type))], rfl, rfl⟩

theorem PagingSpec.doc_keyed (p : PagingSpec) : p.doc.Keyed p.toJson := ⟨_, rfl, rfl⟩

theorem ToInclude.doc_keyed (t : ToInclude) : t.doc.Keyed t.toJson := ⟨_, rfl, rfl⟩

theorem Context.doc_keyed (c : Context) : c.doc.Keyed c.toJson := ⟨_, rfl, rfl⟩

theorem Query.doc_keyed (q : Query) : q.doc.Keyed q.toJson := ⟨_, rfl, rfl⟩

theorem Granularity.locates_of_mem_validate (g : Granularity) :
    ∀ f ∈ g.validate, g.doc.Locates f.field := by
  intro f hf
  unfold validate at hf
  unfold doc
  split at hf
  · -- a name: every finding is at the empty path
    rename_i hname
    split at hf
    · simp at hf
    · rw [field_of_mem_singleton hf]
      exact Doc.locates_here
  · rename_i hname
    rw [if_pos (by simpa using hname)]
    have hfield : f.field ∈ ["type", "period", "duration", "timeZone", "origin"] := by
      split at hf
      · simp [field_of_mem_checkNotBlank hf]
      split at hf
      · simp [field_of_mem_report hf]
      split at hf <;> simp [field_of_mem_singleton hf]
    have hkeys : ∀ k ∈ ["type", "period", "duration", "timeZone", "origin"], isKey k := by decide
    exact Doc.locates_of_mem_keys hfield (hkeys _ hfield)

theorem Dimension.locates_of_mem_validate (d : Dimension) :
    ∀ f ∈ d.validate, d.doc.Locates f.field := by
  intro f hf
  have hfield : f.field ∈ ["type", "dimension", "outputName"] := by
    unfold validate at hf
    rcases List.mem_append.mp hf with hf | hf
    · simp [field_of_mem_checkNotBlank hf]
    · simp [field_of_mem_report_else hf]
  have hkeys : ∀ k ∈ ["type", "dimension", "outputName"], isKey k := by decide
  exact Doc.locates_of_mem_keys hfield (hkeys _ hfield)

theorem Context.locates_of_mem_validate (c : Context) : ∀ f ∈ c.validate, c.doc.Locates f.field := by
  intro f hf
  unfold validate at hf
  split at hf
  · rw [field_of_mem_report hf]
    exact Doc.locates_of_mem_keys (by simp [doc, Doc.keys]) (by decide)
  · simp at hf

theorem LimitSpec.locates_column {l : LimitSpec} {c : Column} {i : Nat} {k : String}
    (hci : (some c, i) ∈ l.columns.zipIdx) (hk : k ∈ ["dimension", "direction"]) :
    l.doc.Locates (indexPath "columns" i ++ ("." ++ k)) := by
  have hkey : isKey k := by
    simp only [List.mem_cons, List.not_mem_nil, or_false] at hk
    rcases hk with rfl | rfl <;> decide
  rw [← String.append_assoc, ← joinPath_key (by simp [indexPath]) hkey]
  exact Doc.locates_join_index_of_mem_zipIdx (f := Doc.ofOption Column.doc) (by simp)
    (by decide) hci (Doc.locates_of_mem_keys hk hkey)

theorem LimitSpec.locates_of_mem_validate (l : LimitSpec) :
    ∀ f ∈ l.validate, l.doc.Locates f.field := by
  intro f hf
  unfold validate at hf
  simp only [List.mem_append, List.mem_flatMap] at hf
  rcases hf with (hf | hf) | ⟨⟨c, i⟩, hci, hf⟩
  · rw [field_of_mem_report_else hf]
    exact Doc.locates_of_mem_keys (by simp [doc, Doc.keys]) (by decide)
  · rw [field_of_mem_report hf]
    exact Doc.locates_of_mem_keys (by simp [doc, Doc.keys]) (by decide)
  · -- a column: absent at its index, present at one of its keys below it
    cases c with
    | none =>
      rw [field_of_mem_singleton hf]
      exact Doc.locates_index_of_mem_zipIdx (f := Doc.ofOption Column.doc) (by simp)
        (by decide) hci
    | some c =>
      rcases List.mem_append.mp hf with hf | hf
      · rw [field_of_mem_checkNotBlank hf]
        exact locates_column (k := "dimension") hci (by simp)
      · rw [field_of_mem_report_else hf]
        exact locates_column (k := "direction") hci (by simp)

namespace Query

theorem doc_keys (q : Query) :
    q.doc.keys = ["queryType", "dataSource", "intervals", "granularity", "dimensions",
      "aggregations", "postAggregations", "filter", "having", "limitSpec", "limit",
      "searchDimensions", "query", "sort", "bound", "toInclude", "merge", "metrics", "pagingSpec",
      "dimension", "metric", "threshold", "context"] := rfl

theorem locates_of_mem_checkIntervals (q : Query) :
    ∀ g ∈ checkIntervals q.intervals, g.field = "intervals" ∨ q.doc.Locates g.field := by
  intro g hg
  unfold checkIntervals at hg
  split at hg
  · exact .inl (field_of_mem_singleton hg)
  · -- an interval that does not read, at its index
    obtain ⟨⟨s, i⟩, hsi, hs⟩ := List.mem_filterMap.mp hg
    cases hparse : parseInterval s with
    | ok _ => simp [hparse] at hs
    | error e =>
      simp only [hparse, Option.some.injEq] at hs
      subst hs
      exact .inr (Doc.locates_index_of_mem_zipIdx (f := fun _ => .leaf)
        (by simp [Doc.leaves]) (by decide) hsi)

theorem locates_of_mem_checkPostAggregations (q : Query) :
    ∀ g ∈ checkPostAggregations q.postAggregations, q.doc.Locates g.field := by
  intro g hg
  obtain ⟨⟨p, i⟩, hpi, hp⟩ := List.mem_flatMap.mp hg
  dsimp only at hp
  cases p with
  | none =>
    rw [field_of_mem_singleton hp]
    exact Doc.locates_index_of_mem_zipIdx (f := .ofOption PostAggregation.doc) (by simp)
      (by decide) hpi
  | some p =>
    -- both kinds of finding are below the index of the post-aggregation
    obtain ⟨p', hp'⟩ : ∃ p', g.field = joinPath (indexPath "postAggregations" i) p' ∧
        p.doc.Locates p' := by
      rcases List.mem_append.mp hp with hp | hp
      · exact ⟨"name", field_of_mem_report hp,
          Doc.locates_of_mem_keys (by simp [PostAggregation.doc_keys]) (by decide)⟩
      · obtain ⟨g', hg', rfl⟩ := mem_qualify.mp hp
        exact ⟨g'.field, rfl, PostAggregation.locates_of_mem_validate p g' hg'⟩
    rw [hp'.1]
    exact Doc.locates_join_index_of_mem_zipIdx (f := .ofOption PostAggregation.doc) (by simp)
      (by decide) hpi hp'.2

theorem table_locates (q : Query) :
    ∀ ρ ∈ table.rules, ∀ g ∈ ρ.check q, g.field = ρ.field ∨ q.doc.Locates g.field := by
  simp only [table, List.mem_cons, List.not_mem_nil, or_false]
  rintro ρ (rfl | rfl | rfl | rfl | rfl | rfl | rfl | rfl | rfl | rfl | rfl | rfl | rfl | rfl |
    rfl | rfl | rfl | rfl | rfl | rfl | rfl | rfl | rfl) g hg <;> dsimp only at hg ⊢
  · -- queryType
    split at hg
    · exact .inl (field_of_mem_singleton hg)
    · exact .inl (field_of_mem_checkOneOf hg)
  · exact .inl (field_of_mem_checkNotBlank hg)
  · exact locates_of_mem_checkIntervals q g hg
  · -- granularity
    split at hg
    · exact .inl (field_of_mem_singleton hg)
    next gr hgr =>
      exact .inr (Doc.locates_of_mem_qualify (by simp [hgr, Doc.ofOption]) (by decide)
        (Granularity.locates_of_mem_validate gr) hg)
  · -- dimensions: an empty list at the field, each dimension at or below its index
    split at hg
    · exact .inl (field_of_mem_singleton hg)
    · obtain ⟨⟨d, i⟩, hdi, hd⟩ := List.mem_flatMap.mp hg
      cases d with
      | none =>
        rw [field_of_mem_singleton hd]
        exact .inr (Doc.locates_index_of_mem_zipIdx (f := .ofOption Dimension.doc) (by simp)
          (by decide) hdi)
      | some d =>
        exact .inr (Doc.locates_of_mem_qualify_index (f := .ofOption Dimension.doc) (by simp)
          (by decide) hdi (Dimension.locates_of_mem_validate d) hd)
  · -- aggregations: an empty list at the field, each aggregation below its index
    split at hg
    · exact .inl (field_of_mem_singleton hg)
    · obtain ⟨⟨a, i⟩, hai, ha⟩ := List.mem_flatMap.mp hg
      cases a with
      | none => simp at ha
      | some a =>
        exact .inr (Doc.locates_of_mem_qualify_index (f := .ofOption Aggregation.doc) (by simp)
          (by decide) hai (Aggregation.locates_of_mem_validate a) ha)
  · exact .inr (locates_of_mem_checkPostAggregations q g hg)
  · -- filter
    split at hg
    · simp at hg
    next f hf =>
      exact .inr (Doc.locates_of_mem_qualify (by simp [hf, Doc.ofOption]) (by decide)
        (Filter.locates_of_mem_validate f) hg)
  · -- having
    split at hg
    · simp at hg
    next h hh =>
      exact .inr (Doc.locates_of_mem_qualify (by simp [hh, Doc.ofOption]) (by decide)
        (Having.locates_of_mem_validate h) hg)
  · -- limitSpec
    split at hg
    · simp at hg
    next l hl =>
      exact .inr (Doc.locates_of_mem_qualify (by simp [hl, Doc.ofOption]) (by decide)
        (LimitSpec.locates_of_mem_validate l) hg)
  · exact .inl (field_of_mem_report hg)
  · simp at hg
  · -- query: a search of another type is reported at its type
    split at hg
    · exact .inl (field_of_mem_singleton hg)
    next s hs =>
      split at hg
      · simp at hg
      · rw [field_of_mem_singleton hg]
        have htype : (SearchQuery.doc s).Locates "type" :=
          Doc.locates_of_mem_keys (by simp [SearchQuery.doc, Doc.keys]) (by decide)
        rw [show "query.type" = joinPath "query" "type" by simp [joinPath]]
        exact .inr (Doc.locates_join (by simp [hs, Doc.ofOption]) (by decide) htype)
  · simp at hg
  · exact .inl (field_of_mem_checkOneOf hg)
  · simp at hg
  · simp at hg
  · simp at hg
  · -- pagingSpec: a threshold that is not positive is reported at the threshold
    split at hg
    · exact .inl (field_of_mem_singleton hg)
    next pg hpg =>
      rw [field_of_mem_report hg]
      have hthreshold : (PagingSpec.doc pg).Locates "threshold" :=
        Doc.locates_of_mem_keys (by simp [PagingSpec.doc, Doc.keys]) (by decide)
      rw [show "pagingSpec.threshold" = joinPath "pagingSpec" "threshold" by simp [joinPath]]
      exact .inr (Doc.locates_join (by simp [hpg, Doc.ofOption]) (by decide) hthreshold)
  · exact .inl (field_of_mem_checkNotBlank hg)
  · exact .inl (field_of_mem_checkNotBlank hg)
  · exact .inl (field_of_mem_report hg)
  · -- context
    split at hg
    · simp at hg
    next c hc =>
      exact .inr (Doc.locates_of_mem_qualify (by simp [hc, Doc.ofOption]) (by decide)
        (Context.locates_of_mem_validate c) hg)

theorem locates_of_mem_validate (q : Query) : ∀ g ∈ q.validate, q.doc.Locates g.field := by
  refine RuleTable.locates_of_mem_validate ?_ (table_locates q)
  rw [doc_keys]
  decide

theorem field_ne_empty_of_mem_validate (q : Query) : ∀ g ∈ q.validate, g.field ≠ "" :=
  fun _ hg => RuleTable.field_ne_empty_of_mem_validate (by decide)
    (fun σ hσ _ => table_sited q σ hσ) hg

end Query

/-- Every finding of a query, an aggregation, a filter, a having spec and a post-aggregation is at
a nonempty path that leads into the shape of its own record, whose keys are those its JSON is
built from. -/
theorem findings_lead_into_document :
    (∀ q : Query, q.doc.Keyed q.toJson ∧ ∀ g ∈ q.validate, g.field ≠ "" ∧ q.doc.Locates g.field) ∧
    (∀ a : Aggregation,
      a.doc.Keyed a.toJson ∧ ∀ g ∈ a.validate, g.field ≠ "" ∧ a.doc.Locates g.field) ∧
    (∀ f : Filter, f.doc.Keyed f.toJson ∧ ∀ g ∈ f.validate, g.field ≠ "" ∧ f.doc.Locates g.field) ∧
    (∀ h : Having, h.doc.Keyed h.toJson ∧ ∀ g ∈ h.validate, g.field ≠ "" ∧ h.doc.Locates g.field) ∧
    (∀ p : PostAggregation,
      p.doc.Keyed p.toJson ∧ ∀ g ∈ p.validate, g.field ≠ "" ∧ p.doc.Locates g.field) :=
  ⟨fun q => ⟨q.doc_keyed, fun g hg =>
      ⟨q.field_ne_empty_of_mem_validate g hg, q.locates_of_mem_validate g hg⟩⟩,
    fun a => ⟨a.doc_keyed, fun g hg =>
      ⟨a.field_ne_empty_of_mem_validate g hg, a.locates_of_mem_validate g hg⟩⟩,
    fun f => ⟨f.doc_keyed, fun g hg =>
      ⟨f.field_ne_empty_of_mem_validate g hg, f.locates_of_mem_validate g hg⟩⟩,
    fun h => ⟨h.doc_keyed, fun g hg =>
      ⟨h.field_ne_empty_of_mem_validate g hg, h.locates_of_mem_validate g hg⟩⟩,
    fun p => ⟨p.doc_keyed, fun g hg =>
      ⟨p.field_ne_empty_of_mem_validate g hg, p.locates_of_mem_validate g hg⟩⟩⟩

end DruidQuery
