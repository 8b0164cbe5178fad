import DruidQuery.Proofs.ParsedTrees

namespace DruidQuery

def EndsAt (field path : String) : Prop := path = field ∨ ('.' :: field.toList) <:+ path.toList

instance (field path : String) : Decidable (EndsAt field path) := inferInstanceAs (Decidable (_ ∨ _))

section Paths

theorem endsAt_plain {s path : String} (hdot : '.' ∉ path.toList) : EndsAt s path ↔ path = s := by
  refine ⟨fun h => h.resolve_right fun hs => hdot (hs.subset List.mem_cons_self), .inl⟩

theorem endsAt_dot_append {s : String} (p c : String) (hs : '.' ∉ s.toList) :
    EndsAt s (p ++ "." ++ c) ↔ EndsAt s c := by
  have hlist : (p ++ "." ++ c).toList = p.toList ++ '.' :: c.toList := by
    simp [String.toList_append]
  have hc : ('.' :: c.toList) <:+ p.toList ++ '.' :: c.toList := List.suffix_append _ _
  constructor
  · rintro (h | h)
    · exact absurd (by simp [← h, String.toList_append]) hs
    · rw [hlist] at h
      -- both `.s` and `.c` end the path, so one ends the other
      rcases List.suffix_or_suffix_of_suffix h hc with h' | h'
      · rcases List.suffix_cons_iff.mp h' with heq | h''
        · exact .inl (String.toList_inj.mp (List.cons.inj heq).2).symm
        · exact .inr h''
      · rcases List.suffix_cons_iff.mp h' with heq | h''
        · exact .inl (String.toList_inj.mp (List.cons.inj heq).2)
        · exact absurd (h''.subset List.mem_cons_self) hs
  · rintro (rfl | h)
    · exact .inr (hlist ▸ hc)
    · exact .inr (hlist ▸ h.trans ((List.suffix_cons '.' _).trans hc))

theorem joinPath_of_plain {p c : String} (hp : p ≠ "") (hc : c ≠ "") (hb : c.startsWith "[" = false) :
    joinPath p c = p ++ "." ++ c := by
  unfold joinPath
  rw [if_neg (by simpa using hp), if_neg (by simpa using hc), if_neg (by simp [hb])]

theorem dot_not_mem_indexPath {list : String} (hlist : '.' ∉ list.toList) (i : Nat) :
    '.' ∉ (indexPath list i).toList := by
  have hdigits : '.' ∉ Nat.toDigits 10 i := fun h => by
    simpa using Nat.isDigit_of_mem_toDigits (by decide) (by decide) h
  simpa [indexPath, String.toList_append, hlist, Int.repr, Nat.repr] using hdigits

theorem bracket_mem_indexPath (list : String) (i : Nat) : ']' ∈ (indexPath list i).toList := by
  simp [indexPath, String.toList_append]

end Paths

def Finding.MissingChild (slot list : String) (g : Finding) : Prop :=
  g.message = Finding.blank ∧ (EndsAt slot g.field ∨ ∃ i : Nat, EndsAt (indexPath list i) g.field)

/-- A finding about the value of a field: not at a `type`, not of a field that the type does not
allow, and not of a missing child in `slot` or `list`. -/
def Finding.AboutValue (slot list : String) (g : Finding) : Prop :=
  ¬ EndsAt "type" g.field ∧ ¬ Finding.IsNotSupported g.message ∧ ¬ g.MissingChild slot list

section AboutValue

variable {slot list : String}

theorem aboutValue_plain {name message : String} (hdot : '.' ∉ name.toList) (htype : name ≠ "type")
    (hmsg : ¬ Finding.IsNotSupported message)
    (hmissing : message = Finding.blank → name ≠ slot ∧ ∀ i : Nat, name ≠ indexPath list i) :
    Finding.AboutValue slot list ⟨name, message⟩ := by
  refine ⟨fun h => htype ((endsAt_plain hdot).mp h), hmsg, ?_⟩
  rintro ⟨hblank, hend | ⟨i, hend⟩⟩
  · exact (hmissing hblank).1 ((endsAt_plain hdot).mp hend)
  · exact (hmissing hblank).2 i ((endsAt_plain hdot).mp hend)

theorem aboutValue_qualified (hslot : '.' ∉ slot.toList) (hlist : '.' ∉ list.toList) {p : String}
    (hp : p ≠ "") {g : Finding} (hc : g.field ≠ "") (hb : g.field.startsWith "[" = false)
    (hg : g.AboutValue slot list) : Finding.AboutValue slot list ⟨joinPath p g.field, g.message⟩ := by
  have htype : '.' ∉ "type".toList := by decide
  simp only [Finding.AboutValue, Finding.MissingChild, joinPath_of_plain hp hc hb,
    endsAt_dot_append _ _ htype, endsAt_dot_append _ _ hslot,
    endsAt_dot_append _ _ (dot_not_mem_indexPath hlist _)] at hg ⊢
  exact hg

theorem aboutValue_of_mem_qualify (hslot : '.' ∉ slot.toList) (hlist : '.' ∉ list.toList)
    {p : String} (hp : p ≠ "") {fs : List Finding}
    (hfs : ∀ g ∈ fs, g.field ≠ "" ∧ g.field.startsWith "[" = false ∧ g.AboutValue slot list)
    {x : Finding} (hx : x ∈ qualify p fs) : x.AboutValue slot list := by
  obtain ⟨g, hg, rfl⟩ := mem_qualify.mp hx
  obtain ⟨hc, hb, hgv⟩ := hfs g hg
  exact aboutValue_qualified hslot hlist hp hc hb hgv

theorem aboutValue_of_mem_indexed (hslot : '.' ∉ slot.toList) (hlist : '.' ∉ list.toList)
    {message : String} {cs : List (Option (List Finding))}
    (hcs : ∀ c ∈ cs, ∃ fs, c = some fs ∧
      ∀ g ∈ fs, g.field ≠ "" ∧ g.field.startsWith "[" = false ∧ g.AboutValue slot list)
    {x : Finding}
    (hx : x ∈ cs.zipIdx.flatMap fun (c, i) => match c with
      | none => [⟨indexPath list i, message⟩]
      | some fs => qualify (indexPath list i) fs) : x.AboutValue slot list := by
  obtain ⟨⟨c, i⟩, hci, hxc⟩ := List.mem_flatMap.mp hx
  obtain ⟨fs, rfl, hfs⟩ := hcs c (List.fst_mem_of_mem_zipIdx hci)
  exact aboutValue_of_mem_qualify hslot hlist (by simp [indexPath]) hfs hxc

theorem startsWith_bracket_of_isKey {k : String} (hk : isKey k) : k.startsWith "[" = false := by
  simpa using not_startsWith_bracket "" hk

theorem Doc.Locates.startsWith_bracket {entries : List (String × Doc)} {path : String}
    (h : (Doc.record entries).Locates path) : path.startsWith "[" = false := by
  obtain ⟨segs, hpath, rfl⟩ := h
  cases hpath with
  | here => rfl
  | key _ hk _ => exact not_startsWith_bracket _ hk

end AboutValue

namespace Filter

theorem qualifiable_of_mem_validate {f : Filter} {g : Finding} (hg : g ∈ f.validate) :
    g.field ≠ "" ∧ g.field.startsWith "[" = false := by
  have hdoc : ∃ entries, f.doc = .record entries := by
    cases f
    exact ⟨_, rfl⟩
  obtain ⟨entries, he⟩ := hdoc
  exact ⟨field_ne_empty_of_mem_validate f g hg,
    Doc.Locates.startsWith_bracket (he ▸ locates_of_mem_validate f g hg)⟩

theorem childFindings_aboutValue {slot list : String} {c : Option Filter} (hc : c.isSome = true)
    (h : ∀ g ∈ c, ∀ x ∈ g.validate, x.AboutValue slot list) :
    ∃ fs, childFindings c = some fs ∧
      ∀ x ∈ fs, x.field ≠ "" ∧ x.field.startsWith "[" = false ∧ x.AboutValue slot list := by
  obtain ⟨g, rfl⟩ := Option.isSome_iff_exists.mp hc
  exact ⟨_, rfl, fun x hx => ⟨(qualifiable_of_mem_validate hx).1, (qualifiable_of_mem_validate hx).2,
    h g rfl x hx⟩⟩

theorem Bound.aboutValue_of_mem_validate {slot list : String} {b : Bound}
    (hb : b.type = "radius" ∨ b.type = "rectangular") :
    ∀ g ∈ b.validate, g.field ≠ "" ∧ g.field.startsWith "[" = false ∧ g.AboutValue slot list := by
  intro g hg
  unfold Bound.validate at hg
  rcases hb with hb | hb
  · rw [if_pos hb] at hg
    simp only [List.mem_append] at hg
    rcases hg with hg | hg <;> split at hg <;> simp only [List.mem_singleton, List.not_mem_nil] at hg <;>
      subst hg <;> exact ⟨by decide, startsWith_bracket_of_isKey (by decide), aboutValue_plain (by decide) (by decide)
        (by simp [Finding.IsNotSupported]) (by simp [Finding.blank])⟩
  · rw [if_neg (by simp [hb]), if_pos hb] at hg
    simp only [List.mem_append] at hg
    rcases hg with (hg | hg) | hg <;> split at hg <;> simp only [List.mem_singleton, List.not_mem_nil] at hg <;>
      subst hg <;> exact ⟨by decide, startsWith_bracket_of_isKey (by decide), aboutValue_plain (by decide) (by decide)
        (by simp [Finding.IsNotSupported]) (by simp [Finding.blank])⟩

end Filter

theorem aboutValue_of_sited {slot list name : String} {x : Finding}
    (hname : '.' ∉ name.toList ∧ '[' ∉ name.toList ∧ ']' ∉ name.toList ∧ name ≠ "type" ∧ name ≠ slot)
    (hfield : x.field = name) (hsited : Finding.Sited name x) : x.AboutValue slot list := by
  obtain ⟨hdot, hopen, hclose, htype, hslot⟩ := hname
  have hmsg := (hsited.resolve_right (by rw [hfield]; simp [Nested, hdot, hopen])).2
  obtain ⟨field, message⟩ := x
  dsimp only at hfield hmsg
  subst hfield
  exact aboutValue_plain hdot htype hmsg fun _ =>
    ⟨hslot, fun i h => hclose (h ▸ bracket_mem_indexPath list i)⟩

theorem aboutValue_of_mem_singleton {slot list name message : String} {x : Finding}
    (hname : '.' ∉ name.toList ∧ '[' ∉ name.toList ∧ ']' ∉ name.toList ∧ name ≠ "type" ∧ name ≠ slot)
    (hmsg : ¬ Finding.IsNotSupported message) (hx : x ∈ [⟨name, message⟩]) :
    x.AboutValue slot list := by
  rw [List.mem_singleton.mp hx]
  exact aboutValue_of_sited hname rfl (Finding.sited_self hmsg)

theorem aboutValue_of_mem_report {slot list name message : String} {c : Prop} [Decidable c]
    {x : Finding}
    (hname : '.' ∉ name.toList ∧ '[' ∉ name.toList ∧ ']' ∉ name.toList ∧ name ≠ "type" ∧ name ≠ slot)
    (hmsg : ¬ Finding.IsNotSupported message) (hx : x ∈ if c then [⟨name, message⟩] else []) :
    x.AboutValue slot list := by
  split at hx
  · exact aboutValue_of_mem_singleton hname hmsg hx
  · simp at hx

namespace Filter

theorem aboutValue_node {f : Filter} (hw : f.wellFormedNode = true)
    (hfield : ∀ g ∈ f.field, ∀ x ∈ g.validate, x.AboutValue "field" "fields")
    (hfields : ∀ c ∈ f.fields, ∀ g ∈ c, ∀ x ∈ g.validate, x.AboutValue "field" "fields") :
    ∀ x ∈ f.validate, x.AboutValue "field" "fields" := by
  have hslot : '.' ∉ "field".toList := by decide
  have hlist : '.' ∉ "fields".toList := by decide
  intro x hx
  rw [validate_eq] at hx
  have hall : (rules (childFindings f.field) (listFindings f.fields)).rules.all
      (fun ρ => ρ.appliesTo f.type || !ρ.present f) = true := by
    simp only [wellFormedNode, Bool.and_eq_true] at hw
    exact hw.1.1.1.2
  obtain ⟨ρ, hρ, happ, hx⟩ := RuleTable.mem_check_of_allowed hall hx
  obtain ⟨type, dimension, value, pattern, function, bound, field, fields, _⟩ := f
  simp only [wellFormedNode, Bool.and_eq_true, bne_iff_ne, ne_eq, Bool.or_eq_true] at hw
  obtain ⟨⟨⟨⟨hknown, -⟩, hnot⟩, hpresent⟩, hbound⟩ := hw
  simp only [rules, List.mem_cons, List.not_mem_nil, or_false] at hρ
  rcases hρ with rfl | rfl | rfl | rfl | rfl | rfl | rfl | rfl <;> dsimp only at hx happ
  · -- a known type
    rw [if_pos hknown] at hx
    simp at hx
  · exact aboutValue_of_sited (by decide) (field_of_mem_checkNotBlank hx) (checkNotBlank_sited hx)
  · simp at hx
  · exact aboutValue_of_sited (by decide) (field_of_mem_checkNotBlank hx) (checkNotBlank_sited hx)
  · exact aboutValue_of_sited (by decide) (field_of_mem_checkScript hx) (checkScript_sited hx)
  · -- a bound, a circle or a box
    cases bound with
    | none =>
      exact aboutValue_of_mem_singleton (by decide) not_isNotSupported_blank hx
    | some b =>
      exact aboutValue_of_mem_qualify hslot hlist (by decide)
        (Bound.aboutValue_of_mem_validate (by simpa using hbound)) hx
  · -- the child of a negation, which is present
    have htype : type = "not" := by simpa [Rule.appliesTo, rules] using happ
    obtain ⟨fs, hfs, hgood⟩ := childFindings_aboutValue (hnot.resolve_left (not_not.mpr htype)) hfield
    rw [hfs] at hx
    exact aboutValue_of_mem_qualify hslot hlist (by decide) hgood hx
  · -- the children of a combination, all present
    split at hx
    · exact aboutValue_of_mem_singleton (by decide) (by simp [Finding.IsNotSupported]) hx
    · refine aboutValue_of_mem_indexed hslot hlist (fun c hc => ?_) hx
      rw [listFindings_eq_map] at hc
      obtain ⟨e, he, rfl⟩ := List.mem_map.mp hc
      exact childFindings_aboutValue (List.all_eq_true.mp hpresent e he) (hfields e he)

theorem aboutValue_of_mem_validate (f : Filter) (hf : f.everyNode wellFormedNode = true) :
    ∀ x ∈ f.validate, x.AboutValue "field" "fields" :=
  Branching.every_induction (fun _ hw hfield hfields => aboutValue_node hw hfield hfields) f hf

end Filter

namespace Having

theorem qualifiable_of_mem_validate {h : Having} {g : Finding} (hg : g ∈ h.validate) :
    g.field ≠ "" ∧ g.field.startsWith "[" = false := by
  have hdoc : ∃ entries, h.doc = .record entries := by
    cases h
    exact ⟨_, rfl⟩
  obtain ⟨entries, he⟩ := hdoc
  exact ⟨field_ne_empty_of_mem_validate h g hg,
    Doc.Locates.startsWith_bracket (he ▸ locates_of_mem_validate h g hg)⟩

theorem childFindings_aboutValue {slot list : String} {c : Option Having} (hc : c.isSome = true)
    (h : ∀ g ∈ c, ∀ x ∈ g.validate, x.AboutValue slot list) :
    ∃ fs, childFindings c = some fs ∧
      ∀ x ∈ fs, x.field ≠ "" ∧ x.field.startsWith "[" = false ∧ x.AboutValue slot list := by
  obtain ⟨g, rfl⟩ := Option.isSome_iff_exists.mp hc
  exact ⟨_, rfl, fun x hx => ⟨(qualifiable_of_mem_validate hx).1, (qualifiable_of_mem_validate hx).2,
    h g rfl x hx⟩⟩

theorem aboutValue_node {h : Having} (hw : h.wellFormedNode = true)
    (hspec : ∀ g ∈ h.havingSpec, ∀ x ∈ g.validate, x.AboutValue "havingSpec" "havingSpecs")
    (hspecs : ∀ c ∈ h.havingSpecs, ∀ g ∈ c, ∀ x ∈ g.validate, x.AboutValue "havingSpec" "havingSpecs") :
    ∀ x ∈ h.validate, x.AboutValue "havingSpec" "havingSpecs" := by
  have hslot : '.' ∉ "havingSpec".toList := by decide
  have hlist : '.' ∉ "havingSpecs".toList := by decide
  intro x hx
  rw [validate_eq] at hx
  have hall : (rules (childFindings h.havingSpec) (listFindings h.havingSpecs)).rules.all
      (fun ρ => ρ.appliesTo h.type || !ρ.present h) = true := by
    simp only [wellFormedNode, Bool.and_eq_true] at hw
    exact hw.1.1.2
  obtain ⟨ρ, hρ, happ, hx⟩ := RuleTable.mem_check_of_allowed hall hx
  obtain ⟨type, aggregation, value, spec, specs, _⟩ := h
  simp only [wellFormedNode, Bool.and_eq_true, bne_iff_ne, ne_eq, Bool.or_eq_true] at hw
  obtain ⟨⟨⟨hknown, -⟩, hnot⟩, hpresent⟩ := hw
  simp only [rules, List.mem_cons, List.not_mem_nil, or_false] at hρ
  rcases hρ with rfl | rfl | rfl | rfl | rfl <;> dsimp only at hx happ
  · -- a known type
    have hmem : type ∈ knownTypes := by simpa using hknown
    simp [checkOneOf, hmem] at hx
  · exact aboutValue_of_sited (by decide) (field_of_mem_checkNotBlank hx) (checkNotBlank_sited hx)
  · -- a value that is required
    split at hx
    · exact aboutValue_of_mem_singleton (by decide) not_isNotSupported_required hx
    · simp at hx
  · -- the child of a negation, which is present
    have htype : type = "not" := by simpa [Rule.appliesTo, rules] using happ
    obtain ⟨fs, hfs, hgood⟩ := childFindings_aboutValue (hnot.resolve_left (not_not.mpr htype)) hspec
    rw [hfs] at hx
    exact aboutValue_of_mem_qualify hslot hlist (by decide) hgood hx
  · -- the children of a combination, all present
    split at hx
    · exact aboutValue_of_mem_singleton (by decide) (by simp [Finding.IsNotSupported]) hx
    · refine aboutValue_of_mem_indexed hslot hlist (fun c hc => ?_) hx
      rw [listFindings_eq_map] at hc
      obtain ⟨e, he, rfl⟩ := List.mem_map.mp hc
      exact childFindings_aboutValue (List.all_eq_true.mp hpresent e he) (hspecs e he)

theorem aboutValue_of_mem_validate (h : Having) (hh : h.everyNode wellFormedNode = true) :
    ∀ x ∈ h.validate, x.AboutValue "havingSpec" "havingSpecs" :=
  Branching.every_induction (fun _ hw hspec hspecs => aboutValue_node hw hspec hspecs) h hh

def comparesWithNil (h : Having) : Bool := comparisonTypes.contains h.type && h.value matches .null

theorem validate_eq_nil_node {h : Having} (hw : h.wellFormedNode = true) (hc : h.combinesSome = true)
    (hn : h.namesAggregation = true) (hnil : h.comparesWithNil = false)
    (hspec : ∀ g ∈ h.havingSpec, g.validate = [])
    (hspecs : ∀ c ∈ h.havingSpecs, ∀ g ∈ c, g.validate = []) : h.validate = [] := by
  have hall : (rules (childFindings h.havingSpec) (listFindings h.havingSpecs)).rules.all
      (fun ρ => ρ.appliesTo h.type || !ρ.present h) = true := by
    simp only [wellFormedNode, Bool.and_eq_true] at hw
    exact hw.1.1.2
  rw [validate_eq]
  refine RuleTable.validate_eq_nil_of_allowed hall fun ρ hρ happ => ?_
  obtain ⟨type, aggregation, value, spec, specs, _⟩ := h
  simp only [wellFormedNode, Bool.and_eq_true, bne_iff_ne, ne_eq, Bool.or_eq_true] at hw
  obtain ⟨⟨⟨hknown, -⟩, hnot⟩, hpresent⟩ := hw
  simp only [rules, List.mem_cons, List.not_mem_nil, or_false] at hρ
  rcases hρ with rfl | rfl | rfl | rfl | rfl <;> dsimp only at happ
  · have hmem : type ∈ knownTypes := by simpa using hknown
    simp [checkOneOf, hmem]
  · -- a comparison names an aggregation
    have hcomp : type ∈ comparisonTypes := by simpa [Rule.appliesTo, rules, comparisonTypes] using happ
    have hblank : Text.isBlank aggregation = false := by simpa [namesAggregation, hcomp] using hn
    simp [checkNotBlank, hblank]
  · -- a comparison compares with a value
    have hcomp : type ∈ comparisonTypes := by simpa [Rule.appliesTo, rules, comparisonTypes] using happ
    cases value <;> simp_all [comparesWithNil]
  · -- the child of a negation, present and clean
    have htype : type = "not" := by simpa [Rule.appliesTo, rules] using happ
    obtain ⟨g, hg⟩ := Option.isSome_iff_exists.mp (hnot.resolve_left (not_not.mpr htype))
    subst hg
    simp [childFindings, hspec g rfl, qualify]
  · -- the children of a combination, at least one, present and clean
    have htype : type = "and" ∨ type = "or" := by simpa [Rule.appliesTo, rules] using happ
    have hne : specs ≠ [] := specs_ne_nil hc htype
    show (if (listFindings specs).isEmpty then _ else _) = []
    rw [if_neg (by simpa [listFindings_eq_map] using hne)]
    refine (indexed_eq_nil_iff _ 0).mpr fun c hc' => ?_
    rw [listFindings_eq_map] at hc'
    obtain ⟨e, he, rfl⟩ := List.mem_map.mp hc'
    obtain ⟨g, rfl⟩ := Option.isSome_iff_exists.mp (List.all_eq_true.mp hpresent e he)
    simp [childFindings, hspecs _ he g rfl]

def cleanNode (h : Having) : Bool :=
  h.wellFormedNode && h.combinesSome && h.namesAggregation && !h.comparesWithNil

theorem validate_eq_nil (h : Having) (hh : h.everyNode cleanNode = true) : h.validate = [] := by
  refine Branching.every_induction (fun h hclean hspec hspecs => ?_) h hh
  simp only [cleanNode, Bool.and_eq_true, Bool.not_eq_eq_eq_not, Bool.not_true] at hclean
  obtain ⟨⟨⟨hw, hc⟩, hn⟩, hnil⟩ := hclean
  exact validate_eq_nil_node hw hc hn hnil hspec hspecs

end Having

namespace PostAggregation

theorem qualifiable_of_mem_validate {p : PostAggregation} {g : Finding} (hg : g ∈ p.validate) :
    g.field ≠ "" ∧ g.field.startsWith "[" = false := by
  have hdoc : ∃ entries, p.doc = .record entries := by
    cases p
    exact ⟨_, rfl⟩
  obtain ⟨entries, he⟩ := hdoc
  exact ⟨field_ne_empty_of_mem_validate p g hg,
    Doc.Locates.startsWith_bracket (he ▸ locates_of_mem_validate p g hg)⟩

theorem childFindings_aboutValue {slot list : String} {c : Option PostAggregation}
    (hc : c.isSome = true) (h : ∀ g ∈ c, ∀ x ∈ g.validate, x.AboutValue slot list) :
    ∃ fs, childFindings c = some fs ∧
      ∀ x ∈ fs, x.field ≠ "" ∧ x.field.startsWith "[" = false ∧ x.AboutValue slot list := by
  obtain ⟨g, rfl⟩ := Option.isSome_iff_exists.mp hc
  exact ⟨_, rfl, fun x hx => ⟨(qualifiable_of_mem_validate hx).1, (qualifiable_of_mem_validate hx).2,
    h g rfl x hx⟩⟩

theorem aboutValue_of_mem_checkProbability {slot list name : String} {p : Float} {x : Finding}
    (hname : '.' ∉ name.toList ∧ '[' ∉ name.toList ∧ ']' ∉ name.toList ∧ name ≠ "type" ∧ name ≠ slot)
    (hx : x ∈ checkProbability name p) : x.AboutValue slot list :=
  aboutValue_of_mem_report hname (by simp [Finding.IsNotSupported]) hx

theorem aboutValue_node {p : PostAggregation} (hw : p.wellFormedNode = true)
    (hfield : ∀ g ∈ p.field, ∀ x ∈ g.validate, x.AboutValue "field" "fields")
    (hfields : ∀ c ∈ p.fields, ∀ g ∈ c, ∀ x ∈ g.validate, x.AboutValue "field" "fields") :
    ∀ x ∈ p.validate, x.AboutValue "field" "fields" := by
  have hslot : '.' ∉ "field".toList := by decide
  have hlist : '.' ∉ "fields".toList := by decide
  have hmust : ∀ m : String, "must be".toList <+: m.toList →
      ¬ Finding.IsNotSupported m ∧ m ≠ Finding.blank :=
    fun m hm => ⟨Finding.not_isNotSupported_of_prefix hm (by decide) (by decide), by
      rintro rfl
      exact absurd hm (by decide)⟩
  intro x hx
  rw [validate_eq] at hx
  have hall : (rules (childFindings p.field) (listFindings p.fields)).rules.all
      (fun ρ => ρ.appliesTo p.type || !ρ.present p) = true := by
    simp only [wellFormedNode, Bool.and_eq_true] at hw
    exact hw.1.1.2
  obtain ⟨ρ, hρ, happ, hx⟩ := RuleTable.mem_check_of_allowed hall hx
  obtain ⟨type, name, fn, func, fieldName, fieldNames, function, value, fields, field, numBuckets,
    bucketSize, offset, breaks, probability, probabilities, _, _, _, _⟩ := p
  simp only [wellFormedNode, Bool.and_eq_true, bne_iff_ne, ne_eq, Bool.or_eq_true] at hw
  obtain ⟨⟨⟨hknown, -⟩, hsketch⟩, hpresent⟩ := hw
  simp only [rules, List.mem_cons, List.not_mem_nil, or_false] at hρ
  rcases hρ with rfl | rfl | rfl | rfl | rfl | rfl | rfl | rfl | rfl | rfl | rfl | rfl | rfl | rfl |
    rfl <;> dsimp only at hx happ
  · -- a known type
    have hmem : type ∈ knownTypes := by simpa using hknown
    have hne : type ≠ "" := by
      rintro rfl
      simp [knownTypes, histogramTypes] at hmem
    simp [hne, checkOneOf, hmem] at hx
  · rcases List.mem_append.mp hx with hx | hx
    · exact aboutValue_of_sited (by decide) (field_of_mem_checkNotBlank hx) (checkNotBlank_sited hx)
    · exact aboutValue_of_sited (by decide) (field_of_mem_checkOneOf hx) (checkOneOf_sited hx)
  · rcases List.mem_append.mp hx with hx | hx
    · exact aboutValue_of_sited (by decide) (field_of_mem_checkNotBlank hx) (checkNotBlank_sited hx)
    · exact aboutValue_of_sited (by decide) (field_of_mem_checkOneOf hx) (checkOneOf_sited hx)
  · exact aboutValue_of_sited (by decide) (field_of_mem_checkNotBlank hx) (checkNotBlank_sited hx)
  · exact aboutValue_of_mem_report (by decide) (by simp [Finding.IsNotSupported]) hx
  · split at hx
    · simp at hx
    · exact aboutValue_of_mem_singleton (by decide) (Script.not_isNotSupported_message _) hx
  · split at hx
    · exact aboutValue_of_mem_singleton (by decide) not_isNotSupported_required hx
    · simp at hx
  · -- the operands: their count at the field, each present operand below it
    rcases List.mem_append.mp hx with hx | hx
    · split at hx
      · exact aboutValue_of_mem_singleton (by decide) (by simp [Finding.IsNotSupported]) hx
      · exact aboutValue_of_mem_report (by decide) (by simp [Finding.IsNotSupported]) hx
    · unfold operandFindings at hx
      refine aboutValue_of_mem_indexed hslot hlist (fun c hc => ?_) hx
      rw [listFindings_eq_map] at hc
      obtain ⟨e, he, rfl⟩ := List.mem_map.mp hc
      exact childFindings_aboutValue (List.all_eq_true.mp hpresent e he) (hfields e he)
  · -- the child of an estimate, which is present
    have htype : type = "thetaSketchEstimate" := by simpa [Rule.appliesTo, rules] using happ
    obtain ⟨fs, hfs, hgood⟩ := childFindings_aboutValue (hsketch.resolve_left (not_not.mpr htype)) hfield
    obtain ⟨child, rfl⟩ := Option.isSome_iff_exists.mp (hsketch.resolve_left (not_not.mpr htype))
    rw [hfs] at hx
    rcases List.mem_append.mp hx with hx | hx
    · split at hx
      · rw [List.mem_singleton] at hx
        subst hx
        obtain ⟨hmsg, hblank⟩ := hmust "must be a thetaSketchSetOp or fieldAccess" (by decide)
        exact aboutValue_plain hslot (by decide) hmsg fun h => absurd h hblank
      · simp at hx
    · exact aboutValue_of_mem_qualify hslot hlist (by decide) hgood hx
  · exact aboutValue_of_mem_report (by decide) (by simp [Finding.IsNotSupported]) hx
  · exact aboutValue_of_mem_report (by decide) (by simp [Finding.IsNotSupported]) hx
  · simp at hx
  · exact aboutValue_of_mem_report (by decide) (by simp [Finding.IsNotSupported]) hx
  · split at hx
    · exact aboutValue_of_mem_singleton (by decide) not_isNotSupported_required hx
    · exact aboutValue_of_mem_checkProbability (by decide) hx
  · -- the probabilities: their presence at the field, each one at its index
    rcases List.mem_append.mp hx with hx | hx
    · exact aboutValue_of_mem_report (by decide) (by simp [Finding.IsNotSupported]) hx
    · obtain ⟨⟨q, i⟩, -, hx⟩ := List.mem_flatMap.mp hx
      unfold checkProbability at hx
      split at hx
      · rw [List.mem_singleton] at hx
        subst hx
        obtain ⟨hmsg, hblank⟩ := hmust "must be between 0 and 1" (by decide)
        refine aboutValue_plain (dot_not_mem_indexPath (by decide) i) ?_ hmsg fun h => absurd h hblank
        intro htype
        have hclose := bracket_mem_indexPath "probabilities" i
        rw [htype] at hclose
        exact absurd hclose (by decide)
      · simp at hx

theorem aboutValue_of_mem_validate (p : PostAggregation) (hp : p.everyNode wellFormedNode = true) :
    ∀ x ∈ p.validate, x.AboutValue "field" "fields" :=
  Branching.every_induction (fun _ hw hfield hfields => aboutValue_node hw hfield hfields) p hp

end PostAggregation

theorem readThen_eq_ok {α : Type} {src : String} {x : Except Expr.Error Expr.Node}
    {k : Expr.Node → Except Expr.Error α} {a : α}
    (h : (x >>= fun n => (k n).mapError (Expr.Error.withExpression src)) = .ok a) :
    ∃ n, x = .ok n ∧ k n = .ok a := by
  obtain ⟨n, hread, htranslate⟩ := bind_eq_ok h
  refine ⟨n, hread, ?_⟩
  cases hk : k n with
  | error e =>
    rw [hk] at htranslate
    cases htranslate
  | ok b =>
    rw [hk] at htranslate
    cases htranslate
    rfl

/-- The text readers build only well-typed trees. No finding of a tree read from text is at a
`type`, reports a field the type does not allow, or reports a missing child; every and/or filter
has a child unless the text holds a membership in an empty list; every arithmetic node has two
operands and a known function; and a having spec read from text has no finding at all unless one
of its comparisons is with the nil literal. -/
theorem parsed_trees_are_well_typed :
    (∀ src f, Filter.parse src = .ok f →
      (∀ x ∈ f.validate, x.AboutValue "field" "fields") ∧
      ∀ n, Expr.read Filter.grammar src = .ok n → Filter.listsNonempty n = true →
        f.everyNode Filter.combinesSome = true) ∧
    (∀ src h, Having.parse src = .ok h →
      (∀ x ∈ h.validate, x.AboutValue "havingSpec" "havingSpecs") ∧
      h.everyNode Having.combinesSome = true ∧
      ((h.everyNode fun g => !g.comparesWithNil) = true → h.validate = [])) ∧
    (∀ src p, PostAggregation.parse src = .ok p →
      (∀ x ∈ p.validate, x.AboutValue "field" "fields") ∧
      p.everyNode PostAggregation.binaryArithmetic = true) := by
  refine ⟨fun src f hf => ?_, fun src h hh => ?_, fun src p hp => ?_⟩
  · obtain ⟨n, hread, hnode⟩ := readThen_eq_ok hf
    refine ⟨Filter.aboutValue_of_mem_validate f (Filter.ofNode_wellFormed hnode), ?_⟩
    intro n' hread' hlists
    rw [hread] at hread'
    cases hread'
    exact Filter.ofNode_combinesSome hlists hnode
  · obtain ⟨n, hread, hnode⟩ := readThen_eq_ok hh
    have hwell := Having.ofNode_wellFormed hnode
    have hsome := Having.ofNode_combinesSome hnode
    -- a compared aggregation is a name of the text, and names are never blank
    have hnames := Having.ofNode_namesAggregation (Expr.read_names hread) hnode
    refine ⟨Having.aboutValue_of_mem_validate h hwell, hsome, fun hnil => ?_⟩
    exact Having.validate_eq_nil h
      (Branching.every_and (Branching.every_and (Branching.every_and hwell hsome) hnames) hnil)
  · obtain ⟨n, -, hnode⟩ := readThen_eq_ok hp
    obtain ⟨hwell, hbinary⟩ := PostAggregation.ofNode_wellFormed hnode
    exact ⟨PostAggregation.aboutValue_of_mem_validate p hwell, hbinary⟩

theorem comparison_text_has_no_finding :
    (Having.parse "total > 1").isOk = true ∧
      ∀ h, Having.parse "total > 1" = .ok h → h.validate = [] := by
  refine ⟨by decide +kernel, fun h hh => (parsed_trees_are_well_typed.2.1 _ h hh).2.2 ?_⟩
  have hfree : ((Having.parse "total > 1").toOption.map fun h =>
      h.everyNode fun g => !g.comparesWithNil) = some true := by
    decide +kernel
  rw [hh] at hfree
  exact Option.some.inj hfree

end DruidQuery
