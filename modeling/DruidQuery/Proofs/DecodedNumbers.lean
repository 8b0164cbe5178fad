import Mathlib
import DruidQuery.Query.Read
import DruidQuery.Proofs.Branching
/-!
Numbers read into untyped values are doubles, so a query read from text holds no whole number
there, and one beyond `2^53` is not written back as it was.
-/

namespace DruidQuery

namespace Value

mutual

def IntFree : Value → Prop
  | int _ => False
  | list items => ItemsIntFree items
  | dict entries => EntriesIntFree entries
  | _ => True

def ItemsIntFree : List Value → Prop
  | [] => True
  | v :: vs => v.IntFree ∧ ItemsIntFree vs

def EntriesIntFree : List (String × Value) → Prop
  | [] => True
  | (_, v) :: es => v.IntFree ∧ EntriesIntFree es

end

theorem itemsIntFree_iff (vs : List Value) : ItemsIntFree vs ↔ ∀ v ∈ vs, v.IntFree := by
  induction vs with
  | nil => simp [ItemsIntFree]
  | cons v vs ih => simp [ItemsIntFree, ih]

theorem entriesIntFree_iff (es : List (String × Value)) :
    EntriesIntFree es ↔ ∀ e ∈ es, e.2.IntFree := by
  induction es with
  | nil => simp [EntriesIntFree]
  | cons e es ih =>
    obtain ⟨k, v⟩ := e
    simp [EntriesIntFree, ih]

theorem mem_of_mem_distinct {es acc : List (String × Value)} {e : String × Value}
    (h : e ∈ es.foldl (fun acc e => acc.filter (·.1 != e.1) ++ [e]) acc) : e ∈ acc ∨ e ∈ es := by
  induction es generalizing acc with
  | nil => exact .inl h
  | cons e' es ih =>
    rcases ih h with h | h
    · simp only [List.mem_append, List.mem_filter, List.mem_singleton] at h
      rcases h with ⟨h, -⟩ | rfl
      · exact .inl h
      · exact .inr List.mem_cons_self
    · exact .inr (List.mem_cons_of_mem _ h)

theorem intFree_dictOf {es : List (String × Value)} (h : ∀ e ∈ es, e.2.IntFree) :
    (dictOf es).IntFree := by
  simp only [dictOf, IntFree, entriesIntFree_iff, List.mem_mergeSort]
  intro e he
  rcases mem_of_mem_distinct he with he | he
  · simp at he
  · exact h e he

end Value

namespace Json.Reader

def Yields {α : Type} (P : α → Prop) (m : ReadM α) : Prop := ∀ r, P (m.run r).1

/-- Reading into a record with property `P` gives a record with `P`. -/
def Keeps {α : Type} (P : α → Prop) (read : α → ReadM α) : Prop := ∀ x, P x → Yields P (read x)

namespace Yields

variable {α β : Type} {P : β → Prop}

theorem pure {b : β} (h : P b) : Yields P (Pure.pure b) := fun _ => h

theorem bind {Q : α → Prop} {m : ReadM α} {f : α → ReadM β} (hm : Yields Q m)
    (hf : ∀ a, Q a → Yields P (f a)) : Yields P (m >>= f) :=
  fun r => hf _ (hm r) _

theorem bind_any {m : ReadM α} {f : α → ReadM β} (hf : ∀ a, Yields P (f a)) :
    Yields P (m >>= f) :=
  fun _ => hf _ _

end Yields

section Loops

variable {α : Type} {Q : α → Prop}

theorem afterCommas_keeps {each : α → ReadM α} (h : Keeps Q each) :
    ∀ fuel acc, Q acc → Yields (fun p => Q p.2) (afterCommas each fuel acc)
  | 0, acc, hacc => Yields.bind_any fun _ => Yields.pure hacc
  | n + 1, acc, hacc => by
    unfold afterCommas
    refine Yields.bind_any fun c => ?_
    split
    · exact Yields.bind (h acc hacc) fun acc' hacc' => afterCommas_keeps h n acc' hacc'
    · exact Yields.pure hacc

theorem readArrayWith_keeps {each : α → ReadM α} (h : Keeps Q each) :
    Keeps Q (readArrayWith each) := by
  intro init hinit
  unfold readArrayWith
  refine Yields.bind_any fun c => ?_
  split
  · refine Yields.bind_any fun c' => ?_
    split
    · exact Yields.pure hinit
    · refine Yields.bind_any fun _ => Yields.bind (h init hinit) fun acc hacc => ?_
      refine Yields.bind_any fun fuel => Yields.bind (afterCommas_keeps h fuel acc hacc) ?_
      rintro ⟨last, acc'⟩ hacc'
      dsimp only
      split
      · exact Yields.bind_any fun _ => Yields.pure hacc'
      · exact Yields.pure hacc'
  · split
    · exact Yields.bind_any fun _ => Yields.pure hinit
    · exact Yields.bind_any fun _ => Yields.pure hinit

theorem mapMembers_keeps {each : String → α → ReadM α} (h : ∀ name, Keeps Q (each name)) :
    ∀ fuel before, Keeps Q (mapMembers each fuel before)
  | 0, _, _, hacc => Yields.pure hacc
  | n + 1, before, acc, hacc => by
    unfold mapMembers
    refine Yields.bind_any fun name => Yields.bind_any fun c => ?_
    split
    · exact Yields.bind_any fun _ => Yields.pure hacc
    · refine Yields.bind (h name acc hacc) fun acc' hacc' => Yields.bind_any fun c' => ?_
      split
      · exact mapMembers_keeps h n ',' acc' hacc'
      · dsimp only
        split
        · exact Yields.bind_any fun _ => Yields.pure hacc'
        · exact Yields.pure hacc'

theorem readMapWith_keeps {each : String → α → ReadM α} (h : ∀ name, Keeps Q (each name)) :
    Keeps Q (readMapWith each) := by
  intro init hinit
  unfold readMapWith
  refine Yields.bind_any fun c => ?_
  split
  · refine Yields.bind_any fun c' => ?_
    split
    · exact Yields.bind_any fun _ => Yields.bind_any fun fuel =>
        mapMembers_keeps h fuel _ init hinit
    · split
      · exact Yields.pure hinit
      · exact Yields.bind_any fun _ => Yields.pure hinit
  · split
    · exact Yields.bind_any fun _ => Yields.pure hinit
    · exact Yields.bind_any fun _ => Yields.pure hinit

end Loops

theorem readValue_intFree : ∀ fuel, Yields Value.IntFree (readValue fuel)
  | 0 => Yields.pure trivial
  | fuel + 1 => by
    unfold readValue
    refine Yields.bind_any fun kind => ?_
    cases kind with
    | invalid => exact Yields.bind_any fun _ => Yields.pure trivial
    | string => exact Yields.bind_any fun _ => Yields.pure trivial
    | number => exact Yields.bind_any fun _ => Yields.pure trivial
    | null => exact Yields.bind_any fun _ => Yields.pure trivial
    | bool => exact Yields.bind_any fun _ => Yields.pure trivial
    | array =>
      -- every element is read by the same reading, one level less deep
      have helement : Keeps (fun acc : Array Value => ∀ v ∈ acc, v.IntFree)
          (fun (acc : Array Value) => return acc.push (← readValue fuel)) := by
        intro acc hacc
        refine Yields.bind (readValue_intFree fuel) fun v hv => Yields.pure ?_
        intro w hw
        rcases Array.mem_push.mp hw with hw | rfl
        exacts [hacc w hw, hv]
      refine Yields.bind (readArrayWith_keeps helement #[] (by simp)) fun items hitems => ?_
      exact Yields.pure ((Value.itemsIntFree_iff _).mpr fun v hv => hitems v (by simpa using hv))
    | object =>
      have hentry : ∀ name, Keeps (fun acc : Array (String × Value) => ∀ e ∈ acc, e.2.IntFree)
          (fun (acc : Array (String × Value)) => return acc.push (name, ← readValue fuel)) := by
        intro name acc hacc
        refine Yields.bind (readValue_intFree fuel) fun v hv => Yields.pure ?_
        intro e he
        rcases Array.mem_push.mp he with he | rfl
        exacts [hacc e he, hv]
      refine Yields.bind (readMapWith_keeps hentry #[] (by simp)) fun entries hentries => ?_
      exact Yields.pure (Value.intFree_dictOf fun e he => hentries e (by simpa using he))

theorem readAny_intFree : Yields Value.IntFree readAny :=
  Yields.bind_any fun fuel => readValue_intFree fuel

section Records

variable {α : Type} {P : α → Prop} {members : List (Member α)}

theorem Member.readInto_keeps {m : Member α} (h : Keeps P m.read) : Keeps P m.readInto :=
  fun x hx => Yields.bind (h x hx) fun _ hy => Yields.bind_any fun _ => Yields.pure hy

theorem readNamedMember_keeps (h : ∀ m ∈ members, Keeps P m.read) :
    Keeps P (readNamedMember members) := by
  intro x hx
  unfold readNamedMember
  refine Yields.bind_any fun name => Yields.bind_any fun c => ?_
  dsimp only
  split
  · refine Yields.bind_any fun _ => ?_
    split
    next m hm => exact Member.readInto_keeps (h m (List.mem_of_find?_eq_some hm)) x hx
    next => exact Yields.bind_any fun _ => Yields.pure hx
  · split
    next m hm => exact Member.readInto_keeps (h m (List.mem_of_find?_eq_some hm)) x hx
    next => exact Yields.bind_any fun _ => Yields.pure hx

theorem namedMembers_keeps (h : ∀ m ∈ members, Keeps P m.read) :
    ∀ fuel x, P x → Yields (fun p => P p.2) (namedMembers members fuel x)
  | 0, x, hx => Yields.bind_any fun _ => Yields.pure hx
  | n + 1, x, hx => by
    unfold namedMembers
    refine Yields.bind (readNamedMember_keeps h x hx) fun y hy => Yields.bind_any fun c => ?_
    split
    · exact namedMembers_keeps h n y hy
    · exact Yields.pure hy

theorem quickMembers_keeps (h : ∀ m ∈ members, Keeps P m.read) :
    ∀ fuel, Keeps P (quickMembers members fuel)
  | 0, _, hx => Yields.pure hx
  | n + 1, x, hx => by
    unfold quickMembers
    -- what follows a member, from a record read so far
    have hrest : ∀ y, P y →
        Yields P (isObjectEnd >>= fun e => if e = true then pure y else quickMembers members n y) :=
      fun y hy => Yields.bind_any fun e => by
        split
        · exact Yields.pure hy
        · exact quickMembers_keeps h n y hy
    refine Yields.bind_any fun key => ?_
    dsimp only
    split
    next m hm =>
      obtain ⟨key, -, hkey⟩ := Option.bind_eq_some_iff.mp hm
      exact Yields.bind (Member.readInto_keeps (h m (List.mem_of_find?_eq_some hkey)) x hx) hrest
    next => exact Yields.bind_any fun _ => Yields.bind (Yields.pure hx) hrest

theorem readRecord_keeps (typeName : String) (h : ∀ m ∈ members, Keeps P m.read) :
    Keeps P (readRecord typeName members) := by
  intro x hx
  unfold readRecord
  refine Yields.bind_any fun started => ?_
  split
  · exact Yields.pure hx
  · refine Yields.bind_any fun fuel => ?_
    split
    · exact Yields.bind (quickMembers_keeps h fuel x hx) fun y hy =>
        Yields.bind_any fun _ => Yields.pure hy
    · refine Yields.bind (namedMembers_keeps h fuel x hx) ?_
      rintro ⟨last, y⟩ hy
      refine Yields.bind_any fun _ => ?_
      dsimp only
      split
      · exact Yields.bind_any fun _ => Yields.pure hy
      · exact Yields.pure hy

theorem readOptional_keeps {zero : α} {read : α → ReadM α} (hzero : P zero) (h : Keeps P read) :
    Keeps (fun o : Option α => ∀ x ∈ o, P x) (readOptional zero read) := by
  intro old hold
  unfold readOptional
  refine Yields.bind_any fun isNil => ?_
  split
  · exact Yields.pure (by simp)
  · have hstart : P (old.getD zero) := by
      cases old with
      | none => exact hzero
      | some x => exact hold x rfl
    exact Yields.bind (h _ hstart) fun y hy => Yields.pure (by simpa using hy)

theorem readWhole_of_yields {read : ReadM α} (h : Yields P read) {bytes : Array UInt8} {x : α}
    (hx : readWhole read bytes = .ok x) : P x := by
  unfold readWhole at hx
  dsimp only at hx
  split at hx
  next y r hrun =>
    split at hx
    · cases hx
    · cases hx
      have hfst := congrArg Prod.fst hrun
      dsimp only at hfst
      rw [← hfst]
      -- the check for trailing bytes gives back what the reading gave
      refine Yields.bind h (fun z hz => Yields.bind_any fun c => ?_) _
      split
      · exact Yields.bind_any fun _ => Yields.pure hz
      · exact Yields.pure hz

end Records

section Slices

variable {α : Type} {P : α → Prop} {zero : α} {read : α → ReadM α}

theorem mem_of_mem_extract {xs : Array α} {x : α} {i j : Nat} (h : x ∈ xs.extract i j) : x ∈ xs := by
  obtain ⟨k, hk, rfl⟩ := Array.mem_extract_iff_getElem.mp h
  exact Array.getElem_mem _

theorem makeRoom_all (hzero : P zero) {store : Array α} (hs : ∀ x ∈ store, P x) (i : Nat) :
    ∀ x ∈ makeRoom zero store i, P x := by
  unfold makeRoom
  split
  · exact hs
  · intro x hx
    rcases Array.mem_append.mp hx with hx | hx
    · exact hs x (mem_of_mem_extract hx)
    · rw [(Array.mem_replicate.mp hx).2]
      exact hzero

theorem readElement_keeps (hzero : P zero) (h : Keeps P read) :
    Keeps (fun acc : Array α × Nat => ∀ x ∈ acc.1, P x) (readElement zero read) := by
  rintro ⟨store, i⟩ hs
  unfold readElement
  have hroom := makeRoom_all hzero hs i
  -- the element is read into the one at its place, or into the empty one
  have hstart : P ((makeRoom zero store i).getD i zero) := by
    rw [Array.getD_eq_getD_getElem?]
    cases hget : (makeRoom zero store i)[i]? with
    | none => exact hzero
    | some x => exact hroom x (Array.mem_of_getElem? hget)
  refine Yields.bind (h _ hstart) fun y hy => Yields.pure ?_
  intro x hx
  rcases Array.mem_or_eq_of_mem_setIfInBounds hx with hx | rfl
  exacts [hroom x hx, hy]

theorem readSlice_keeps (typeName : String) (hzero : P zero) (h : Keeps P read)
    {old : Option (List α)} {spare : List α} (hold : ∀ l ∈ old, ∀ x ∈ l, P x)
    (hspare : ∀ x ∈ spare, P x) :
    Yields (fun p : Option (List α) × List α => (∀ l ∈ p.1, ∀ x ∈ l, P x) ∧ ∀ x ∈ p.2, P x)
      (readSlice typeName zero read old spare) := by
  unfold readSlice
  refine Yields.bind ?_ fun p hp => Yields.bind_any fun _ => Yields.pure hp
  refine Yields.bind_any fun c => ?_
  split
  · exact Yields.bind_any fun _ => Yields.pure (by simp)
  · split
    · exact Yields.bind_any fun _ => Yields.pure ⟨hold, hspare⟩
    · refine Yields.bind_any fun c' => ?_
      split
      · exact Yields.pure (by simp)
      · have hstore : ∀ x ∈ (old.getD [] ++ spare).toArray, P x := by
          intro x hx
          rcases List.mem_append.mp (by simpa using hx) with hx | hx
          · cases old with
            | none => simp at hx
            | some l => exact hold l rfl x hx
          · exact hspare x hx
        refine Yields.bind_any fun _ => Yields.bind (readElement_keeps hzero h _ hstore) ?_
        intro first hfirst
        refine Yields.bind_any fun fuel =>
          Yields.bind (afterCommas_keeps (readElement_keeps hzero h) fuel first hfirst) ?_
        rintro ⟨last, store, n⟩ hlast
        -- the list and its room are the two parts of the storage
        have hparts : (∀ l ∈ some (store.extract 0 n).toList, ∀ x ∈ l, P x) ∧
            ∀ x ∈ (store.extract n).toList, P x := by
          simp only [Option.mem_def, Option.some.injEq, forall_eq', Array.mem_toList_iff]
          exact ⟨fun x hx => hlast x (mem_of_mem_extract hx),
            fun x hx => hlast x (mem_of_mem_extract hx)⟩
        dsimp only
        split
        · exact Yields.bind_any fun _ => Yields.pure hparts
        · exact Yields.pure hparts

theorem readPlainSlice_keeps (typeName : String) (hzero : P zero) (h : Keeps P read)
    {old spare : List α} (hold : ∀ x ∈ old, P x) (hspare : ∀ x ∈ spare, P x) :
    Yields (fun p : List α × List α => (∀ x ∈ p.1, P x) ∧ ∀ x ∈ p.2, P x)
      (readPlainSlice typeName zero read old spare) := by
  unfold readPlainSlice
  refine Yields.bind (readSlice_keeps typeName hzero h (by simpa using hold) hspare) ?_
  rintro ⟨items, rest⟩ ⟨hitems, hrest⟩
  refine Yields.pure ⟨fun x hx => ?_, hrest⟩
  cases items with
  | none => simp at hx
  | some l => exact hitems l rfl x hx

end Slices

end Json.Reader

end DruidQuery

namespace DruidQuery

open Json (ReadM)
open Json.Reader

def Filter.IntFree : Filter → Prop := Filter.branching.All fun f => f.value.IntFree

namespace Filter

theorem blank_intFree : blank.IntFree := Branching.all_of_leaf rfl rfl rfl trivial

theorem members_keep {child : Filter → ReadM Filter} (hchild : Keeps IntFree child) :
    ∀ m ∈ members child, Keeps IntFree m.read := by
  have hoptional := readOptional_keeps blank_intFree hchild
  simp only [members, List.mem_cons, List.not_mem_nil, or_false]
  rintro m (rfl | rfl | rfl | rfl | rfl | rfl | rfl | rfl) ⟨type, dimension, value, pattern,
    function, bound, field, fields, fieldsSpare⟩ hf <;>
    obtain ⟨hvalue, hfield, hfields, hspare⟩ := Branching.all_iff.mp hf
  -- every member but the value and the children leaves them as they are
  all_goals first
    | exact Yields.bind_any fun _ => Yields.pure (Branching.all_iff.mpr ⟨hvalue, hfield, hfields, hspare⟩)
    | skip
  · exact Yields.bind readAny_intFree fun v hv =>
      Yields.pure (Branching.all_iff.mpr ⟨hv, hfield, hfields, hspare⟩)
  · refine Yields.bind (hoptional field hfield) fun c hc => ?_
    exact Yields.pure (Branching.all_iff.mpr ⟨hvalue, hc, hfields, hspare⟩)
  · refine Yields.bind (readPlainSlice_keeps _ (by simp) hoptional hfields hspare) ?_
    rintro ⟨items, rest⟩ ⟨hitems, hrest⟩
    exact Yields.pure (Branching.all_iff.mpr ⟨hvalue, hfield, hitems, hrest⟩)

theorem readJsonNested_keeps : ∀ fuel, Keeps IntFree (readJsonNested fuel)
  | 0 => fun _ hf => Yields.pure hf
  | fuel + 1 => readRecord_keeps _ (members_keep (readJsonNested_keeps fuel))

theorem readJson_keeps : Keeps IntFree readJson :=
  fun f hf => Yields.bind_any fun fuel => readJsonNested_keeps fuel f hf

end Filter

def Having.IntFree : Having → Prop := Having.branching.All fun h => h.value.IntFree

namespace Having

theorem blank_intFree : blank.IntFree := Branching.all_of_leaf rfl rfl rfl trivial

theorem members_keep {child : Having → ReadM Having} (hchild : Keeps IntFree child) :
    ∀ m ∈ members child, Keeps IntFree m.read := by
  have hoptional := readOptional_keeps blank_intFree hchild
  simp only [members, List.mem_cons, List.not_mem_nil, or_false]
  rintro m (rfl | rfl | rfl | rfl | rfl) ⟨type, aggregation, value, spec, specs, specsSpare⟩ hh <;>
    obtain ⟨hvalue, hspec, hspecs, hspare⟩ := Branching.all_iff.mp hh
  -- the type and the aggregation leave the value and the children as they are
  all_goals first
    | exact Yields.bind_any fun _ => Yields.pure (Branching.all_iff.mpr ⟨hvalue, hspec, hspecs, hspare⟩)
    | skip
  · exact Yields.bind readAny_intFree fun v hv =>
      Yields.pure (Branching.all_iff.mpr ⟨hv, hspec, hspecs, hspare⟩)
  · refine Yields.bind (hoptional spec hspec) fun c hc => ?_
    exact Yields.pure (Branching.all_iff.mpr ⟨hvalue, hc, hspecs, hspare⟩)
  · refine Yields.bind (readPlainSlice_keeps _ (by simp) hoptional hspecs hspare) ?_
    rintro ⟨items, rest⟩ ⟨hitems, hrest⟩
    exact Yields.pure (Branching.all_iff.mpr ⟨hvalue, hspec, hitems, hrest⟩)

theorem readJsonNested_keeps : ∀ fuel, Keeps IntFree (readJsonNested fuel)
  | 0 => fun _ hh => Yields.pure hh
  | fuel + 1 => readRecord_keeps _ (members_keep (readJsonNested_keeps fuel))

theorem readJson_keeps : Keeps IntFree readJson :=
  fun h hh => Yields.bind_any fun fuel => readJsonNested_keeps fuel h hh

end Having

def PostAggregation.IntFree : PostAggregation → Prop :=
  PostAggregation.branching.All fun p => p.value.IntFree

namespace PostAggregation

theorem blank_intFree : blank.IntFree := Branching.all_of_leaf rfl rfl rfl trivial

theorem members_keep {child : PostAggregation → ReadM PostAggregation}
    (hchild : Keeps IntFree child) : ∀ m ∈ members child, Keeps IntFree m.read := by
  have hoptional := readOptional_keeps blank_intFree hchild
  simp only [members, List.mem_cons, List.not_mem_nil, or_false]
  rintro m (rfl | rfl | rfl | rfl | rfl | rfl | rfl | rfl | rfl | rfl | rfl | rfl | rfl | rfl |
    rfl | rfl) ⟨type, name, fn, func, fieldName, fieldNames, function, value, fields, field,
    numBuckets, bucketSize, offset, breaks, probability, probabilities, fieldNamesSpare, fieldsSpare,
    breaksSpare, probabilitiesSpare⟩ hp <;>
    obtain ⟨hvalue, hfield, hfields, hspare⟩ := Branching.all_iff.mp hp
  -- every member but the value and the operands leaves them as they are
  all_goals first
    | exact Yields.bind_any fun _ => Yields.pure (Branching.all_iff.mpr ⟨hvalue, hfield, hfields, hspare⟩)
    | skip
  · exact Yields.bind readAny_intFree fun v hv =>
      Yields.pure (Branching.all_iff.mpr ⟨hv, hfield, hfields, hspare⟩)
  · refine Yields.bind (readPlainSlice_keeps _ (by simp) hoptional hfields hspare) ?_
    rintro ⟨items, rest⟩ ⟨hitems, hrest⟩
    exact Yields.pure (Branching.all_iff.mpr ⟨hvalue, hfield, hitems, hrest⟩)
  · refine Yields.bind (hoptional field hfield) fun c hc => ?_
    exact Yields.pure (Branching.all_iff.mpr ⟨hvalue, hc, hfields, hspare⟩)

theorem readJsonNested_keeps : ∀ fuel, Keeps IntFree (readJsonNested fuel)
  | 0 => fun _ hp => Yields.pure hp
  | fuel + 1 => readRecord_keeps _ (members_keep (readJsonNested_keeps fuel))

theorem readJson_keeps : Keeps IntFree readJson :=
  fun p hp => Yields.bind_any fun fuel => readJsonNested_keeps fuel p hp

end PostAggregation

mutual

def Aggregation.IntFree : Aggregation → Prop
  | ⟨_, _, _, _, _, _, _, _, filter, aggregator, _⟩ =>
    (∀ f ∈ filter, f.IntFree) ∧ Aggregation.InnerIntFree aggregator

def Aggregation.InnerIntFree : Option Aggregation → Prop
  | none => True
  | some a => a.IntFree

end

namespace Aggregation

theorem innerIntFree_iff (c : Option Aggregation) : InnerIntFree c ↔ ∀ a ∈ c, a.IntFree := by
  cases c <;> simp [InnerIntFree]

theorem blank_intFree : blank.IntFree := ⟨by simp, trivial⟩

theorem members_keep {child : Aggregation → ReadM Aggregation} (hchild : Keeps IntFree child) :
    ∀ m ∈ members child, Keeps IntFree m.read := by
  simp only [members, List.mem_cons, List.not_mem_nil, or_false]
  rintro m (rfl | rfl | rfl | rfl | rfl | rfl | rfl | rfl | rfl | rfl) ⟨type, name, fieldName,
    fieldNames, fnAggregate, fnCombine, fnReset, byRow, filter, aggregator, fieldNamesSpare⟩
    ⟨hfilter, hinner⟩
  -- every member but the filter and the inner aggregator leaves them as they are
  all_goals first
    | exact Yields.bind_any fun _ => Yields.pure ⟨hfilter, hinner⟩
    | skip
  · refine Yields.bind (readOptional_keeps Filter.blank_intFree Filter.readJson_keeps filter hfilter)
      fun c hc => ?_
    exact Yields.pure ⟨hc, hinner⟩
  · refine Yields.bind (readOptional_keeps blank_intFree hchild aggregator
      ((innerIntFree_iff _).mp hinner)) fun c hc => ?_
    exact Yields.pure ⟨hfilter, (innerIntFree_iff _).mpr hc⟩

theorem readJsonNested_keeps : ∀ fuel, Keeps IntFree (readJsonNested fuel)
  | 0 => fun _ ha => Yields.pure ha
  | fuel + 1 => readRecord_keeps _ (members_keep (readJsonNested_keeps fuel))

theorem readJson_keeps : Keeps IntFree readJson :=
  fun a ha => Yields.bind_any fun fuel => readJsonNested_keeps fuel a ha

end Aggregation

def Query.IntFree (q : Query) : Prop :=
  (∀ f ∈ q.filter, f.IntFree) ∧ (∀ h ∈ q.having, h.IntFree) ∧
    (∀ c ∈ q.aggregations, ∀ a ∈ c, a.IntFree) ∧ (∀ c ∈ q.aggregationsSpare, ∀ a ∈ c, a.IntFree) ∧
    (∀ c ∈ q.postAggregations, ∀ p ∈ c, p.IntFree) ∧
    (∀ c ∈ q.postAggregationsSpare, ∀ p ∈ c, p.IntFree)

namespace Query

theorem members_keep : ∀ m ∈ members, Keeps IntFree m.read := by
  have haggregation := readOptional_keeps Aggregation.blank_intFree Aggregation.readJson_keeps
  have hpost := readOptional_keeps PostAggregation.blank_intFree PostAggregation.readJson_keeps
  simp only [members, List.mem_cons, List.not_mem_nil, or_false]
  rintro m (rfl | rfl | rfl | rfl | rfl | rfl | rfl | rfl | rfl | rfl | rfl | rfl | rfl | rfl |
    rfl | rfl | rfl | rfl | rfl | rfl | rfl | rfl | rfl) q ⟨hf, hh, ha, has, hp, hps⟩
  -- every member but the four that hold values leaves them as they are
  all_goals first
    | exact Yields.bind_any fun _ => Yields.pure ⟨hf, hh, ha, has, hp, hps⟩
    | skip
  · refine Yields.bind (readPlainSlice_keeps _ (by simp) haggregation ha has) ?_
    rintro ⟨items, rest⟩ ⟨hitems, hrest⟩
    exact Yields.pure ⟨hf, hh, hitems, hrest, hp, hps⟩
  · refine Yields.bind (readPlainSlice_keeps _ (by simp) hpost hp hps) ?_
    rintro ⟨items, rest⟩ ⟨hitems, hrest⟩
    exact Yields.pure ⟨hf, hh, ha, has, hitems, hrest⟩
  · refine Yields.bind (readOptional_keeps Filter.blank_intFree Filter.readJson_keeps _ hf)
      fun c hc => ?_
    exact Yields.pure ⟨hc, hh, ha, has, hp, hps⟩
  · refine Yields.bind (readOptional_keeps Having.blank_intFree Having.readJson_keeps _ hh)
      fun c hc => ?_
    exact Yields.pure ⟨hf, hc, ha, has, hp, hps⟩

theorem ofText_intFree {text : String} {q : Query} (h : ofText text = .ok q) : q.IntFree := by
  have hempty : IntFree {} := by simp [IntFree]
  exact readWhole_of_yields (readRecord_keeps _ members_keep {} hempty) h

end Query

def selectingQueryText (value : Nat) : String :=
  "\x7b\"queryType\":\"\",\"filter\":\x7b\"type\":\"selector\",\"dimension\":\"d\",\"value\":" ++
    toString value ++ "\x7d\x7d"

theorem wide_integer_text_reads_without_integers :
    ∃ q : Query, Query.ofText (selectingQueryText 9007199254740993) = .ok q ∧ q.IntFree := by
  have hreads : (Query.ofText (selectingQueryText 9007199254740993)).toBool = true := by
    decide +kernel
  cases h : Query.ofText (selectingQueryText 9007199254740993) with
  | ok q => exact ⟨q, rfl, Query.ofText_intFree h⟩
  | error e => simp [h, Except.toBool] at hreads

/-- A query whose filter selects `2^53 + 1` is written with the integer as it is; read back, the
integer is the double `2^53`, and the query is written again with that. -/
theorem wide_integer_written_back_as_double :
    ∃ q : Query, q.toJson.compact = selectingQueryText 9007199254740993 ∧
      (Query.ofText q.toJson.compact).map (·.toJson.compact) =
        .ok (selectingQueryText 9007199254740992) :=
  ⟨{ filter := some (Filter.selector "d" (.int 9007199254740993)) }, by decide +kernel,
    by decide +kernel⟩

end DruidQuery
