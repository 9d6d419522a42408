/-
The properties of a composed schema, and where they go.

A schema has the keys of its own properties and those of all parts that it is composed of,
to any depth; a part that refers to a schema stands for that schema.  This is
`InComposition`, which is stated without a look at how classes are made.

When a class is made from the schema, one part becomes its base type: the first that is a
reference, if the schema is no array, since the base type of an array is a collection.  All
other parts are flattened: their own properties are merged into those of the class, one after
the other (`addParts_spec`, `addParts_based`).  The parts that a flattened part is composed of
itself are not looked into, and this is what `Buried` is about.
-/
import OpenApiClient.Proofs.Emission

set_option autoImplicit false

namespace OpenApiClient.Generate

open Schema

/-! ## Keys -/

/-- A list of keys has a given one, or one that is the same. -/
def Covers (keys : List Scalar) (key : Scalar) : Prop := ∃ k ∈ keys, k = key ∨ k.same key

/-- The keys `keys'` are the keys `keys` with `extra` added to them. -/
structure Adds (keys extra keys' : List Scalar) : Prop where
  from_either : ∀ k ∈ keys', k ∈ keys ∨ k ∈ extra
  kept : ∀ k ∈ keys, k ∈ keys'
  added : ∀ k ∈ extra, Covers keys' k

theorem Covers.of_mem {keys : List Scalar} {key : Scalar} (h : key ∈ keys) : Covers keys key :=
  ⟨key, h, .inl rfl⟩

theorem Covers.mono {keys keys' : List Scalar} {key : Scalar} (h : Covers keys key)
    (hsub : ∀ k ∈ keys, k ∈ keys') : Covers keys' key := by
  obtain ⟨k, hk, hsame⟩ := h
  exact ⟨k, hsub k hk, hsame⟩

theorem Adds.refl (keys : List Scalar) : Adds keys [] keys :=
  ⟨fun _ h => .inl h, fun _ h => h, by simp⟩

theorem Adds.trans {keys keys₁ keys₂ extra₁ extra₂ : List Scalar} (h₁ : Adds keys extra₁ keys₁)
    (h₂ : Adds keys₁ extra₂ keys₂) : Adds keys (extra₁ ++ extra₂) keys₂ := by
  refine ⟨?_, fun k hk => h₂.kept k (h₁.kept k hk), ?_⟩
  · intro k hk
    rcases h₂.from_either k hk with hk | hk
    · rcases h₁.from_either k hk with hk | hk
      · exact .inl hk
      · exact .inr (List.mem_append_left _ hk)
    · exact .inr (List.mem_append_right _ hk)
  · intro k hk
    rcases List.mem_append.1 hk with hk | hk
    · exact (h₁.added k hk).mono h₂.kept
    · exact h₂.added k hk

/-- A key that is written keeps the keys that stand, and is covered afterwards. -/
theorem adds_insert (ms : Members) (key : Scalar) (v : Value) :
    Adds (ms.map (·.1)) [key] ((ms.insert key v).map (·.1)) := by
  induction ms with
  | nil =>
    refine ⟨fun _ h => .inr h, by simp, ?_⟩
    intro k hk
    exact Covers.of_mem hk
  | cons m ms ih =>
    rw [Members.insert]
    by_cases hsame : m.1.same key
    · rw [if_pos hsame]
      refine ⟨fun _ h => .inl h, fun _ h => h, ?_⟩
      intro k hk
      rw [List.mem_singleton.1 hk]
      exact ⟨m.1, List.mem_cons_self, .inr hsame⟩
    · rw [if_neg hsame, List.map_cons, List.map_cons]
      refine ⟨?_, ?_, ?_⟩
      · intro k hk
        rcases List.mem_cons.1 hk with rfl | hk
        · exact .inl List.mem_cons_self
        · exact (ih.from_either k hk).imp_left (List.mem_cons_of_mem _)
      · intro k hk
        rcases List.mem_cons.1 hk with rfl | hk
        · exact List.mem_cons_self
        · exact List.mem_cons_of_mem _ (ih.kept k hk)
      · intro k hk
        exact (ih.added k hk).mono fun _ => List.mem_cons_of_mem _

theorem adds_update (ms extra : Members) :
    Adds (ms.map (·.1)) (extra.map (·.1)) ((ms.update extra).map (·.1)) := by
  unfold Members.update
  induction extra generalizing ms with
  | nil => exact Adds.refl _
  | cons m extra ih => exact (adds_insert ms m.1 m.2).trans (ih (ms.insert m.1 m.2))

/-! ## Composed schemas -/

/-- The keys of the own properties of a schema. -/
def ownKeys (v : Value) : List Scalar :=
  match Value.membersOrNone (v.member? "properties") with
  | .ok ms => ms.map (·.1)
  | .error _ => []

/-- The own properties of a schema. -/
def ownProperties (v : Value) : Members :=
  (Value.membersOrNone (v.member? "properties")).toOption.getD []

theorem map_ownProperties (v : Value) : (ownProperties v).map (·.1) = ownKeys v := by
  unfold ownProperties ownKeys
  cases Value.membersOrNone (v.member? "properties") with
  | error e => rfl
  | ok ms => rfl

/-- The own properties of several schemas in turn, merged into given ones. -/
def merged (ms : Members) (vs : List Value) : Members :=
  vs.foldl (fun ms v => ms.update (ownProperties v)) ms

theorem adds_merged (ms : Members) (vs : List Value) :
    Adds (ms.map (·.1)) (vs.flatMap ownKeys) ((merged ms vs).map (·.1)) := by
  unfold merged
  induction vs generalizing ms with
  | nil => exact Adds.refl _
  | cons v vs ih =>
    rw [List.flatMap_cons, ← map_ownProperties]
    exact (adds_update ms (ownProperties v)).trans (ih (ms.update (ownProperties v)))

/-- The parts that a schema is composed of. -/
def partsOf (v : Value) : List Value := (compositionParts v).toOption.getD []

theorem partsOf_eq {v : Value} {parts : List Value} (h : compositionParts v = .ok parts) :
    partsOf v = parts := by
  unfold partsOf
  rw [h]
  rfl

/-- Whether a part of a composition refers to a schema. -/
def isReference (part : Value) : Bool := (partReference part).toOption.join.isSome

/-- The schema that a part of a composition stands for. -/
def partSchema (c : Catalogue) (part : Value) : Value :=
  match partReference part with
  | .ok (some written) =>
    match Catalogue.refText written with
    | .ok ref => c.refSchema ref
    | .error _ => part
  | _ => part

/-- A key is one of the properties of a schema or, to any depth, of a part of it. -/
inductive InComposition (c : Catalogue) : Value → Scalar → Prop where
  | own {v : Value} {key : Scalar} (h : key ∈ ownKeys v) : InComposition c v key
  | part {v part : Value} {key : Scalar} (hpart : part ∈ partsOf v)
    (h : InComposition c (partSchema c part) key) : InComposition c v key

/-! ### Base types and flattened parts -/

/-- Whether a schema is an array, and so derived from a collection. -/
def isArray (v : Value) : Bool := (v.memberOrNull "type").text? == some "array"

/-- The part that becomes the base type. -/
def basePart? (v : Value) : Option Value :=
  if isArray v then none else (partsOf v).find? isReference

/-- The parts of which the properties are added to the class. -/
def flattenedParts (v : Value) : List Value :=
  if isArray v then partsOf v else (partsOf v).eraseP isReference

/-- The merged property map of a schema: its own properties, and those of its flattened parts. -/
def mergedProperties (c : Catalogue) (v : Value) : Members :=
  merged [] (v :: (flattenedParts v).map (partSchema c))

/-- A part is the base type or is flattened. -/
theorem basePart_or_flattened {v part : Value} (h : part ∈ partsOf v) :
    basePart? v = some part ∨ part ∈ flattenedParts v := by
  unfold basePart? flattenedParts
  by_cases ha : isArray v
  · rw [if_pos ha, if_pos ha]
    exact .inr h
  · rw [if_neg ha, if_neg ha]
    generalize partsOf v = ps at h
    induction ps with
    | nil => cases h
    | cons q qs ih =>
      -- the first reference is the base part, and whatever else there is gets flattened
      rw [List.find?_cons, List.eraseP_cons]
      cases hq : isReference q with
      | true =>
        rcases List.mem_cons.1 h with rfl | h
        · exact .inl rfl
        · exact .inr h
      | false =>
        rcases List.mem_cons.1 h with rfl | h
        · exact .inr List.mem_cons_self
        · exact (ih h).imp_right (List.mem_cons_of_mem _)

theorem mem_partsOf_of_flattened {v part : Value} (h : part ∈ flattenedParts v) :
    part ∈ partsOf v := by
  unfold flattenedParts at h
  split at h
  · exact h
  · exact List.mem_of_mem_eraseP h

theorem mem_partsOf_of_base {v part : Value} (h : basePart? v = some part) :
    part ∈ partsOf v := by
  unfold basePart? at h
  split at h
  · cases h
  · exact List.mem_of_find?_eq_some h

/-- A key that no class is made to carry: it stands in a part of a flattened part, or behind a
base type that is no class because its schema lists values. -/
inductive Buried (c : Catalogue) : Value → Scalar → Prop where
  | flattened {v part inner : Value} {key : Scalar} (hpart : part ∈ flattenedParts v)
    (hinner : inner ∈ partsOf (partSchema c part))
    (h : InComposition c (partSchema c inner) key) : Buried c v key
  | values {v part : Value} {key : Scalar} (hpart : basePart? v = some part)
    (hlists : (partSchema c part).listsValues) (h : InComposition c (partSchema c part) key) :
    Buried c v key
  | base {v part : Value} {key : Scalar} (hpart : basePart? v = some part)
    (h : Buried c (partSchema c part) key) : Buried c v key

theorem Buried.inComposition {c : Catalogue} {v : Value} {key : Scalar} (h : Buried c v key) :
    InComposition c v key := by
  induction h with
  | flattened hpart hinner h => exact .part (mem_partsOf_of_flattened hpart) (.part hinner h)
  | values hpart _ h => exact .part (mem_partsOf_of_base hpart) h
  | base hpart _ ih => exact .part (mem_partsOf_of_base hpart) ih

/-! ## What the parts add -/

section Parts

variable {c : Catalogue} {parts parts' : ClassParts}

theorem add_spec {v : Value} (h : parts.add v = .ok parts') :
    parts'.bases = parts.bases ∧ parts'.properties = merged parts.properties [v] := by
  unfold ClassParts.add at h
  by_cases hobject : v.isObject
  · simp only [hobject, Bool.not_true, Bool.false_eq_true, if_false] at h
    obtain ⟨properties, hproperties, h⟩ := bind_eq_ok_iff.1 h
    obtain ⟨required, -, h⟩ := bind_eq_ok_iff.1 h
    cases h
    refine ⟨rfl, ?_⟩
    rw [merged, List.foldl_cons, List.foldl_nil, ownProperties, hproperties]
    rfl
  · simp only [hobject, Bool.not_false, if_true] at h
    cases h

/-- A type has the name of the schema that a part stands for. -/
def NamesPart (c : Catalogue) (part : Value) (type : String) : Prop :=
  ∃ e ∈ c.schemas, partSchema c part = e.2 ∧ c.typeName e.1 = type

/-- One part: the first reference gives the base type, and any other part is flattened. -/
theorem addPart_spec {part : Value} (h : addPart c parts part = .ok parts') :
    (parts.bases = [] ∧ isReference part ∧ parts'.properties = parts.properties
        ∧ ∃ type, parts'.bases = [type] ∧ NamesPart c part type)
      ∨ ((parts.bases ≠ [] ∨ ¬ isReference part) ∧ parts'.bases = parts.bases
        ∧ parts'.properties = merged parts.properties [partSchema c part]) := by
  unfold addPart at h
  obtain ⟨written?, hwritten, h⟩ := bind_eq_ok_iff.1 h
  rw [mapError_eq_ok_iff] at hwritten
  cases written? with
  | none =>
    have hplain : partSchema c part = part := by
      unfold partSchema
      rw [hwritten]
    have hreference : ¬ isReference part := by
      unfold isReference
      rw [hwritten]
      exact Bool.false_ne_true
    rw [hplain]
    exact .inr ⟨.inr hreference, add_spec (mapError_eq_ok_iff.1 h)⟩
  | some written =>
    -- a reference is the base type or is flattened, as there is none yet or is one already
    obtain ⟨ref, href, h⟩ := bind_eq_ok_iff.1 h
    have htarget : partSchema c part = c.refSchema ref := by
      unfold partSchema
      rw [hwritten]
      dsimp only
      rw [href]
    have hreference : isReference part := by
      unfold isReference
      rw [hwritten]
      rfl
    by_cases hb : parts.bases.isEmpty
    · simp only [hb, if_true] at h
      obtain ⟨type, htype, h⟩ := bind_eq_ok_iff.1 h
      cases h
      obtain ⟨key, v, ht, hs, hname⟩ := Catalogue.refName_eq_ok_iff.1 htype
      refine .inl ⟨List.isEmpty_iff.1 hb, hreference, rfl, type, rfl, ?_⟩
      refine ⟨(key, v), Catalogue.mem_of_schema? hs, ?_, hname⟩
      rw [htarget, Catalogue.refSchema_eq ht hs]
    · simp only [hb, Bool.false_eq_true, if_false] at h
      rw [htarget]
      refine .inr ⟨.inl ?_, add_spec (mapError_eq_ok_iff.1 h)⟩
      simpa using hb

/-- Below a base type all parts are flattened. -/
theorem addParts_based {ps : List Value} (hb : parts.bases ≠ [])
    (h : ps.foldlM (addPart c) parts = .ok parts') :
    parts'.bases = parts.bases
      ∧ parts'.properties = merged parts.properties (ps.map (partSchema c)) := by
  induction ps generalizing parts with
  | nil =>
    cases h
    exact ⟨rfl, rfl⟩
  | cons p ps ih =>
    rw [List.foldlM_cons] at h
    obtain ⟨next, hnext, h⟩ := bind_eq_ok_iff.1 h
    rcases addPart_spec hnext with ⟨hnone, -⟩ | ⟨-, hbases, hproperties⟩
    · exact absurd hnone hb
    · rw [← hbases] at hb
      obtain ⟨hbases', hproperties'⟩ := ih hb h
      rw [hproperties] at hproperties'
      exact ⟨hbases'.trans hbases, hproperties'⟩

/-- Without a base type, the first reference becomes the base type and the other parts are
flattened. -/
theorem addParts_spec {ps : List Value} (hb : parts.bases = [])
    (h : ps.foldlM (addPart c) parts = .ok parts') :
    (∀ type ∈ parts'.bases, ∃ part, ps.find? isReference = some part ∧ NamesPart c part type)
      ∧ (∀ part, ps.find? isReference = some part → ∃ type ∈ parts'.bases, NamesPart c part type)
      ∧ parts'.properties
          = merged parts.properties ((ps.eraseP isReference).map (partSchema c)) := by
  induction ps generalizing parts with
  | nil =>
    cases h
    refine ⟨?_, by simp, rfl⟩
    rw [hb]
    simp
  | cons p ps ih =>
    rw [List.foldlM_cons] at h
    obtain ⟨next, hnext, h⟩ := bind_eq_ok_iff.1 h
    rw [List.find?_cons, List.eraseP_cons]
    rcases addPart_spec hnext with
      ⟨-, hreference, hproperties, type, htype, hname⟩ | ⟨hor, hbases, hproperties⟩
    · -- the first reference: below it everything is flattened
      rw [hreference]
      have hne : next.bases ≠ [] := by
        rw [htype]
        simp
      obtain ⟨hbases, hproperties'⟩ := addParts_based hne h
      rw [hproperties] at hproperties'
      rw [hbases, htype]
      refine ⟨?_, ?_, hproperties'⟩
      · intro t ht
        rw [List.mem_singleton.1 ht]
        exact ⟨p, rfl, hname⟩
      · rintro _ ⟨⟩
        exact ⟨type, List.mem_singleton.2 rfl, hname⟩
    · have hreference : isReference p = false := by
        rcases hor with hne | hnot
        · exact absurd hb hne
        · simpa using hnot
      rw [hreference]
      obtain ⟨hto, hfrom, hproperties'⟩ := ih (hbases.trans hb) h
      rw [hproperties] at hproperties'
      exact ⟨hto, hfrom, hproperties'⟩

end Parts

end OpenApiClient.Generate
