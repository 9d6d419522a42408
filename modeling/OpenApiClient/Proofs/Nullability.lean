/-
Which types are marked as nullable.

The type of a schema can be the type of another one: a composition with one part has the type of
the part, and a reference to a list of numbers that of the list.  So a schema *stands for* the one
at the end of such a chain (`StandsFor`), and that schema alone decides which kind of type there
is: a built-in one, a collection, or the name of a class or of an enumeration.  That a name is one
of an enumeration can be read off the name, since all names are different and none is spelled like
a type of the language (`enumName_iff`).

The mark is set by looking at two other things: the text of the type, which is that of the end of
the chain, and the outermost schema, which is where the chain begins.  A reference to an
enumeration is looked through, but no composition is.
-/
import OpenApiClient.Proofs.Calls
import OpenApiClient.Proofs.DeclaredNames

set_option autoImplicit false

namespace OpenApiClient

open CSharp (TypeRef TypeUse Builtin)

/-! ## Names and texts of types -/

namespace Naming

/-- Whether a text begins with a small letter. -/
def startsSmall (s : String) : Bool := s.toList.head?.any Char.isLower

theorem IsCapital.not_small {s : String} (h : IsCapital s.toList) : ¬ startsSmall s := by
  obtain ⟨c, r, hcr, hc⟩ := h.head
  rw [startsSmall, hcr, List.head?_cons, Option.any_some, isLower_iff]
  rcases hc with hc | rfl
  · rw [isUpper_iff] at hc
    omega
  · decide

/-- A number does not begin with a small letter. -/
theorem not_small_numbered (k : Nat) : ¬ startsSmall (numbered "" k) := by
  rw [startsSmall, numbered, String.empty_append, Nat.toString_eq_repr, Nat.toList_repr]
  cases hdigits : Nat.toDigits 10 k with
  | nil => exact Bool.false_ne_true
  | cons c r =>
    have hmem : c ∈ Nat.toDigits 10 k := by
      rw [hdigits]
      exact List.mem_cons_self
    have hdigit := Nat.isDigit_of_mem_toDigits (by decide) (by decide) hmem
    have hle : c.toNat ≤ 57 := (Char.isDigit_iff_toNat.1 hdigit).2
    rw [List.head?_cons, Option.any_some, isLower_iff]
    omega

end Naming

namespace Schema

/-- No name that is made from an owner begins with a small letter, also if there is nothing in the
owner that a name can be made from. -/
theorem not_small_wantedName (taken : List String) (owner : String) :
    ¬ Naming.startsSmall (Naming.fresh taken (wantedName owner)) := by
  by_cases hempty : wantedName owner = ""
  · rw [hempty]
    rcases Naming.fresh_eq taken "" with he | ⟨k, -, he⟩
    · rw [he]
      decide
    · rw [he]
      exact Naming.not_small_numbered k
  · refine (Naming.isCapital_fresh taken ?_).not_small
    unfold wantedName at hempty ⊢
    by_cases howner : owner = ""
    · rw [if_pos howner]
      exact Naming.isCapital_cons (by decide) (Naming.isSpelled_of_all (by decide))
    · rw [if_neg howner] at hempty ⊢
      exact Naming.isCapital_pascalCase hempty

/-- The texts of types that are not named are small, or have characters that no name has. -/
theorem small_or_not_spelled {t : TypeRef} (ht : ∀ name, t ≠ .named name) :
    Naming.startsSmall t.render ∨ ¬ Naming.IsSpelled t.render.toList := by
  cases t with
  | builtin b =>
    cases b
    case bytes => exact .inr fun h => absurd (h '[' (by decide)) (by decide)
    case dateTimeOffset | timeSpan | guid =>
      exact .inr fun h => absurd (by decide) h.point_not_mem
    all_goals exact .inl (by decide)
  | named name => exact absurd rfl (ht name)
  | collection item | dictionary value =>
    refine .inr fun h => h.point_not_mem ?_
    simp only [TypeRef.render, String.toList_append, List.mem_append]
    exact .inl (.inl (.inl (by decide)))

/-! ## What a schema stands for -/

/-- A schema stands for the one whose type it has: the last one on the way through references to
lists of numbers and compositions with one part. -/
inductive StandsFor (c : Catalogue) : Value → Value → Prop where
  | here {v : Value} {f : Form} (hf : form c v = .ok f) (hend : ∀ w, f ≠ .sameAs w) :
    StandsFor c v v
  | next {v w u : Value} (hf : form c v = .ok (.sameAs w)) (h : StandsFor c w u) :
    StandsFor c v u

/-- A form is a type with a name. -/
def Form.hasName : Form → Bool
  | .named _ | .own => true
  | _ => false

/-- A schema is an enumeration or a reference to one, and its type is the name of that. -/
def IsNamedEnum (c : Catalogue) (v : Value) : Prop :=
  c.isEnum v = .ok true ∧ ∃ f, form c v = .ok f ∧ f.hasName

/-- An enumeration is declared under a name: a named schema, or an object of the ledger. -/
def EnumName (c : Catalogue) (l : Ledger) (name : String) : Prop :=
  (∃ key v, c.schema? key = some v ∧ v.isEnumSchema ∧ c.typeName key = name)
    ∨ ∃ e ∈ l.inlined, e.2.isEnumSchema ∧ e.1 = name

section Kinds

variable {c : Catalogue} {v u : Value}

theorem StandsFor.met (h : StandsFor c v u) : Met c v u := by
  induction h with
  | here => exact .here _
  | next hf _ ih => exact .next hf List.mem_cons_self ih

/-- There is one schema only that a schema stands for. -/
theorem StandsFor.unique {w : Value} (h : StandsFor c v u) (h' : StandsFor c v w) : u = w := by
  induction h with
  | here hf hend =>
    cases h' with
    | here => rfl
    | next hf' =>
      rw [hf] at hf'
      cases hf'
      exact absurd rfl (hend _)
  | next hf _ ih =>
    cases h' with
    | here hf' hend =>
      rw [hf] at hf'
      cases hf'
      exact absurd rfl (hend _)
    | next hf' h' =>
      rw [hf] at hf'
      cases hf'
      exact ih h'

/-- A type that is found is the one of the schema that is stood for. -/
theorem exists_standsFor {owner : String} {fuel : Nat} {t : TypeRef} {l l' : Ledger}
    (h : Returns (typeWith c owner fuel v) l t l') :
    ∃ u f n, StandsFor c v u ∧ form c u = .ok f ∧ (∀ w, f ≠ .sameAs w)
      ∧ Returns (typeWith c owner (n + 1) u) l t l' := by
  induction fuel generalizing v with
  | zero => exact (returns_throw_iff.1 h).elim
  | succ fuel ih =>
    obtain ⟨f, hf, hstep⟩ := returns_typeWith_succ_iff.1 h
    by_cases hend : ∀ w, f ≠ .sameAs w
    · exact ⟨v, f, fuel, .here hf hend, hf, hend, h⟩
    · push Not at hend
      obtain ⟨w, rfl⟩ := hend
      cases hstep with
      | sameAs hw =>
        obtain ⟨u, f, n, hstands, hrest⟩ := ih hw
        exact ⟨u, f, n, .next hf hstands, hrest⟩

/-- A type is named after the schema that a reference is to, and that is what is looked at to see
whether it is an enumeration. -/
theorem form_named {name : String} (h : form c v = .ok (.named name)) :
    ∃ key w, c.schema? key = some w ∧ c.typeName key = name
      ∧ c.isEnum v = .ok w.isEnumSchema := by
  rcases form_cases h with h | ⟨-, ⟨written, hwritten, h⟩ | ⟨-, ⟨key, part, -, h⟩ | h⟩⟩
  · cases h
  · obtain ⟨ref, href, ⟨-, type, htype, h⟩ | ⟨-, h⟩⟩ := referenceForm_cases h
    · cases h
      obtain ⟨key, w, ht, hs, hname⟩ := Catalogue.refName_eq_ok_iff.1 htype
      refine ⟨key, w, hs, hname, ?_⟩
      unfold Catalogue.isEnum
      rw [hwritten]
      dsimp only
      rw [href, ← Catalogue.refSchema_eq ht hs]
      rfl
    · cases h
  · cases h
  · rcases plainForm_cases h with h | ⟨b, h⟩ | ⟨key, h⟩ | ⟨key, h⟩ <;> cases h

/-- A schema with a type of its own is looked at itself to see whether it is an enumeration. -/
theorem isEnum_of_own (h : form c v = .ok .own) : c.isEnum v = .ok v.isEnumSchema := by
  rcases form_cases h with h | ⟨-, ⟨written, -, h⟩ | ⟨hnone, -⟩⟩
  · cases h
  · obtain ⟨ref, -, ⟨-, type, -, h⟩ | ⟨-, h⟩⟩ := referenceForm_cases h <;> cases h
  · unfold Catalogue.isEnum
    rw [hnone]

end Kinds

/-! ## The name of an enumeration -/

section Names

variable {schemas : List (String × Value)} {pool : List Nat} {l : Ledger}

/-- The type name of a named schema is on the list of the catalogue. -/
theorem mem_typeNames {key : String} {v : Value}
    (h : (Catalogue.ofSchemas schemas).schema? key = some v) :
    (key, (Catalogue.ofSchemas schemas).typeName key)
      ∈ (Catalogue.ofSchemas schemas).typeNames := by
  have hkeys : (Catalogue.ofSchemas schemas).typeNames.map (·.1) = schemas.map (·.1) := by
    have hlength := Naming.freshAll_length [] ((schemas.map (·.1)).map Naming.schemaTypeName)
    rw [List.length_map] at hlength
    exact List.map_fst_zip (Nat.le_of_eq hlength.symm)
  have hkey : key ∈ (Catalogue.ofSchemas schemas).typeNames.map (·.1) := by
    rw [hkeys]
    exact List.mem_map_of_mem (Catalogue.mem_of_schema? h)
  unfold Catalogue.typeName
  cases hlookup : (Catalogue.ofSchemas schemas).typeNames.lookup key with
  | none =>
    obtain ⟨e, he, rfl⟩ := List.mem_map.1 hkey
    have hne := List.lookup_eq_none_iff.1 hlookup e he
    rw [bne_self_eq_false] at hne
    cases hne
  | some type => exact mem_of_lookup hlookup

/-- An enumeration that is declared under the type name of a named schema is that schema. -/
theorem enumName_typeName_iff (hl : l.Sound (Catalogue.ofSchemas schemas) pool) {key : String}
    {v : Value} (h : (Catalogue.ofSchemas schemas).schema? key = some v) :
    EnumName (Catalogue.ofSchemas schemas) l ((Catalogue.ofSchemas schemas).typeName key)
      ↔ v.isEnumSchema := by
  obtain ⟨hnames, -, hapart⟩ := List.nodup_append.1 hl.names
  have hmem := mem_typeNames h
  constructor
  · rintro (⟨other, w, hw, henum, hname⟩ | ⟨e, he, -, hname⟩)
    · have hother := mem_typeNames hw
      rw [hname] at hother
      have hsame := List.inj_on_of_nodup_map hnames hother hmem rfl
      obtain ⟨rfl, -⟩ := Prod.mk.inj hsame
      rw [h] at hw
      cases hw
      exact henum
    · refine absurd hname.symm (hapart _ (List.mem_map_of_mem hmem) _ ?_)
      exact List.mem_map_of_mem he
  · exact fun henum => .inl ⟨key, v, h, henum, rfl⟩

/-- An enumeration that is declared under the name of an object of the ledger is that object. -/
theorem enumName_inlined_iff (hl : l.Sound (Catalogue.ofSchemas schemas) pool)
    {e : String × Value} (he : e ∈ l.inlined) :
    EnumName (Catalogue.ofSchemas schemas) l e.1 ↔ e.2.isEnumSchema := by
  obtain ⟨-, hinlined, hapart⟩ := List.nodup_append.1 hl.names
  constructor
  · rintro (⟨key, w, hw, -, hname⟩ | ⟨e', he', henum, hname⟩)
    · refine absurd hname (hapart _ (List.mem_map_of_mem (mem_typeNames hw)) _ ?_)
      exact List.mem_map_of_mem he
    · rw [← List.inj_on_of_nodup_map hinlined he' he hname]
      exact henum
  · exact fun henum => .inr ⟨e, he, henum, rfl⟩

/-- A type without a name is not written like the name of an enumeration. -/
theorem not_enumName_of_unnamed (hl : l.Sound (Catalogue.ofSchemas schemas) pool)
    (hsmall : ∀ e ∈ l.inlined, ¬ Naming.startsSmall e.1) {t : TypeRef}
    (ht : ∀ name, t ≠ .named name) : ¬ EnumName (Catalogue.ofSchemas schemas) l t.render := by
  rintro (⟨key, v, hv, -, hname⟩ | ⟨e, he, -, hname⟩)
  · have hcapital := Generate.isCapital_typeName schemas key
    rw [hname] at hcapital
    exact (small_or_not_spelled ht).elim hcapital.not_small fun h => h hcapital.spelled
  · have hnot := small_or_not_spelled ht
    rw [← hname] at hnot
    exact hnot.elim (hsmall e he) fun h => h (hl.spelled e he)

/-- At the end of a way down, the type is the name of an enumeration exactly if that is what
stands there. -/
theorem enumName_iff {owner : String} {fuel : Nat} {u : Value} {f : Form} {t : TypeRef}
    {l₀ : Ledger} (hf : form (Catalogue.ofSchemas schemas) u = .ok f) (hend : ∀ w, f ≠ .sameAs w)
    (h : Returns (typeWith (Catalogue.ofSchemas schemas) owner (fuel + 1) u) l₀ t l)
    (hl : l.Sound (Catalogue.ofSchemas schemas) pool)
    (hsmall : ∀ e ∈ l.inlined, ¬ Naming.startsSmall e.1)
    (hsame : ∀ e ∈ l.inlined, objectNumber? e.2 = objectNumber? u → e.2 = u) :
    EnumName (Catalogue.ofSchemas schemas) l t.render
      ↔ IsNamedEnum (Catalogue.ofSchemas schemas) u := by
  have hname : IsNamedEnum (Catalogue.ofSchemas schemas) u
      ↔ (Catalogue.ofSchemas schemas).isEnum u = .ok true ∧ f.hasName := by
    unfold IsNamedEnum
    rw [hf]
    simp
  rw [hname]
  obtain ⟨f', hf', hstep⟩ := returns_typeWith_succ_iff.1 h
  rw [hf] at hf'
  cases hf'
  cases hstep with
  | named =>
    obtain ⟨key, v, hv, rfl, henum⟩ := form_named hf
    rw [henum, TypeRef.render, enumName_typeName_iff hl hv]
    simp [Form.hasName]
  | @own name _ hname =>
    -- whether it had its name before or has been given it now, the object is in the ledger
    have hentry : ∃ e ∈ l.inlined, e.1 = name ∧ objectNumber? e.2 = objectNumber? u := by
      rcases returns_inlineName_iff.1 hname with ⟨hn, rfl⟩ | ⟨-, rfl, rfl⟩
      · exact Ledger.mem_of_nameOf? hn
      · exact ⟨_, List.mem_append_right _ List.mem_cons_self, rfl, rfl⟩
    obtain ⟨e, he, rfl, hnumber⟩ := hentry
    rw [isEnum_of_own hf, ← hsame e he hnumber, TypeRef.render, enumName_inlined_iff hl he]
    simp [Form.hasName]
  | sameAs => exact absurd rfl (hend _)
  | @builtin b =>
    simpa [Form.hasName] using not_enumName_of_unnamed hl hsmall (t := .builtin b) (by simp)
  | @collection _ t =>
    simpa [Form.hasName] using not_enumName_of_unnamed hl hsmall (t := .collection t) (by simp)
  | @dictionary _ t =>
    simpa [Form.hasName] using not_enumName_of_unnamed hl hsmall (t := .dictionary t) (by simp)

end Names

/-! ## The mark -/

/-- Numbers tell the schemas apart that are met on the ways down from some schemas: objects with
one number are one object. -/
def Catalogue.TellsApart (c : Catalogue) (vs : List Value) : Prop :=
  ∀ x ∈ vs, ∀ y ∈ vs, ∀ u w, Met c x u → Met c y w → u.isObject →
    objectNumber? u = objectNumber? w → u = w

/-- What is in the ledger after some calls has been met on the way down from what they ask about,
and its name does not begin with a small letter. -/
theorem entered_after {c : Catalogue} {calls : List Call} :
    ∀ e ∈ (c.after {} calls).inlined, ¬ Naming.startsSmall e.1
      ∧ ∃ x ∈ calls.filterMap Call.schema?, Met c x e.2 := by
  refine (reaches_after c {} calls).entered (N := fun name w => ¬ Naming.startsSmall name
    ∧ ∃ x ∈ calls.filterMap Call.schema?, Met c x w) ?_ (by simp)
  rintro owner w ⟨x, nullable, hmem, -, hmet, -⟩ taken
  exact ⟨not_small_wantedName taken owner, x, List.mem_filterMap.2 ⟨_, hmem, rfl⟩, hmet⟩

/-- A type ends with a question mark exactly if it is marked. -/
theorem render_eq_append_iff (t : TypeUse) : t.render = t.type.render ++ "?" ↔ t.marked := by
  unfold TypeUse.render
  cases t.marked with
  | true => simp
  | false =>
    have hlonger : t.type.render ≠ t.type.render ++ "?" := by
      intro h
      simpa using congrArg String.length h
    simpa using hlonger

/-- The mark is set, if it is wanted, by the text of the type and by a look at the schema. -/
theorem marked_iff {c : Catalogue} {v : Value} {nullable marked : Bool} {type : TypeRef}
    (h : isMarked c v nullable type = .ok marked) :
    marked ↔ (nullable || isNullable v)
      ∧ (type.render ∈ valueTypes ∨ c.isEnum v = .ok true) := by
  unfold isMarked at h
  by_cases hwanted : nullable || isNullable v
  · rw [if_pos hwanted] at h
    by_cases hvalue : type.render ∈ valueTypes
    · rw [if_pos (List.contains_iff_mem.2 hvalue)] at h
      cases h
      simp [hwanted, hvalue]
    · rw [if_neg (fun hc => hvalue (List.contains_iff_mem.1 hc))] at h
      simp [hwanted, hvalue, h]
  · rw [if_neg hwanted] at h
    cases h
    simp [hwanted]

/-- A type is marked by the text of the type and by a look at the schema itself.  So the types
that are marked, if that is wanted, are those whose values cannot be absent otherwise, which are
some built-in types and the enumerations, exactly if a schema with another type than the former
looks like an enumeration when it stands for one, and does not when it does not. -/
theorem marked_as_kind_iff (schemas : List (String × Value)) (calls : List Call) {v : Value}
    {owner : String} {nullable : Bool} {type : TypeRef} {t : TypeUse} {l₁ l' : Ledger} :
    let c := Catalogue.ofSchemas schemas
    let l := c.after {} calls
    let wanted := nullable || isNullable v
    let T := type.render
    c.TellsApart (v :: calls.filterMap Call.schema?) →
    Returns (typeOf c owner v) l type l₁ → Returns (resolve c v owner nullable) l t l' →
      (t.render = T ∨ t.render = T ++ "?")
        ∧ (t.render = T ++ "?" ↔ wanted ∧ (T ∈ valueTypes ∨ c.isEnum v = .ok true))
        ∧ (EnumName c l' T ↔ ∃ u, StandsFor c v u ∧ IsNamedEnum c u)
        ∧ ((t.render = T ++ "?" ↔ wanted ∧ (T ∈ valueTypes ∨ EnumName c l' T))
          ↔ (wanted → T ∉ valueTypes →
            (c.isEnum v = .ok true ↔ ∃ u, StandsFor c v u ∧ IsNamedEnum c u))) := by
  intro c l wanted T hapart htype h
  obtain ⟨l₂, htype', hmark, rfl⟩ := returns_resolve_iff.1 h
  obtain ⟨rfl, rfl⟩ := htype.unique htype'
  -- the ledger is sound, and all that is in it has been met on the way down from what was asked
  obtain ⟨pool, hc, hv, hsound⟩ := exists_sound_after schemas calls [v]
  have hsound₁ := (keeps_typeWith hc owner _ (hv v List.mem_cons_self) _ _ _ htype).2 hsound
  have hentered : ∀ e ∈ l₁.inlined, ¬ Naming.startsSmall e.1
      ∧ ∃ x ∈ v :: calls.filterMap Call.schema?, Met c x e.2 := by
    refine ((steps_typeWith c owner _ v).returns htype).entered
      (N := fun name w => ¬ Naming.startsSmall name
        ∧ ∃ x ∈ v :: calls.filterMap Call.schema?, Met c x w) ?_ ?_
    · rintro o w ⟨-, hmet, -⟩ taken
      exact ⟨not_small_wantedName taken o, v, List.mem_cons_self, hmet⟩
    · intro e he
      obtain ⟨hsmall, x, hx, hmet⟩ := entered_after e he
      exact ⟨hsmall, x, List.mem_cons_of_mem _ hx, hmet⟩
  -- so the name of the type tells which kind of schema is at the end of the chain
  obtain ⟨u, f, n, hstands, hf, hend, hu⟩ := exists_standsFor htype
  have hkind : EnumName c l₁ T ↔ IsNamedEnum c u := by
    refine enumName_iff hf hend hu hsound₁ (fun e he => (hentered e he).1) fun e he hnumber => ?_
    obtain ⟨-, x, hx, hmet⟩ := hentered e he
    exact hapart x hx v List.mem_cons_self e.2 u hmet hstands.met (hsound₁.objects e he).1 hnumber
  have hname : EnumName c l₁ T ↔ ∃ u, StandsFor c v u ∧ IsNamedEnum c u := by
    rw [hkind]
    refine ⟨fun henum => ⟨u, hstands, henum⟩, ?_⟩
    rintro ⟨w, hw, henum⟩
    rwa [hstands.unique hw]
  have hmarked : t.render = T ++ "?" ↔ wanted ∧ (T ∈ valueTypes ∨ c.isEnum v = .ok true) :=
    (render_eq_append_iff t).trans (marked_iff hmark)
  refine ⟨?_, hmarked, hname, ?_⟩
  · unfold TypeUse.render
    cases t.marked
    · exact .inl (by simp [T])
    · exact .inr rfl
  · have hsame : EnumName c (l₁.give t) T ↔ ∃ u, StandsFor c v u ∧ IsNamedEnum c u := hname
    rw [hmarked, hsame]
    by_cases hwanted : wanted = true <;> by_cases hvalue : T ∈ valueTypes <;>
      simp [hwanted, hvalue]

/-- A catalogue with one enumeration. -/
def colorSchemas : List (String × Value) :=
  [("Color", .object 1 [(.text "type", .text "string"), (.text "enum", .list [.text "red"])])]

/-- A reference to it. -/
def colorReference : Value := .object 2 [(.text "$ref", .text "#/components/schemas/Color")]

/-- A schema that has this type and may be absent. -/
def colorOrNothing : Value :=
  .object 3 [(.text "allOf", .list [colorReference]), (.text "nullable", .bool true)]

theorem form_colorReference :
    form (Catalogue.ofSchemas colorSchemas) colorReference = .ok (.named "Color") := by
  rfl

theorem form_colorOrNothing :
    form (Catalogue.ofSchemas colorSchemas) colorOrNothing = .ok (.sameAs colorReference) := by
  rfl

/-- The two schemas are different objects, and nothing else is met from them. -/
theorem tellsApart_color :
    (Catalogue.ofSchemas colorSchemas).TellsApart [colorReference, colorOrNothing] := by
  -- a reference to an enumeration leads no further
  have hreference : ∀ u, Met (Catalogue.ofSchemas colorSchemas) colorReference u →
      u = colorReference := by
    intro u h
    cases h with
    | here => rfl
    | next hf hw =>
      rw [form_colorReference] at hf
      cases hf
      cases hw
  have hmet : ∀ x ∈ [colorReference, colorOrNothing], ∀ u,
      Met (Catalogue.ofSchemas colorSchemas) x u → u = colorReference ∨ u = colorOrNothing := by
    intro x hx u h
    rcases List.mem_cons.1 hx with rfl | hx
    · exact .inl (hreference u h)
    · rw [List.mem_singleton.1 hx] at h
      cases h with
      | here => exact .inr rfl
      | next hf hw h =>
        rw [form_colorOrNothing] at hf
        cases hf
        rw [Form.next, List.mem_singleton] at hw
        rw [hw] at h
        exact .inl (hreference u h)
  intro x hx y hy u w hu hw _ hnumber
  rcases hmet x hx u hu with rfl | rfl <;> rcases hmet y hy w hw with rfl | rfl
  · rfl
  · cases hnumber
  · cases hnumber
  · rfl

theorem marked_as_kind_iff_color :
    let c := Catalogue.ofSchemas colorSchemas
    let calls := [.resolve colorOrNothing "Pet" true]
    ∃ type t l₁ l', c.TellsApart (colorReference :: calls.filterMap Call.schema?)
      ∧ Returns (typeOf c "Pet" colorReference) (c.after {} calls) type l₁
      ∧ Returns (resolve c colorReference "Pet" true) (c.after {} calls) t l'
      ∧ EnumName c l' type.render ∧ t.render = type.render ++ "?" := by
  intro c calls
  have hrun : ((resolve c colorReference "Pet" true).run.run (c.after {} calls)).1.toOption.map
      TypeUse.render = some "Color?" := by
    decide +kernel
  obtain ⟨t, l', h, -⟩ := exists_returns_of_map hrun
  obtain ⟨l₁, htype, -⟩ := returns_resolve_iff.1 h
  obtain ⟨-, hmarked, hname, -⟩ := marked_as_kind_iff colorSchemas calls tellsApart_color htype h
  have henum : c.isEnum colorReference = .ok true := rfl
  have hnamed : IsNamedEnum c colorReference := ⟨henum, _, form_colorReference, rfl⟩
  refine ⟨t.type, t, l₁, l', tellsApart_color, htype, h, ?_, ?_⟩
  · exact hname.2 ⟨colorReference, .here form_colorReference (by simp), hnamed⟩
  · exact hmarked.2 ⟨rfl, .inr henum⟩

/-- A schema that stands for an enumeration and may be absent is not marked: the enumeration is
seen through a reference, but not through a composition. -/
theorem enumeration_unmarked :
    let c := Catalogue.ofSchemas colorSchemas
    ∃ type t l₁ l', Returns (typeOf c "Pet" colorOrNothing) {} type l₁
      ∧ Returns (resolve c colorOrNothing "Pet" false) {} t l'
      ∧ isNullable colorOrNothing ∧ EnumName c l' type.render
      ∧ t.render ≠ type.render ++ "?" := by
  intro c
  have hrun : ((resolve c colorOrNothing "Pet" false).run.run {}).1.toOption.map
      (fun t => (t.type.render, t.render)) = some ("Color", "Color") := by
    decide +kernel
  obtain ⟨t, l', h, htexts⟩ := exists_returns_of_map hrun
  obtain ⟨l₁, htype, -⟩ := returns_resolve_iff.1 h
  obtain ⟨hT, ht⟩ := Prod.mk.inj htexts
  refine ⟨t.type, t, l₁, l', htype, h, rfl, ?_, ?_⟩
  · rw [hT]
    exact .inl ⟨"Color", _, rfl, rfl, rfl⟩
  · rw [hT, ht]
    decide

end Schema

end OpenApiClient
