/-
What the form of a schema leads to.

A way down from a schema is a finite number of forms (`Schema.Form`).  Each form is looked at
once here: `form_cases` and `form_next` say where it comes from and which schemas it leads on to,
and `form_spec` that it stays within a pool, that only an object has a type of its own, and that
a type is named only if the catalogue declares it.  Whatever follows a way down needs no more
than that.
-/
import OpenApiClient.Proofs.ObjectNumbers

set_option autoImplicit false

namespace OpenApiClient.Schema

/-! ## The catalogue -/

/-- The catalogue declares a type with this name for one of its schemas. -/
def Catalogue.Declares (c : Catalogue) (name : String) : Prop :=
  ∃ e ∈ c.schemas, e.2.isDeclared ∧ c.typeName e.1 = name

/-- All objects of the catalogue have their numbers in the pool. -/
def Catalogue.Within (pool : List Nat) (c : Catalogue) : Prop :=
  ∀ e ∈ c.schemas, e.2.Within pool

theorem Catalogue.mem_of_schema? {c : Catalogue} {name : String} {v : Value}
    (h : c.schema? name = some v) : (name, v) ∈ c.schemas := by
  unfold Catalogue.schema? at h
  exact mem_of_lookup h

/-- The target of a reference is a schema of the catalogue or the empty schema. -/
theorem Catalogue.refSchema_cases (c : Catalogue) (ref : String) :
    (∃ e ∈ c.schemas, c.refSchema ref = e.2) ∨ c.refSchema ref = .object 0 [] := by
  unfold Catalogue.refSchema
  cases hs : (Catalogue.refTarget? ref).bind c.schema? with
  | none =>
    right
    rfl
  | some v =>
    left
    obtain ⟨name, -, hv⟩ := Option.bind_eq_some_iff.1 hs
    exact ⟨(name, v), mem_of_schema? hv, rfl⟩

theorem Catalogue.within_refSchema_member? {pool : List Nat} {c : Catalogue} (hc : c.Within pool)
    {ref key : String} {w : Value} (hw : (c.refSchema ref).member? key = some w) :
    w.Within pool := by
  rcases c.refSchema_cases ref with ⟨e, he, heq⟩ | heq
  · rw [heq] at hw
    exact Value.within_member? (hc e he) hw
  · rw [heq] at hw
    cases hw

/-- A reference that gives a name is one to a schema of the catalogue. -/
theorem Catalogue.refName_eq_ok_iff {c : Catalogue} {ref type : String} :
    c.refName ref = .ok type ↔
      ∃ name v, refTarget? ref = some name ∧ c.schema? name = some v ∧ c.typeName name = type := by
  unfold Catalogue.refName
  cases ht : refTarget? ref with
  | none => simp
  | some name =>
    cases hs : c.schema? name with
    | none => simp [hs]
    | some v => simp [hs]

/-- The target of a reference that gives a name. -/
theorem Catalogue.refSchema_eq {c : Catalogue} {ref name : String} {v : Value}
    (ht : refTarget? ref = some name) (hs : c.schema? name = some v) : c.refSchema ref = v := by
  rw [Catalogue.refSchema, ht, Option.bind_some, hs, Option.getD_some]

/-! ## What a form comes from

One lemma for each function: what it has looked at if it gives this result.  The facts about
forms below are read off these lemmas. -/

section Cases

variable {c : Catalogue} {v w : Value} {f : Form}

/-- The schemas that a form leads on to. -/
def Form.next : Form → List Value
  | .sameAs v => [v]
  | .collection item => [item]
  | .dictionary value => [value]
  | _ => []

/-- The only part of a value is the member of an object under zero, or one of its parts. -/
theorem onlyPart_cases (h : onlyPart v = .ok w) :
    (∃ n ms, v = .object n ms ∧ Members.get? ms (.int 0) = some w)
      ∨ ∃ ws, v.parts = .ok ws ∧ w ∈ ws := by
  cases v with
  | object n ms =>
    rw [onlyPart] at h
    cases hm : Members.get? ms (.int 0) with
    | none =>
      rw [hm] at h
      cases h
    | some u =>
      rw [hm] at h
      cases h
      exact .inl ⟨n, ms, rfl, hm⟩
  | set ms => cases h
  | _ =>
    -- the first of the parts is taken
    rw [onlyPart] at h
    · obtain ⟨ws, hws, h⟩ := bind_eq_ok_iff.1 h
      cases ws with
      | nil => cases h
      | cons first rest =>
        cases h
        exact .inr ⟨_, hws, List.mem_cons_self⟩
    all_goals
      intros
      contradiction

theorem onlyPart_of_compositeUnder {key : String} (h : compositeUnder v key = .ok (.single w)) :
    onlyPart (v.memberOrNull key) = .ok w := by
  unfold compositeUnder at h
  by_cases hg : (v.memberOrNull key).isGiven
  · simp only [hg, Bool.not_true, Bool.false_eq_true, if_false] at h
    obtain ⟨ps, -, h⟩ := bind_eq_ok_iff.1 h
    by_cases hone : ps.length = 1
    · simp only [hone, if_true] at h
      obtain ⟨u, hu, h⟩ := bind_eq_ok_iff.1 h
      cases h
      exact hu
    · simp only [hone, if_false] at h
      cases h
  · simp only [hg, Bool.not_false, if_true] at h
    cases h

/-- What a composition leads to is the only part of one of the members. -/
theorem exists_onlyPart_of_composite {keys : List String}
    (h : composite v keys = .ok (.single w)) : ∃ key, onlyPart (v.memberOrNull key) = .ok w := by
  induction keys with
  | nil => cases h
  | cons key keys ih =>
    rw [composite] at h
    obtain ⟨r, hr, h⟩ := bind_eq_ok_iff.1 h
    cases r with
    | absent => exact ih h
    | single u =>
      cases h
      exact ⟨key, onlyPart_of_compositeUnder hr⟩
    | several => cases h

/-- A reference gives the name of its target, or leads on to it if it is not declared. -/
theorem referenceForm_cases {written : Value} (h : referenceForm c written = .ok f) :
    ∃ ref, Catalogue.refText written = .ok ref
      ∧ (((c.refSchema ref).isDeclared ∧ ∃ name, c.refName ref = .ok name ∧ f = .named name)
        ∨ (¬ (c.refSchema ref).isDeclared ∧ f = .sameAs (c.refSchema ref))) := by
  unfold referenceForm at h
  obtain ⟨ref, href, h⟩ := bind_eq_ok_iff.1 h
  refine ⟨ref, href, ?_⟩
  by_cases hobject : (c.refSchema ref).isObject
  · simp only [hobject, Bool.not_true, Bool.false_eq_true, if_false] at h
    by_cases hdeclared : (c.refSchema ref).isDeclared
    · simp only [hdeclared, if_true] at h
      obtain ⟨name, hname, h⟩ := bind_eq_ok_iff.1 h
      cases h
      exact .inl ⟨hdeclared, name, hname, rfl⟩
    · simp only [hdeclared, Bool.false_eq_true, if_false] at h
      cases h
      exact .inr ⟨hdeclared, rfl⟩
  · simp only [hobject, Bool.not_false, if_true] at h
    cases h

theorem objectForm_cases (v : Value) :
    objectForm v = .own ∨ objectForm v = .builtin .object
      ∨ objectForm v = .dictionary (v.memberOrNull "additionalProperties") := by
  unfold objectForm
  by_cases hproperties : (v.memberOrNull "properties").isGiven
  · exact .inl (if_pos hproperties)
  · rw [if_neg hproperties]
    by_cases hadditional : (v.memberOrNull "additionalProperties").isObject
    · exact .inr (.inr (if_pos hadditional))
    · exact .inr (.inl (if_neg hadditional))

/-- A schema that is no reference and no composition has a type of its own, a built-in one, or
leads on to one of its members. -/
theorem plainForm_cases (h : plainForm v = .ok f) :
    f = .own ∨ (∃ b, f = .builtin b) ∨ (∃ key, f = .collection (v.memberOrNull key))
      ∨ ∃ key, f = .dictionary (v.memberOrNull key) := by
  unfold plainForm at h
  -- one case for each form, in the order in which they are tried
  split at h
  · cases h
    exact .inl rfl
  split at h
  · cases h
    exact .inr (.inl ⟨_, rfl⟩)
  split at h
  · obtain ⟨b, -, rfl⟩ := map_eq_ok_iff.1 h
    exact .inr (.inl ⟨b, rfl⟩)
  split at h
  · cases h
    exact .inr (.inl ⟨_, rfl⟩)
  split at h
  · cases h
    exact .inr (.inl ⟨_, rfl⟩)
  split at h
  · cases h
    exact .inr (.inr (.inl ⟨"items", rfl⟩))
  split at h
  · cases h
    rcases objectForm_cases v with h | h | h
    · exact .inl h
    · exact .inr (.inl ⟨_, h⟩)
    · exact .inr (.inr (.inr ⟨_, h⟩))
  · cases h
    exact .inr (.inl ⟨_, rfl⟩)

/-- An object with a member is not empty. -/
theorem exists_cons_of_member {key : String} (h : (v.member? key).isSome) :
    ∃ n m ms, v = .object n (m :: ms) := by
  cases v with
  | object n ms =>
    cases ms with
    | nil => cases h
    | cons m ms => exact ⟨n, m, ms, rfl⟩
  | _ => cases h

/-- An object is a reference, leads on to its only part, or has a plain form; anything else, and
what has several parts, may be any object. -/
theorem form_cases (h : form c v = .ok f) :
    f = .builtin .object
      ∨ v.isObject
        ∧ ((∃ written, v.member? "$ref" = some written ∧ referenceForm c written = .ok f)
          ∨ v.member? "$ref" = none
            ∧ ((∃ key w, onlyPart (v.memberOrNull key) = .ok w ∧ f = .sameAs w)
              ∨ plainForm v = .ok f)) := by
  unfold form at h
  split at h
  · -- a reference comes before everything else that an object says
    split at h
    · rename_i written hwritten
      exact .inr ⟨rfl, .inl ⟨written, hwritten, h⟩⟩
    · rename_i hnone
      obtain ⟨r, hr, h⟩ := bind_eq_ok_iff.1 h
      rw [mapError_eq_ok_iff] at hr
      cases r with
      | absent => exact .inr ⟨rfl, .inr ⟨hnone, .inr (mapError_eq_ok_iff.1 h)⟩⟩
      | single part =>
        cases h
        obtain ⟨key, hpart⟩ := exists_onlyPart_of_composite hr
        exact .inr ⟨rfl, .inr ⟨hnone, .inl ⟨key, part, hpart, rfl⟩⟩⟩
      | several =>
        cases h
        exact .inl rfl
  · cases h
    exact .inl rfl

/-- What a schema leads on to is the target of a reference, if that is not declared, the only
part of a member, or a member. -/
theorem form_next (h : form c v = .ok f) (hw : w ∈ f.next) :
    v.isObject
      ∧ ((∃ e ∈ c.schemas, ¬ e.2.isDeclared ∧ w = e.2)
        ∨ (∃ key, onlyPart (v.memberOrNull key) = .ok w)
        ∨ ∃ key, w = v.memberOrNull key) := by
  rcases form_cases h with rfl | ⟨hobject, h⟩
  · cases hw
  refine ⟨hobject, ?_⟩
  rcases h with ⟨written, -, h⟩ | ⟨-, ⟨key, part, hpart, rfl⟩ | h⟩
  · obtain ⟨ref, -, ⟨-, name, -, rfl⟩ | ⟨hdeclared, rfl⟩⟩ := referenceForm_cases h
    · cases hw
    · rw [List.mem_singleton.1 hw]
      -- an unknown name leads to the empty schema, and that is declared
      rcases c.refSchema_cases ref with ⟨e, he, heq⟩ | heq
      · rw [heq] at hdeclared ⊢
        exact .inl ⟨e, he, hdeclared, rfl⟩
      · rw [heq] at hdeclared
        exact absurd rfl hdeclared
  · rw [List.mem_singleton.1 hw]
    exact .inr (.inl ⟨key, hpart⟩)
  · rcases plainForm_cases h with rfl | ⟨b, rfl⟩ | ⟨key, rfl⟩ | ⟨key, rfl⟩
    · cases hw
    · cases hw
    · exact .inr (.inr ⟨key, List.mem_singleton.1 hw⟩)
    · exact .inr (.inr ⟨key, List.mem_singleton.1 hw⟩)

/-- Only a reference to a declared schema of the catalogue gives a name. -/
theorem declares_of_form {name : String} (h : form c v = .ok (.named name)) :
    c.Declares name := by
  rcases form_cases h with h | ⟨-, ⟨written, -, h⟩ | ⟨-, ⟨key, part, -, h⟩ | h⟩⟩
  · cases h
  · obtain ⟨ref, -, ⟨hdeclared, type, hname, h⟩ | ⟨-, h⟩⟩ := referenceForm_cases h
    · cases h
      obtain ⟨key, w, ht, hs, htype⟩ := Catalogue.refName_eq_ok_iff.1 hname
      rw [Catalogue.refSchema_eq ht hs] at hdeclared
      exact ⟨(key, w), Catalogue.mem_of_schema? hs, hdeclared, htype⟩
    · cases h
  · cases h
  · rcases plainForm_cases h with h | ⟨b, h⟩ | ⟨key, h⟩ | ⟨key, h⟩ <;> cases h

/-- Only an object has a type of its own. -/
theorem isObject_of_own (h : form c v = .ok .own) : v.isObject := by
  rcases form_cases h with h | ⟨hobject, -⟩
  · cases h
  · exact hobject

/-- Whether a schema is an enumeration can be said if it has a form. -/
theorem exists_isEnum (h : form c v = .ok f) : ∃ b, c.isEnum v = .ok b := by
  unfold Catalogue.isEnum
  cases hm : v.member? "$ref" with
  | none => exact ⟨_, rfl⟩
  | some written =>
    -- the text of the reference has been read to find the form
    obtain ⟨n, m, ms, rfl⟩ := exists_cons_of_member (Option.isSome_of_mem hm)
    unfold form at h
    rw [hm] at h
    obtain ⟨ref, href, -⟩ := referenceForm_cases h
    dsimp only
    rw [href]
    exact ⟨_, rfl⟩

end Cases

/-! ## Forms within a pool -/

section Forms

variable {pool : List Nat} {c : Catalogue}

theorem within_onlyPart {v w : Value} (hv : v.Within pool) (hw : onlyPart v = .ok w) :
    w.Within pool := by
  rcases onlyPart_cases hw with ⟨n, ms, rfl, hm⟩ | ⟨ws, hws, hmem⟩
  · exact Members.within_get? (Value.within_object_iff.1 hv).2 hm
  · exact Value.within_parts hv hws w hmem

/-- What is known of the form of a schema: the schemas it leads on to are known ones, only an
object has a type of its own, and the types that it names are declared. -/
theorem form_spec {v : Value} {f : Form} (hc : c.Within pool) (hv : v.Within pool)
    (hf : form c v = .ok f) :
    (∀ w ∈ f.next, w.Within pool) ∧ (f = .own → v.isObject)
      ∧ ∀ name, f = .named name → c.Declares name := by
  refine ⟨?_, ?_, ?_⟩
  · intro w hw
    rcases (form_next hf hw).2 with ⟨e, he, -, rfl⟩ | ⟨key, hpart⟩ | ⟨key, rfl⟩
    · exact hc e he
    · exact within_onlyPart (Value.within_memberOrNull key hv) hpart
    · exact Value.within_memberOrNull key hv
  · rintro rfl
    exact isObject_of_own hf
  · rintro name rfl
    exact declares_of_form hf

end Forms

/-! ## The way down -/

/-- A schema is met on the way down from another one. -/
inductive Met (c : Catalogue) : Value → Value → Prop where
  | here (v : Value) : Met c v v
  | next {v w u : Value} {f : Form} (hf : form c v = .ok f) (hw : w ∈ f.next)
    (h : Met c w u) : Met c v u

/-- What is met on the way down from a schema within a pool is within the pool. -/
theorem Met.within {c : Catalogue} {pool : List Nat} {v u : Value} (h : Met c v u)
    (hc : c.Within pool) (hv : v.Within pool) : u.Within pool := by
  induction h with
  | here v => exact hv
  | next hf hw _ ih => exact ih ((form_spec hc hv hf).1 _ hw)

/-- There is a pool for a catalogue and any schemas that it is asked about. -/
theorem exists_pool (c : Catalogue) (vs : List Value) :
    ∃ pool, c.Within pool ∧ ∀ v ∈ vs, v.Within pool := by
  refine ⟨Value.numbersOfItems (c.schemas.map (·.2)) ++ Value.numbersOfItems vs, ?_, ?_⟩
  · intro e he n hn
    refine List.mem_append_left _ (Value.mem_numbersOfItems.2 ⟨e.2, ?_, hn⟩)
    exact List.mem_map_of_mem he
  · intro v hv n hn
    exact List.mem_append_right _ (Value.mem_numbersOfItems.2 ⟨v, hv, hn⟩)

end OpenApiClient.Schema
