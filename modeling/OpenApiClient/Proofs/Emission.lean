/-
What the emission of contracts asks for.

Everything that is written for a schema asks for types on the way, of items, of properties, of
parts that are flattened into a class.  All of these schemas are members of schemas that are
known already, so the numbers of their objects stay in the pool of the document, and all of
them are asked for under an owner that begins with the name of the type that is written.  This
is the only place where the emission is gone through for what it asks for; that it keeps the
invariant of the ledger is one of the consequences.
-/
import OpenApiClient.Generate.Contracts
import OpenApiClient.Proofs.Resolution

set_option autoImplicit false

namespace OpenApiClient.Generate

open CSharp
open Schema

variable {x : Context} {pool : List Nat} {P : String → Value → Prop}

/-- What is asked for while a type is written: schemas within a pool, for owners that begin
with the name of the type. -/
def OwnedBy (pool : List Nat) (typeName owner : String) (v : Value) : Prop :=
  (∃ rest, owner = typeName ++ rest) ∧ v.Within pool

/-! ## Attributes and comments -/

theorem asks_qualifiedAttribute (name : String) (arguments : List String) :
    Asks x.catalogue P (qualifiedAttribute name arguments) :=
  (Asks.useNamespace name).bind fun _ _ => Asks.pure _

theorem asks_schemaDoc (v : Value) : Asks x.catalogue P (schemaDoc x v) := by
  unfold schemaDoc
  dsimp only
  split
  · exact Asks.pure _
  · split
    · exact Asks.pure _
    · exact Asks.throw _
    · exact Asks.throw _

/-! ## Enumerations -/

theorem asks_textMember (taken : List String) (order : Nat) (v : Value) :
    Asks x.catalogue P (textMember taken order v) := by
  unfold textMember
  split
  · exact (Asks.throw _).bind fun _ _ => (asks_qualifiedAttribute _ _).bind fun _ _ =>
      Asks.pure _
  · exact (asks_qualifiedAttribute _ _).bind fun _ _ => Asks.pure _

theorem asks_enumMember (isText : Bool) (typeName : String) (taken : List String) (order : Nat)
    (v : Value) : Asks x.catalogue P (enumMember isText typeName taken order v) := by
  unfold enumMember
  split
  · exact asks_textMember taken order v
  · exact Asks.liftFault _

theorem asks_enumMembers (isText : Bool) (typeName : String) (taken : List String) (order : Nat)
    (vs : List Value) : Asks x.catalogue P (enumMembers isText typeName taken order vs) := by
  induction vs generalizing taken order with
  | nil => exact Asks.pure _
  | cons v vs ih =>
    rw [enumMembers]
    split
    · exact ih _ _
    · exact (asks_enumMember _ _ _ _ _).bind fun _ _ => (ih _ _).bind fun _ _ => Asks.pure _

theorem asks_enumDecl (typeName : String) (v : Value) :
    Asks x.catalogue P (enumDecl x typeName v) := by
  unfold enumDecl
  refine (asks_qualifiedAttribute _ _).bind fun _ _ => ?_
  refine Asks.bind ?_ fun _ _ => ?_
  · unfold converterAttributes
    split
    · exact (asks_qualifiedAttribute _ _).bind fun _ _ => Asks.pure _
    · exact Asks.pure _
  · refine (Asks.liftShape _).bind fun _ _ => ?_
    refine (asks_enumMembers _ _ _ _ _).bind fun _ _ => ?_
    exact (asks_schemaDoc v).bind fun _ _ => Asks.pure _

/-! ## What a class is made from -/

theorem within_add {parts parts' : ClassParts} {v : Value} (hp : parts.properties.Within pool)
    (hv : ∀ w, v.member? "properties" = some w → w.Within pool)
    (h : parts.add v = .ok parts') : parts'.properties.Within pool := by
  unfold ClassParts.add at h
  by_cases hobject : v.isObject
  · simp only [hobject, Bool.not_true, Bool.false_eq_true, if_false] at h
    obtain ⟨properties, hproperties, h⟩ := bind_eq_ok_iff.1 h
    obtain ⟨required, -, h⟩ := bind_eq_ok_iff.1 h
    cases h
    exact Members.within_update hp (Value.within_membersOrNone hv hproperties)
  · simp only [hobject, Bool.not_false, if_true] at h
    cases h

theorem within_addPart (hc : x.catalogue.Within pool) {parts parts' : ClassParts} {part : Value}
    (hp : parts.properties.Within pool) (hpart : part.Within pool)
    (h : addPart x.catalogue parts part = .ok parts') : parts'.properties.Within pool := by
  unfold addPart at h
  obtain ⟨written, -, h⟩ := bind_eq_ok_iff.1 h
  cases written with
  | none =>
    exact within_add hp (fun w hw => Value.within_member? hpart hw) (mapError_eq_ok_iff.1 h)
  | some written =>
    obtain ⟨ref, -, h⟩ := bind_eq_ok_iff.1 h
    -- the first reference becomes a base type and adds no properties
    by_cases hb : parts.bases.isEmpty
    · simp only [hb, if_true] at h
      obtain ⟨name, -, h⟩ := bind_eq_ok_iff.1 h
      cases h
      exact hp
    · simp only [hb, Bool.false_eq_true, if_false] at h
      refine within_add hp (fun w hw => ?_) (mapError_eq_ok_iff.1 h)
      exact Catalogue.within_refSchema_member? hc hw

theorem within_addParts (hc : x.catalogue.Within pool) {parts parts' : ClassParts}
    {composed : List Value} (hp : parts.properties.Within pool)
    (hcomposed : ∀ part ∈ composed, part.Within pool)
    (h : composed.foldlM (addPart x.catalogue) parts = .ok parts') :
    parts'.properties.Within pool := by
  induction composed generalizing parts with
  | nil =>
    cases h
    exact hp
  | cons part composed ih =>
    obtain ⟨hpart, hrest⟩ := List.forall_mem_cons.1 hcomposed
    rw [List.foldlM_cons] at h
    obtain ⟨next, hnext, h⟩ := bind_eq_ok_iff.1 h
    exact ih (within_addPart hc hp hpart hnext) hrest h

theorem within_compositionParts {v : Value} {composed : List Value} (hv : v.Within pool)
    (h : compositionParts v = .ok composed) : ∀ part ∈ composed, part.Within pool := by
  unfold compositionParts at h
  cases hm : (v.member? "allOf").filter (·.isGiven) with
  | none =>
    rw [hm] at h
    cases h
    simp
  | some w =>
    rw [hm] at h
    have hw := (Option.filter_eq_some_iff.1 hm).1
    exact Value.within_parts (Value.within_member? hv hw) h

/-- The steps in which the parts of a class are found. -/
theorem returns_classParts_iff {typeName : String} {v : Value} {parts : ClassParts}
    {l l' : Ledger} :
    Returns (classParts x typeName v) l parts l' ↔
      ∃ own bases composed, ClassParts.add {} v = .ok own
        ∧ Returns (arrayBases x typeName v) l bases l'
        ∧ compositionParts v = .ok composed
        ∧ composed.foldlM (addPart x.catalogue) { own with bases } = .ok parts := by
  unfold classParts
  rw [returns_liftShape_bind_iff]
  simp only [returns_bind_iff, returns_liftShape_iff, returns_liftFault_iff]
  constructor
  · rintro ⟨own, hown, bases, l₁, hbases, composed, l₂, ⟨hcomposed, rfl⟩, hparts, rfl⟩
    exact ⟨own, bases, composed, hown, hbases, hcomposed, hparts⟩
  · rintro ⟨own, bases, composed, hown, hbases, hcomposed, hparts⟩
    exact ⟨own, hown, bases, l', hbases, composed, l', ⟨hcomposed, rfl⟩, hparts, rfl⟩

theorem within_classParts (hc : x.catalogue.Within pool) {typeName : String} {v : Value}
    {parts : ClassParts} {l l' : Ledger} (hv : v.Within pool)
    (h : Returns (classParts x typeName v) l parts l') : parts.properties.Within pool := by
  obtain ⟨own, bases, composed, hown, -, hcomposed, hparts⟩ := returns_classParts_iff.1 h
  have howned : own.properties.Within pool :=
    within_add Members.within_nil (fun w hw => Value.within_member? hv hw) hown
  refine within_addParts hc ?_ (within_compositionParts hv hcomposed) hparts
  exact howned

theorem asks_arrayBases (typeName : String) {v : Value} (hv : v.Within pool) :
    Asks x.catalogue (OwnedBy pool typeName) (arrayBases x typeName v) := by
  unfold arrayBases
  split
  · refine (Asks.resolve _ ⟨⟨"Item", rfl⟩, Value.within_memberOrNull "items" hv⟩).bind
      fun _ _ => ?_
    exact (Asks.useNamespace _).bind fun _ _ => Asks.pure _
  · exact Asks.pure _

theorem asks_classParts (typeName : String) {v : Value} (hv : v.Within pool) :
    Asks x.catalogue (OwnedBy pool typeName) (classParts x typeName v) := by
  unfold classParts
  refine (Asks.liftShape _).bind fun _ _ => ?_
  refine (asks_arrayBases typeName hv).bind fun _ _ => ?_
  exact (Asks.liftShape _).bind fun _ _ => Asks.liftFault _

/-! ## Classes -/

theorem asks_propertyDoc (v : Value) : Asks x.catalogue P (propertyDoc x v) := by
  unfold propertyDoc
  split
  · exact asks_schemaDoc v
  · exact Asks.pure _

theorem asks_classProperty (typeName : String) (required : List Scalar) (taken : List String)
    (key : Scalar) {v : Value} (hv : v.Within pool) :
    Asks x.catalogue (OwnedBy pool typeName)
      (classProperty x typeName required taken key v) := by
  unfold classProperty
  refine (Asks.liftShape _).bind fun wanted _ => ?_
  refine (Asks.resolve _ ⟨⟨wanted, rfl⟩, hv⟩).bind fun _ _ => ?_
  refine (asks_qualifiedAttribute _ _).bind fun _ _ => ?_
  exact (asks_propertyDoc v).bind fun _ _ => Asks.pure _

theorem asks_classProperties (typeName : String) (required : List Scalar) (taken : List String)
    {ms : Members} (hms : ms.Within pool) :
    Asks x.catalogue (OwnedBy pool typeName)
      (classProperties x typeName required taken ms) := by
  induction ms generalizing taken with
  | nil => exact Asks.pure _
  | cons m ms ih =>
    obtain ⟨hm, hrest⟩ := List.forall_mem_cons.1 hms
    rw [classProperties]
    refine (asks_classProperty _ _ _ _ hm).bind fun _ _ => ?_
    exact (ih _ hrest).bind fun _ _ => Asks.pure _

theorem asks_classDecl (hc : x.catalogue.Within pool) (typeName : String) {v : Value}
    (hv : v.Within pool) :
    Asks x.catalogue (OwnedBy pool typeName) (classDecl x typeName v) := by
  unfold classDecl
  refine (asks_classParts typeName hv).bind fun parts hparts => ?_
  obtain ⟨l, l', hparts⟩ := hparts
  refine (asks_classProperties _ _ _ (within_classParts hc hv hparts)).bind fun _ _ => ?_
  refine (asks_qualifiedAttribute _ _).bind fun _ _ => ?_
  exact (asks_schemaDoc v).bind fun _ _ => Asks.pure _

theorem asks_contract (hc : x.catalogue.Within pool) (typeName : String) {v : Value}
    (hv : v.Within pool) :
    Asks x.catalogue (OwnedBy pool typeName) (contract x typeName v) := by
  unfold contract
  split
  · exact (asks_enumDecl typeName v).bind fun _ _ => Asks.pure _
  · exact (asks_classDecl hc typeName hv).bind fun _ _ => Asks.pure _

/-! ## Lists of schemas -/

theorem asks_namedContracts (hc : x.catalogue.Within pool) {schemas : List (String × Value)}
    (hs : ∀ e ∈ schemas, e.2.Within pool) :
    Asks x.catalogue (fun owner v => ∃ e ∈ schemas, e.2.isDeclared
        ∧ OwnedBy pool (x.catalogue.typeName e.1) owner v)
      (namedContracts x schemas) := by
  induction schemas with
  | nil => exact Asks.pure _
  | cons e rest ih =>
    obtain ⟨he, hrest⟩ := List.forall_mem_cons.1 hs
    rw [namedContracts]
    have hrest := (ih hrest).mono fun owner v ⟨f, hf, h⟩ =>
      (⟨f, List.mem_cons_of_mem e hf, h⟩ : ∃ f ∈ e :: rest, f.2.isDeclared
        ∧ OwnedBy pool (x.catalogue.typeName f.1) owner v)
    split
    · rename_i hdeclared
      refine Asks.bind ?_ fun _ _ => hrest.bind fun _ _ => Asks.pure _
      exact (asks_contract hc _ he).mono fun owner v h => ⟨e, List.mem_cons_self, hdeclared, h⟩
    · exact hrest

theorem asks_register {owned : List (String × Value)} (h : ∀ e ∈ owned, P e.1 e.2) :
    Asks x.catalogue P (register x owned) := by
  induction owned with
  | nil => exact Asks.pure _
  | cons e rest ih =>
    obtain ⟨he, hrest⟩ := List.forall_mem_cons.1 h
    rw [register]
    exact (Asks.resolve _ he).bind fun _ _ => ih hrest

/-! ## The invariant of the ledger -/

theorem keeps_contract (hc : x.catalogue.Within pool) (typeName : String) {v : Value}
    (hv : v.Within pool) : Keeps x.catalogue pool (contract x typeName v) :=
  (asks_contract hc typeName hv).keeps hc fun _ _ h => h.2

theorem keeps_namedContracts (hc : x.catalogue.Within pool) {schemas : List (String × Value)}
    (hs : ∀ e ∈ schemas, e.2.Within pool) :
    Keeps x.catalogue pool (namedContracts x schemas) :=
  (asks_namedContracts hc hs).keeps hc fun _ _ ⟨_, _, _, h⟩ => h.2

theorem keeps_register (hc : x.catalogue.Within pool) {owned : List (String × Value)}
    (hs : ∀ e ∈ owned, e.2.Within pool) : Keeps x.catalogue pool (register x owned) :=
  (asks_register (P := fun _ v => v.Within pool) hs).keeps hc fun _ _ h => h

end OpenApiClient.Generate
