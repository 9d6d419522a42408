/-
Two generations of documents.

A document of the older form and the renewed one are read as twins: what is read of them outside
of schemas is the same, named schemas keep their numbers, and the schemas of operations get new
numbers in the same order, counted on from the number after the last one of each document.  So
the same client is generated from both, or none.

A reference outside of schemas can lead into the table of named schemas, which is moved, and a
body can have a name that is none, which is looked at in the older form only.  In the newer form
schemas stand deeper, and a document may be nested only so deeply.  So what is read has to be
given in place, and both documents have to be within the limit, or beyond it.
-/
import OpenApiClient.Proofs.Indirection
import OpenApiClient.Proofs.RenewedDocuments

set_option autoImplicit false

namespace OpenApiClient

open Value (Twin TwinMembers InStep)
open Schema (TwinNamed Matching)

namespace Document

/-! ## Numbers -/

/-- A number of a document, and that of the same object in another one: below the number that
follows on those of both documents an object keeps its number, and from there on they are given
out in step. -/
def Renumbered (next next' n m : Nat) : Prop :=
  (n = m ∧ n < next ∧ m < next') ∨ ∃ i, n = next + i ∧ m = next' + i

theorem matching_renumbered {next next' : Nat} (h : 0 < next) (h' : 0 < next') :
    Matching (Renumbered next next') where
  iff := by
    rintro n m n' m' (⟨rfl, hn, hm⟩ | ⟨i, rfl, rfl⟩) (⟨rfl, hn', hm'⟩ | ⟨j, rfl, rfl⟩)
    · exact Iff.rfl
    · omega
    · omega
    · omega
  zero := .inl ⟨rfl, h, h'⟩

/-- Objects of the table of schemas keep their numbers. -/
theorem renumbered_of_definitions {fresh k n : Nat} {ms : Members} {v : Value}
    (hcomponents : Members.getText? ms "components" = none)
    (h : Members.getText? ms "definitions" = some v) (hn : n ∈ v.numbers) :
    Renumbered (Value.object k ms).nextNumber (renewed fresh (.object k ms)).nextNumber n n := by
  have hwithin : ∀ {raw w : Value} {key : String}, raw.member? key = some w → n ∈ w.numbers →
      n ∈ raw.numbers :=
    fun hw hn => Value.within_member? (fun _ h => h) hw _ hn
  have hnew : (renewed fresh (.object k ms)).member? "components"
      = some (componentsOf fresh v) := by
    refine (getText?_documentMembers_components fresh ms hcomponents).trans ?_
    rw [h]
    rfl
  have htable : n ∈ (componentsOf fresh v).numbers := by
    have hschemas : (componentsOf fresh v).member? "schemas"
        = some (Value.respelled .table v) := rfl
    refine hwithin hschemas ?_
    rw [Value.numbers_respelled]
    exact hn
  exact .inl ⟨rfl, Value.lt_nextNumber (hwithin h hn), Value.lt_nextNumber (hwithin hnew htable)⟩

section Renumbering

variable {ν : Nat → Nat → Prop} {next next' : Nat}

theorem twins_renumberOptional {v w : Option Value} (h : Option.Rel (Twin AnyNumbers .schema) v w)
    (hν : ∀ i, ν (next + i) (next' + i)) :
    Option.Rel (Twin ν .schema) (renumberOptional next v).1 (renumberOptional next' w).1
      ∧ InStep next next' (renumberOptional next v).2 (renumberOptional next' w).2 := by
  cases h with
  | none => exact ⟨.none, .refl _ _⟩
  | some h =>
    obtain ⟨htwin, hstep⟩ := h.renumber hν
    exact ⟨.some htwin, hstep⟩

theorem twins_renumberParameters {ps ps' : List Parameter}
    (h : List.Forall₂ (Parameter.Twins AnyNumbers) ps ps') (hν : ∀ i, ν (next + i) (next' + i)) :
    List.Forall₂ (Parameter.Twins ν) (renumberParameters next ps).1 (renumberParameters next' ps').1
      ∧ InStep next next' (renumberParameters next ps).2 (renumberParameters next' ps').2 := by
  induction h generalizing next next' with
  | nil => exact ⟨.nil, .refl _ _⟩
  | cons hp _ ih =>
    obtain ⟨htwin, hstep⟩ := hp.schema.renumber hν
    obtain ⟨hrest, hstep'⟩ := ih (hstep.matched hν)
    exact ⟨.cons ⟨hp.name, hp.location, hp.required, hp.description, htwin⟩ hrest,
      hstep.trans hstep'⟩

/-- The schemas of operations get their numbers in step. -/
theorem twins_renumberOperations {os os' : List Operation}
    (h : List.Forall₂ (Operation.Twins AnyNumbers) os os') (hν : ∀ i, ν (next + i) (next' + i)) :
    List.Forall₂ (Operation.Twins ν) (renumberOperations next os).1 (renumberOperations next' os').1
      ∧ InStep next next' (renumberOperations next os).2 (renumberOperations next' os').2 := by
  induction h generalizing next next' with
  | nil => exact ⟨.nil, .refl _ _⟩
  | cons ho _ ih =>
    obtain ⟨hparameters, hstep₁⟩ := twins_renumberParameters ho.parameters hν
    have hν₁ := hstep₁.matched hν
    obtain ⟨hbody, hstep₂⟩ := twins_renumberOptional ho.requestBody hν₁
    have hν₂ := hstep₂.matched hν₁
    obtain ⟨hresponse, hstep₃⟩ := twins_renumberOptional ho.response hν₂
    obtain ⟨hrest, hstep₄⟩ := ih (hstep₃.matched hν₂)
    exact ⟨.cons ⟨ho.verb, ho.path, ho.operationId, ho.summary, ho.description, ho.deprecated,
      ho.tags, hparameters, hbody, hresponse⟩ hrest,
      hstep₁.trans (hstep₂.trans (hstep₃.trans hstep₄))⟩

/-- Named schemas get their numbers in step; what stands inside them keeps its numbers. -/
theorem twins_renumberSchemas {es es' : List (String × Value)}
    (h : List.Forall₂ (TwinNamed ν) es es') (hν : ∀ i, ν (next + i) (next' + i)) :
    List.Forall₂ (TwinNamed ν) (renumberSchemas next es) (renumberSchemas next' es') := by
  induction h generalizing next next' with
  | nil => exact .nil
  | @cons e e' es es' he _ ih =>
    obtain ⟨name, v⟩ := e
    obtain ⟨name', w⟩ := e'
    obtain ⟨rfl, htwin⟩ : name = name' ∧ Twin ν .schema v w := he
    have hone : InStep next next' (next + 1) (next' + 1) := ⟨1, rfl, rfl⟩
    cases htwin with
    | object _ hms => exact .cons ⟨rfl, .object (hν 0) hms⟩ (ih (hone.matched hν))
    | scalar _ s => exact .cons ⟨rfl, .scalar _ s⟩ (ih hν)
    | list h => exact .cons ⟨rfl, .list h⟩ (ih hν)
    | set _ ks => exact .cons ⟨rfl, .set _ ks⟩ (ih hν)
    | pair hk hv => exact .cons ⟨rfl, .pair hk hv⟩ (ih hν)
    | again _ n => exact .cons ⟨rfl, .again _ n⟩ (ih hν)

end Renumbering

/-! ## Reading both forms -/

/-- The numbers of a document of the older form, and of the renewed one. -/
abbrev RenumberedIn (fresh : Nat) (raw : Value) : Nat → Nat → Prop :=
  Renumbered raw.nextNumber (renewed fresh raw).nextNumber

theorem matching_renumberedIn (fresh k : Nat) (ms : Members) :
    Matching (RenumberedIn fresh (.object k ms)) :=
  matching_renumbered (Nat.lt_of_lt_of_le (Nat.succ_pos _) (Nat.le_max_left _ _))
    (Nat.lt_of_lt_of_le (Nat.succ_pos _) (Nat.le_max_left _ _))

/-- Both forms of a document are read as twins. -/
theorem concur_readParts (files : Source.Files) (fresh : Nat) {k : Nat} {ms : Members}
    (h : IsOlder (.object k ms)) (hp : InPlace (.object k ms))
    (hfinite : isFinite (.object k ms) = isFinite (renewed fresh (.object k ms))) :
    Concur (Document.Twins (RenumberedIn fresh (.object k ms))) (readParts files (.object k ms))
      (readParts files (renewed fresh (.object k ms))) := by
  -- both documents hand out their numbers in step, from the first free ones on
  have hstep : ∀ i, RenumberedIn fresh (.object k ms) ((Value.object k ms).nextNumber + i)
      ((renewed fresh (.object k ms)).nextNumber + i) := fun i => .inr ⟨i, rfl, rfl⟩
  have hzero := (matching_renumberedIn fresh k ms).zero
  unfold isFinite at hfinite
  unfold readParts
  rw [← Bool.not_inj hfinite]
  split
  · exact .fault _ _
  refine (concur_readOperations files h hp).bind fun r r' hos => ?_
  refine (concur_readHead fresh h hzero (fun v hv n hn =>
    renumbered_of_definitions h.noComponents hv hn) r.1 r'.1).bind fun d d' hd => .ok ?_
  obtain ⟨htitle, hdescription, hold, hnew, hschemas⟩ := hd
  have hoperations : List.Forall₂ (Operation.Twins AnyNumbers) d.operations d'.operations := by
    rw [hold, hnew]
    exact hos
  obtain ⟨htwins, hafter⟩ := twins_renumberOperations hoperations hstep
  exact ⟨htitle, hdescription, htwins, twins_renumberSchemas hschemas (hafter.matched hstep)⟩

theorem concur_read (files : Source.Files) (fresh : Nat) {raw : Value} (h : IsOlder raw)
    (hp : InPlace raw) (hfinite : isFinite raw = isFinite (renewed fresh raw)) :
    ∃ ν, Matching ν ∧ Concur (Document.Twins ν) (read files raw) (read files (renewed fresh raw)) := by
  cases raw with
  | object k ms =>
    refine ⟨_, matching_renumberedIn fresh k ms, ?_⟩
    have hparts := concur_readParts files fresh h hp hfinite
    have hpaths := getText?_documentMembers_paths fresh ms
    unfold read
    dsimp only [renewed] at hparts ⊢
    rw [hpaths]
    cases Members.getText? ms "paths" with
    | none => exact .fault _ _
    | some v =>
      cases v with
      | object _ _ => exact hparts
      | _ => exact .fault _ _
  | _ => cases h.version

end Document

namespace Generate

open Document (IsOlder InPlace isFinite renewed objectOf referring)

/-- The text that is generated from a document, if it can be read and one can be generated. -/
def generated (files : Source.Files) (s : Settings) (raw : Value) : Option String :=
  (Document.read files raw).toOption.bind fun d => (client s d).toOption

/-- From a document of the older form and from the renewed one the same client is generated, or
none from both. -/
theorem generations_agree (files : Source.Files) (s : Settings) (fresh : Nat) {raw : Value}
    (h : IsOlder raw) (hp : InPlace raw)
    (hfinite : isFinite raw = isFinite (renewed fresh raw)) :
    generated files s raw = generated files s (renewed fresh raw) := by
  obtain ⟨ν, hν, hread⟩ := Document.concur_read files fresh h hp hfinite
  exact hread.toOption_bind_eq fun d d' htwins => (concur_client hν s htwins).toOption_eq

/-! ### A document with all that is moved -/

/-- An array of texts, as the type of a parameter. -/
def textsParameter (name location : String) : Value :=
  objectOf [("name", .text name), ("in", .text location), ("type", .text "array"),
    ("items", objectOf [("type", .text "string")])]

/-- A body with a schema. -/
def bodyParameter (name schema : Value) : Value :=
  objectOf [("name", name), ("in", .text "body"), ("schema", schema)]

/-- A document of the older form with one path, and with a schema that refers to itself.  Its
objects are numbered as those of a document that was read. -/
def storeDocument (item : Value) : Value :=
  ((objectOf [("swagger", .text "2.0"),
    ("info", objectOf [("title", .text "Store"), ("version", .text "1")]),
    ("paths", objectOf [("/pets", item)]),
    ("definitions", objectOf [("Pet", objectOf [("type", .text "object"),
      ("properties", objectOf [("parent", referring "#/definitions/Pet")])])])]).renumber 1).1

/-- A path item with a shared parameter, a form field, a body, and a response with a schema. -/
def petsItem : Value :=
  objectOf [("parameters", .list [textsParameter "page" "query"]),
    ("post", objectOf [
      ("parameters", .list [textsParameter "file" "formData",
        bodyParameter (.text "pet") (referring "#/definitions/Pet")]),
      ("responses", objectOf [("200", objectOf [("schema", objectOf [("type", .text "array"),
        ("items", referring "#/definitions/Pet")])])])])]

/-- Settings for a document that stands in a file. -/
def storeSettings : Settings := { openApiPath := "store.json" }

theorem generations_agree_store :
    IsOlder (storeDocument petsItem) ∧ InPlace (storeDocument petsItem)
      ∧ (generated [] storeSettings (storeDocument petsItem)).isSome
      ∧ generated [] storeSettings (storeDocument petsItem)
        = generated [] storeSettings (renewed 0 (storeDocument petsItem)) := by
  have holder : IsOlder (storeDocument petsItem) := by decide +kernel
  have hplace : InPlace (storeDocument petsItem) := by decide +kernel
  have hfinite : isFinite (storeDocument petsItem)
      = isFinite (renewed 0 (storeDocument petsItem)) := by
    decide +kernel
  exact ⟨holder, hplace, by decide +kernel,
    generations_agree [] storeSettings 0 holder hplace hfinite⟩

/-! ### What keeps two generations apart -/

/-- A path item that stands among the schemas. -/
def movedItem : Value := referring "#/definitions/Pet"

/-- A path item with a body whose name is a list. -/
def namelessItem : Value :=
  objectOf [("post", objectOf [("parameters",
    .list [bodyParameter (.list []) (referring "#/definitions/Pet")])])]

/-- A path item with a response whose schema is nested as deeply as the number says. -/
def nestedItem (depth : Nat) : Value :=
  objectOf [("get", objectOf [("responses", objectOf [("200",
    objectOf [("schema", Document.nestedValue depth)])])])]

/-- Three documents of the older form, in which parameters and responses are given in place, and
from which not the same is generated when they are renewed: the first one refers to a path item
among the schemas, the second one has a body with a name that is none, and in the third one a
schema is nested so deeply that it cannot be moved further down. -/
theorem generations_differ :
    (IsOlder (storeDocument movedItem)
      ∧ (generated [] storeSettings (storeDocument movedItem)).isSome
      ∧ generated [] storeSettings (renewed 0 (storeDocument movedItem)) = none)
    ∧ (IsOlder (storeDocument namelessItem)
      ∧ generated [] storeSettings (storeDocument namelessItem) = none
      ∧ (generated [] storeSettings (renewed 0 (storeDocument namelessItem))).isSome)
    ∧ IsOlder (storeDocument (nestedItem 478)) ∧ InPlace (storeDocument (nestedItem 478))
      ∧ (generated [] storeSettings (storeDocument (nestedItem 478))).isSome
      ∧ generated [] storeSettings (renewed 0 (storeDocument (nestedItem 478))) = none := by
  refine ⟨⟨?_, ?_, ?_⟩, ⟨?_, ?_, ?_⟩, ?_, ?_, ?_, ?_⟩
  all_goals decide +kernel

end Generate

end OpenApiClient
