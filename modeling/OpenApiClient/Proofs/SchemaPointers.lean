/-
References to named schemas, as pointers.

A reference to a named schema is read in two ways.  Whoever goes through the document follows it as
a pointer: the name at its end is read with its escapes undone, and whatever the name, the schema
under it is found (`leadsTo_stem`).  Whoever asks for the type of the schema cuts off the stem and
takes what is left for the name, as it is written.  Then an escape is a part of the name, and the
schema is found only if nothing in its name had to be escaped (`schema_pointer`).

That the first reader comes to the schema is a matter of its way as well: the thing to check is that
the address in front of the pointer is empty, so that the way begins at the root of the document,
and that no object on the way is a reference itself (`StandsAt`).
-/
import OpenApiClient.Proofs.Declarations
import OpenApiClient.Proofs.Following
import OpenApiClient.Proofs.PointerEscapes

set_option autoImplicit false

namespace OpenApiClient

open Generate (Fault)

namespace Schema.Catalogue

/-! ## Names in references -/

/-- The characters besides letters and digits that can stand in a fragment as they are. -/
def fragmentMarks : List Char :=
  ['-', '.', '_', '~', '!', '$', '&', '\'', '(', ')', '*', '+', ',', ';', '=', ':', '@', '/', '?']

/-- Whether a character can stand in a fragment as it is. -/
def isFragmentChar (c : Char) : Bool := c.isAlphanum || fragmentMarks.contains c

theorem bounds_of_isFragmentChar {c : Char} (h : isFragmentChar c) :
    0x20 < c.toNat ∧ c.toNat < 0x80 ∧ c ≠ '%' := by
  rw [isFragmentChar, Bool.or_eq_true] at h
  rcases h with h | h
  · have hword : Naming.isWordChar c := h
    have hpercent : ('%' : Char).toNat = 37 := rfl
    rw [Naming.isWordChar_iff] at hword
    refine ⟨by omega, by omega, ?_⟩
    rintro rfl
    omega
  · have hall : fragmentMarks.all fun c => decide (0x20 < c.toNat ∧ c.toNat < 0x80 ∧ c ≠ '%') := by
      decide
    exact of_decide_eq_true (List.all_eq_true.1 hall c (List.contains_iff_mem.1 h))

theorem arePlain_fragmentChars : Text.Percent.ArePlain isFragmentChar :=
  fun _ hc => (bounds_of_isFragmentChar hc).2

/-- The name of a schema as the last step of a reference, in the form that an address can hold.  A
half of a surrogate pair has no such form. -/
def escapedName (name : String) : Except Text.EncodeFault (List Char) :=
  Text.Percent.escape isFragmentChar (Reference.escapeStep name.toList)

/-- A name stays as it is exactly if there is nothing to escape in it. -/
theorem escapedName_eq_self_iff {name : String} {written : List Char}
    (h : escapedName name = .ok written) :
    written = name.toList ↔ ∀ c ∈ name.toList, isFragmentChar c ∧ c ≠ '~' ∧ c ≠ '/' := by
  obtain ⟨hle, hsafe⟩ := Text.Percent.length_escape h
  obtain ⟨hle', hstep⟩ := Reference.length_escapeStep name.toList
  constructor
  · rintro rfl
    -- both passes make a text longer, so neither had anything to do
    obtain ⟨hself, hmarks⟩ := hstep (by omega)
    rw [hself] at hsafe
    exact fun c hc => ⟨hsafe rfl c hc, hmarks c hc⟩
  · intro hall
    have hself : Reference.escapeStep name.toList = name.toList := by
      have hmark : ∀ c ∈ name.toList, Reference.escapeMark c = [c] := by
        intro c hc
        obtain ⟨-, htilde, hslash⟩ := hall c hc
        rw [Reference.escapeMark, if_neg htilde, if_neg hslash]
      rw [Reference.escapeStep, List.flatMap_congr hmark, List.flatMap_singleton']
    have hescape := Text.Percent.escape_append (s := []) (fun c hc => (hall c hc).1) rfl
    rw [List.append_nil] at hescape
    rw [escapedName, hself, hescape] at h
    exact (Except.ok.inj h).symm

/-! ## Cutting off the stem -/

theorem stem_cases {stem : String} (h : stem ∈ refStems) :
    stem = "#/components/schemas/" ∨ stem = "#/definitions/" := by
  simpa [refStems] using h

/-- A stem is written as it is. -/
theorem isFragmentChar_of_mem_stem {stem : String} (h : stem ∈ refStems) :
    ∀ c ∈ stem.toList.tail, isFragmentChar c := by
  refine List.all_eq_true.1 ?_
  rcases stem_cases h with rfl | rfl <;> decide

theorem refTarget?_stem {stem : String} (h : stem ∈ refStems) (rest : List Char) :
    refTarget? (stem ++ .ofList rest) = some (.ofList rest) := by
  unfold refTarget?
  rw [String.toList_append, String.toList_ofList, refStems, List.findSome?_cons]
  rcases stem_cases h with rfl | rfl
  · rw [Text.dropWord?_append]
    rfl
  · rw [List.findSome?_cons, Text.dropWord?_append]
    rfl

variable {schemas : List (String × Value)}

theorem schema?_of_mem (h : (schemas.map (·.1)).Nodup) {name : String} {v : Value}
    (hmem : (name, v) ∈ schemas) : (ofSchemas schemas).schema? name = some v := by
  have hlookup : schemas.lookup name = some v := by
    obtain ⟨before, after, rfl⟩ := List.append_of_mem hmem
    refine List.lookup_eq_some_iff.2 ⟨before, after, rfl, fun e he => ?_⟩
    rw [List.map_append, List.nodup_append] at h
    rw [bne_iff_ne]
    exact (h.2.2 e.1 (List.mem_map_of_mem he) name (by simp)).symm
  exact hlookup

/-- Schemas of different names have types of different names. -/
theorem typeName_inj (h : (schemas.map (·.1)).Nodup) {name name' : String} {v v' : Value}
    (hmem : (name, v) ∈ schemas) (hmem' : (name', v') ∈ schemas)
    (heq : (ofSchemas schemas).typeName name = (ofSchemas schemas).typeName name') :
    name = name' := by
  have hnames := typeNames_nodup schemas
  rw [← map_typeName h] at hnames
  exact (Prod.mk.inj (List.inj_on_of_nodup_map hnames hmem hmem' heq)).1

end Schema.Catalogue

namespace Reference

open Schema (Catalogue)
open View

/-! ## The way of a pointer -/

/-- A value stands at the end of the members that some names lead through, none of which is in a
reference. -/
inductive StandsAt : Value → List String → Value → Prop where
  | here (v : Value) : StandsAt v [] v
  | member {v w u : Value} {name : String} {names : List String}
    (hplain : v.reference? = none) (hmember : v.member? name = some w) (h : StandsAt w names u) :
    StandsAt v (name :: names) u

theorem exists_step? {n : Node} {name : String} {w : Value} (h : n.value.member? name = some w) :
    ∃ next, n.step? name = some next ∧ next.value = w := by
  obtain ⟨document, place, v⟩ := n
  cases v with
  | object k ms =>
    obtain ⟨m, hfind, rfl⟩ := Option.map_eq_some_iff.1 h
    obtain ⟨hkey, i, hi, hat, hbefore⟩ := List.find?_eq_some_iff_getElem.1 hfind
    have hindex : ms.findIdx? (fun m => m.1.isText name) = some i :=
      List.findIdx?_eq_some_iff_getElem.2 ⟨hi, hat ▸ hkey, fun j hj => by simpa using hbefore j hj⟩
    refine ⟨Node.child ⟨document, place, .object k ms⟩ i m.2, ?_, rfl⟩
    unfold Node.step?
    dsimp only
    rw [hindex, Option.bind_some, List.getElem?_eq_getElem hi, hat, Option.map_some]
  | _ => cases h

/-- A way through such members comes to its end. -/
theorem exists_walk (fuel : Nat) (self : Node) (e : Fault) {n : Node} {names : List String}
    {u : Value} (l : Library) (h : StandsAt n.value names u) :
    ∃ found, Runs (walk (settleWith fuel) self e n names) l found l ∧ found.value = u := by
  generalize hv : n.value = v at h
  induction h generalizing n with
  | here v => exact ⟨n, runs_walk_nil_iff.2 ⟨rfl, rfl⟩, hv⟩
  | member hplain hmember _ ih =>
    subst hv
    obtain ⟨next, hstep, hvalue⟩ := exists_step? hmember
    obtain ⟨found, hwalk, hfound⟩ := ih hvalue
    refine ⟨found, runs_walk_cons_iff.2 ⟨n, l, next, ?_, hstep, hwalk⟩, hfound⟩
    cases hat : n.isAt self with
    | true => exact .inl ⟨hat, rfl, rfl⟩
    | false => exact .inr ⟨hat, (runs_settleWith_of_plain hplain).2 ⟨rfl, rfl⟩⟩

/-! ## Addresses that are a fragment only -/

theorem ofText_fragment {p : List Char} (hp : ∀ c ∈ p, 0x20 < c.toNat) :
    Address.ofText [] ('#' :: p) = .ok { fragment := p } := by
  have hclean : Address.clean ('#' :: p) = '#' :: p := by
    unfold Address.clean
    rw [List.dropWhile_cons_of_neg (by decide), List.filter_eq_self]
    have hkept : ∀ c : Char, 0x20 < c.toNat → decide (c ≠ '\t' ∧ c ≠ '\r' ∧ c ≠ '\n') = true := by
      intro c hc
      rw [decide_eq_true_iff]
      refine ⟨?_, ?_, ?_⟩ <;>
      · rintro rfl
        revert hc
        decide
    exact List.forall_mem_cons.2 ⟨by decide, fun c hc => hkept c (hp c hc)⟩
  have hscheme : Address.cutScheme [] ('#' :: p) = ([], '#' :: p) := by
    unfold Address.cutScheme
    split
    · -- a colon in the pointer ends no scheme, since the mark of the fragment stands before it
      rename_i before after hsplit
      have hbefore : Address.isScheme before = false := by
        unfold Text.splitFirst? at hsplit
        split at hsplit
        · cases hsplit
        · obtain ⟨rfl, -⟩ := Prod.mk.inj (Option.some.inj hsplit)
          rfl
      rw [hbefore]
      rfl
    · rfl
  unfold Address.ofText
  rw [hclean, hscheme]
  rfl

/-- A reference that is a fragment only leads into the first document. -/
theorem target_fragment {p : List Char} (hp : ∀ c ∈ p, 0x20 < c.toNat) :
    target [] (.ofList ('#' :: p)) = .ok ('#' :: p, [], p) := by
  have hsplit : Address.splitFragment ('#' :: p) = .ok ([], p) := by
    unfold Address.splitFragment
    rw [ofText_fragment hp]
    rfl
  have hjoin : Address.join [] ('#' :: p) = .ok ('#' :: p) := rfl
  unfold target
  rw [String.toList_ofList]
  exact bind_eq_ok_iff.2 ⟨_, hjoin, bind_eq_ok_iff.2 ⟨_, hsplit, rfl⟩⟩

theorem documentAt_first {files : Source.Files} {root : Value} {l : Library}
    (hl : l.Begins files root) (ref : String) : Runs (documentAt ref []) l 0 l := by
  obtain ⟨rest, rfl⟩ := hl
  refine runs_documentAt_iff.2 ⟨[], rfl, .inl ⟨?_, rfl⟩⟩
  rw [List.findIdx?_cons]
  rfl

/-! ## References to named schemas -/

/-- The names that lead from the root of a document to the table of schemas that a stem means. -/
def stemPlace (stem : String) : List String :=
  ((Text.splitOn '/' stem.toList).tail.dropLast).map .ofList

variable {stem name : String} {enc : List Char}

/-- The steps of a reference to a named schema: those of the stem, and the name. -/
theorem pointerSteps_stem (hstem : stem ∈ Catalogue.refStems)
    (henc : Catalogue.escapedName name = .ok enc) :
    pointerSteps (stem.toList.tail ++ enc) = stemPlace stem ++ [name] := by
  have hread : Text.Percent.unescape (stem.toList.tail ++ enc)
      = stem.toList.tail ++ escapeStep name.toList :=
    Text.Percent.unescape_escape Catalogue.arePlain_fragmentChars
      (Text.Percent.escape_append (Catalogue.isFragmentChar_of_mem_stem hstem) henc)
  have hsteps : ∀ place : List Char, (Text.splitOn '/' (place ++ '/' :: escapeStep name.toList)).map
      (fun s => String.ofList (unescapeStep s))
        = (Text.splitOn '/' place).map (fun s => String.ofList (unescapeStep s)) ++ [name] := by
    intro place
    rw [Text.splitOn_append, Text.splitOn_of_not_mem (slash_not_mem_escapeStep _), List.map_append,
      List.map_singleton, unescapeStep_escapeStep, String.ofList_toList]
  unfold pointerSteps
  rw [hread]
  rcases Catalogue.stem_cases hstem with rfl | rfl
  · refine Eq.trans (hsteps "components/schemas".toList) (congrArg (· ++ [name]) ?_)
    decide +kernel
  · refine Eq.trans (hsteps "definitions".toList) (congrArg (· ++ [name]) ?_)
    decide +kernel

/-- Whatever the name of a schema: a reference to it is followed to the schema, wherever the
reference stands, and nothing else is read on the way. -/
theorem leadsTo_stem {files : Source.Files} {root w : Value} {l : Library} {n : Node} {fuel : Nat}
    (hl : l.Begins files root) (hn : n.document = 0) (hstem : stem ∈ Catalogue.refStems)
    (henc : Catalogue.escapedName name = .ok enc)
    (hplace : StandsAt root (stemPlace stem ++ [name]) w) :
    ∃ found, found.value = w
      ∧ LeadsTo (settleWith fuel) n (stem ++ String.ofList enc) l found l := by
  have hvisible : ∀ c ∈ stem.toList.tail ++ enc, 0x20 < c.toNat := by
    have hsafe : ∀ c, Catalogue.isFragmentChar c → 0x20 < c.toNat :=
      fun c hc => (Catalogue.bounds_of_isFragmentChar hc).1
    refine List.forall_mem_append.2 ⟨?_, Text.Percent.forall_mem_escape hsafe
      (fun b c hc => (Text.Percent.mem_escapeByte b c hc).1) henc⟩
    exact fun c hc => hsafe c (Catalogue.isFragmentChar_of_mem_stem hstem c hc)
  have htext : stem ++ String.ofList enc = .ofList ('#' :: (stem.toList.tail ++ enc)) := by
    rw [← String.toList_inj, String.toList_append, String.toList_ofList, String.toList_ofList]
    rcases Catalogue.stem_cases hstem with rfl | rfl <;> rfl
  have hroot : (l.rootNode 0).value = root := by rw [hl.rootNode]
  rw [← hroot] at hplace
  let pointer := stem.toList.tail ++ enc
  let dangling := Fault.dangling (.ofList ('#' :: pointer)) (.ofList pointer)
  obtain ⟨found, hwalk, hfound⟩ := exists_walk fuel n dangling l hplace
  refine ⟨found, hfound, '#' :: pointer, [], pointer, 0, l, ?_, documentAt_first hl _, ?_⟩
  · -- in the first document an address is relative to nothing
    rw [hn, hl.baseOf, htext]
    exact target_fragment hvisible
  · rw [pointerSteps_stem hstem henc]
    exact hwalk

/-- A reference to a schema by its name, written as a pointer.  It is followed to the schema,
whatever the name.  Where it is asked for the type, the name is not read as it was written: what
stands behind the stem is taken for a name, escapes and all.  The type of the schema and the schema
come out of this exactly if there is nothing to escape in the name. -/
theorem schema_pointer (d : Document) {name : String} {v : Value} (hname : (name, v) ∈ d.schemas)
    {stem : String} (hstem : stem ∈ Catalogue.refStems) {enc : List Char}
    (henc : Catalogue.escapedName name = .ok enc) :
    let c := Catalogue.ofSchemas d.schemas
    let written := String.ofList enc
    let ref := stem ++ written
    (∀ {files : Source.Files} {root w : Value} {l : Library} {n : Node} (fuel : Nat),
        l.Begins files root → n.document = 0 → n.value.reference? = some ref →
        StandsAt root (stemPlace stem ++ [name]) w →
        ∃ found, found.value = w ∧ LeadsTo (settleWith fuel) n ref l found l
          ∧ (w.reference? = none → Runs (settleWith (fuel + 1) n) l found l))
      ∧ c.refName ref = (if (c.schema? written).isSome then .ok (c.typeName written)
          else .error (.schemaNotFound ref))
      ∧ c.refSchema ref = (c.schema? written).getD (.object 0 [])
      ∧ ((c.refName ref = .ok (c.typeName name) ∧ c.refSchema ref = v)
        ↔ ∀ ch ∈ name.toList, Catalogue.isFragmentChar ch ∧ ch ≠ '~' ∧ ch ≠ '/') := by
  intro c written ref
  have htarget : Catalogue.refTarget? ref = some written := Catalogue.refTarget?_stem hstem enc
  have hrefName : c.refName ref = (if (c.schema? written).isSome then .ok (c.typeName written)
      else .error (.schemaNotFound ref)) := by
    rw [Catalogue.refName, htarget]
  have hrefSchema : c.refSchema ref = (c.schema? written).getD (.object 0 []) := by
    rw [Catalogue.refSchema, htarget, Option.bind_some]
  refine ⟨?_, hrefName, hrefSchema, ?_⟩
  · intro files root w l n fuel hl hn href hplace
    obtain ⟨found, rfl, hleads⟩ := leadsTo_stem hl hn hstem henc hplace
    refine ⟨found, rfl, hleads, fun hplain => ?_⟩
    refine (runs_settleWith_iff href).2 ⟨found, l, hleads, ?_,
      (runs_settleWith_of_plain hplain).2 ⟨rfl, rfl⟩⟩
    rw [Node.isReference, hplain]
    rfl
  · rw [← Catalogue.escapedName_eq_self_iff henc]
    constructor
    · rintro ⟨htype, -⟩
      obtain ⟨name', v', htarget', hschema, htype'⟩ := Catalogue.refName_eq_ok_iff.1 htype
      rw [htarget] at htarget'
      obtain rfl := Option.some.inj htarget'
      -- the type has one schema only, so the name that was read off is the name that was meant
      have hmem := Catalogue.mem_of_schema? hschema
      have hsame := Catalogue.typeName_inj d.distinct hmem hname htype'
      rw [← hsame, String.toList_ofList]
    · intro hself
      have hwritten : written = name := by rw [← String.ofList_toList (s := name), ← hself]
      have hschema := Catalogue.schema?_of_mem d.distinct hname
      rw [hwritten] at htarget
      exact ⟨Catalogue.refName_eq_ok_iff.2 ⟨name, v, htarget, hschema, rfl⟩,
        Catalogue.refSchema_eq htarget hschema⟩

/-- Two named schemas; there is a slash in the name of the second. -/
def slashSchemas : List (String × Value) := [("Pet", .object 1 []), ("a/b", .object 2 [])]

/-- A document with these schemas. -/
def slashDocument : Document where
  schemas := slashSchemas

/-- The same as it is written. -/
def slashRoot : Value :=
  .object 3 [(.text "components", .object 4 [(.text "schemas",
    .object 5 (slashSchemas.map fun e => (.text e.1, e.2)))])]

/-- A reference that stands in the document. -/
def referenceNode (ref : String) : Node := ⟨0, [0, 0], .object 6 [(.text "$ref", .text ref)]⟩

theorem schema_pointer_pet :
    Catalogue.escapedName "Pet" = .ok "Pet".toList
      ∧ (∃ found, found.value = .object 1 []
        ∧ Runs (settleWith 1 (referenceNode "#/components/schemas/Pet")) (.ofValue [] slashRoot)
            found (.ofValue [] slashRoot))
      ∧ (Catalogue.ofSchemas slashDocument.schemas).refName "#/components/schemas/Pet" = .ok "Pet"
      ∧ (Catalogue.ofSchemas slashDocument.schemas).refSchema "#/components/schemas/Pet"
        = .object 1 [] := by
  have henc : Catalogue.escapedName "Pet" = .ok "Pet".toList := by decide +kernel
  have hmem : ("Pet", Value.object 1 []) ∈ slashDocument.schemas := List.mem_cons_self
  have hstem : "#/components/schemas/" ∈ Catalogue.refStems := List.mem_cons_self
  obtain ⟨hfollow, -, -, hread⟩ := schema_pointer slashDocument hmem hstem henc
  have hplace : StandsAt slashRoot (stemPlace "#/components/schemas/" ++ ["Pet"]) (.object 1 []) :=
    .member rfl rfl (.member rfl rfl (.member rfl rfl (.here _)))
  obtain ⟨found, hfound, -, hruns⟩ := hfollow (n := referenceNode "#/components/schemas/Pet") 0
    ⟨[], rfl⟩ rfl rfl hplace
  obtain ⟨hname, hschema⟩ := hread.2 ((Catalogue.escapedName_eq_self_iff henc).1 rfl)
  exact ⟨henc, ⟨found, hfound, hruns rfl⟩, hname, hschema⟩

/-- A schema whose name has a slash in it is not found by its reference, when it is asked for its
type. -/
theorem schema_pointer_lost :
    ("a/b", Value.object 2 []) ∈ slashDocument.schemas
      ∧ Catalogue.escapedName "a/b" = .ok "a~1b".toList
      ∧ (Catalogue.ofSchemas slashDocument.schemas).typeName "a/b" = "AB"
      ∧ (Catalogue.ofSchemas slashDocument.schemas).refName "#/components/schemas/a~1b"
        = .error (.schemaNotFound "#/components/schemas/a~1b")
      ∧ (Catalogue.ofSchemas slashDocument.schemas).refSchema "#/components/schemas/a~1b"
        = .object 0 [] := by
  refine ⟨List.mem_cons_of_mem _ List.mem_cons_self, by decide +kernel, by decide +kernel, ?_, ?_⟩
  · rfl
  · rfl

end Reference

end OpenApiClient
