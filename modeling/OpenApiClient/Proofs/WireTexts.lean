/-
The wire texts of a document, and what is read back of them.

A class shows the keys of the properties of its schema, an enumeration of texts the texts that its
schema lists, and a method the path of its operation and those names of its parameters that it
has to say.  So the rendered contracts and the rendered interface show the wire texts of the
document in order, each in its place.  What is read there is the wire text only on a condition: the
emission writes names and paths between quotation marks without a look at what is in them, and
moves the lines of every text to the right with the code around it (`wires_read_back_iff`).
-/
import OpenApiClient.Proofs.ChosenNames
import OpenApiClient.Proofs.EnumMembers
import OpenApiClient.Proofs.Inheritance
import OpenApiClient.Proofs.Wires

set_option autoImplicit false

namespace OpenApiClient.Generate

open CSharp
open Schema

variable {x : Context}

/-! ## Contracts -/

/-- The wires of the class of a schema: the keys of its properties, in their order. -/
def propertyWires (c : Catalogue) (v : Value) : List Wire :=
  (mergedProperties c v).map fun m => ⟨.property, m.1.display⟩

/-- The wires of the member for a value that a schema lists; a number has none. -/
def memberWires (isText : Bool) (v : Value) : List Wire :=
  if isText then [⟨.member, v.display⟩] else []

/-- The wires of the enumeration of a schema: what it lists, without what is absent. -/
def enumWires (v : Value) : List Wire :=
  (((listedValues v).toOption.getD []).filter fun w => !w.isNull).flatMap
    (memberWires (v.hasNoType || v.hasType "string"))

/-- The wires of the type of a schema. -/
def contractWires (c : Catalogue) (v : Value) : List Wire :=
  if v.isEnumSchema then enumWires v else propertyWires c v

theorem marks_classProperties {typeName : String} {required : List Scalar} {taken : List String}
    {ms : Members} {ps : List Property} {l l' : Ledger}
    (h : Returns (classProperties x typeName required taken ms) l ps l') :
    List.Forall₂ (fun m p => Marks [⟨.property, m.1.display⟩] p.attributes) ms ps := by
  induction ms generalizing taken ps l with
  | nil =>
    obtain ⟨rfl, -⟩ := returns_pure_iff.1 h
    exact .nil
  | cons m ms ih =>
    rw [classProperties] at h
    obtain ⟨p, l₁, hp, h⟩ := returns_bind_iff.1 h
    obtain ⟨rest, l₂, hrest, h⟩ := returns_bind_iff.1 h
    obtain ⟨rfl, rfl⟩ := returns_pure_iff.1 h
    refine .cons ?_ (ih hrest)
    rw [attributes_classProperty hp]
    exact marks_plain (by simp) _

theorem shows_class {typeName : String} {v : Value} {d : ClassDecl} {l l' : Ledger}
    (h : Returns (classDecl x typeName v) l d l') :
    ShowsIn 1 (propertyWires x.catalogue v) d.render := by
  obtain ⟨parts, l₁, l₂, hparts, hproperties, -, -⟩ := returns_classDecl h
  have hmarks := marks_classProperties hproperties
  rw [(classParts_spec hparts).1] at hmarks
  have hshows := shows_classDecl ((List.forall₂_map_left_iff (f := fun m : Scalar × Value =>
    ([⟨.property, m.1.display⟩] : List Wire))).2 hmarks)
  rw [← List.flatMap_def, ← List.map_eq_flatMap] at hshows
  exact hshows

theorem IsMade.marks {taken : List String} {order : Nat} {isText : Bool} {v : Value}
    {m : EnumMember} (h : IsMade taken order isText v m) :
    Marks (memberWires isText v) m.attributes := by
  unfold memberWires
  cases h with
  | text => exact marks_mark _
  | integer => exact marks_nil _

theorem shows_enumeration {typeName : String} {v : Value} {d : EnumDecl} {l l' : Ledger}
    (h : Returns (enumDecl x typeName v) l d l') : ShowsIn 1 (enumWires v) d.render := by
  obtain ⟨values, l₁, l₂, hvalues, hmembers, -⟩ := parts_of_enumDecl h
  have hmarks := forall₂_enumMembers IsMade.marks hmembers
  have hshows := shows_enumDecl (e := d) (List.forall₂_map_left_iff.2 hmarks)
  unfold enumWires
  rw [hvalues, List.flatMap_def]
  exact hshows

/-- The type of a schema shows the wires of the schema. -/
theorem shows_contract {c : Contract} {e : String × Value} (h : MadeFrom x c e) :
    ShowsIn 1 (contractWires x.catalogue e.2) c.render := by
  unfold contractWires
  cases c with
  | classDecl d =>
    obtain ⟨henum, l, l', hd⟩ := h.classDecl
    rw [if_neg (by rw [henum]; exact Bool.false_ne_true)]
    exact shows_class hd
  | enumDecl d =>
    obtain ⟨henum, l, l', hd⟩ := h.enumDecl
    rw [if_pos henum]
    exact shows_enumeration hd

/-! ## The interface -/

/-- The parameters of an operation, each with the name that it gets. -/
def namedParameters (x : Context) (o : Operation) : List (String × Channel × Parameter) :=
  (Naming.freshAll [] ((orderedParameters x o).map fun e => wantedParameter e.2)).1.zip
    (orderedParameters x o)

/-- Whether a parameter may be left out. -/
def mayBeLeftOut (e : String × Channel × Parameter) : Bool := isOptional e.2.1 e.2.2

/-- The wires of a parameter: a header says its wire name, and of the others those say it that
have another name in the code. -/
def parameterWires (e : String × Channel × Parameter) : List Wire :=
  if e.2.1 = .header then [⟨.header, e.2.2.name⟩]
  else if e.1 = e.2.2.name then [] else [⟨.alias, e.2.2.name⟩]

/-- The wires of the method of an operation: its path, and those of its parameters, with the
parameters that may be left out after the others. -/
def operationWires (x : Context) (o : Operation) : List Wire :=
  ⟨.path o.verb, o.path⟩
    :: ((namedParameters x o).filter (fun e => !mayBeLeftOut e)
      ++ (namedParameters x o).filter mayBeLeftOut).flatMap parameterWires

/-- A parameter of a method is what is written for one of an operation under a name. -/
structure ParamFor (x : Context) (e : String × Channel × Parameter) (m : MethodParam) : Prop where
  name : m.name = Naming.escapeKeyword e.1
  attributes : m.attributes = channelAttributes x e.2.1 e.2.2 ++ aliasAttributes e.2.1 e.1 e.2.2
  default : m.default = if mayBeLeftOut e then some "default" else none

theorem ParamFor.isSome_default {e : String × Channel × Parameter} {m : MethodParam}
    (h : ParamFor x e m) : m.default.isSome = mayBeLeftOut e := by
  rw [h.default]
  cases mayBeLeftOut e <;> rfl

theorem ParamFor.marks {e : String × Channel × Parameter} {m : MethodParam} (h : ParamFor x e m) :
    Marks (parameterWires e) m.attributes := by
  obtain ⟨name, channel, p⟩ := e
  rw [h.attributes]
  unfold parameterWires aliasAttributes
  dsimp only
  by_cases hheader : channel = .header
  · rw [hheader, if_pos rfl, if_neg (by simp), List.append_nil, channelAttributes]
    exact marks_plain (by simp) _
  · rw [if_neg hheader]
    by_cases hname : name = p.name
    · rw [if_pos hname]
      exact marks_nil _
    · rw [if_neg hname, if_pos ⟨hheader, hname⟩]
      exact (marks_nil _).append (marks_plain (by simp) _)

theorem paramFor_methodParam {owner name : String} {channel : Channel} {p : Parameter}
    {m : MethodParam} {l l' : Ledger}
    (h : Returns (methodParam x owner name channel p) l m l') :
    ParamFor x (name, channel, p) m := by
  unfold methodParam at h
  obtain ⟨type, l₁, -, h⟩ := returns_bind_iff.1 h
  obtain ⟨rfl, -⟩ := returns_pure_iff.1 h
  exact ⟨rfl, rfl, rfl⟩

theorem paramFor_methodParams {owner : String} {taken final : List String}
    {ps : List (Channel × Parameter)} {rows : List (MethodParam × Option ParamNote)}
    {l l' : Ledger} (h : Returns (methodParams x owner taken ps) l (rows, final) l') :
    List.Forall₂ (ParamFor x)
      ((Naming.freshAll taken (ps.map fun e => wantedParameter e.2)).1.zip ps)
      (rows.map (·.1)) := by
  induction ps generalizing taken final rows l with
  | nil =>
    obtain ⟨hpair, -⟩ := returns_pure_iff.1 h
    cases hpair
    exact .nil
  | cons e ps ih =>
    rw [methodParams] at h
    obtain ⟨m, l₁, hm, h⟩ := returns_bind_iff.1 h
    obtain ⟨⟨rest, last⟩, l₂, hrest, h⟩ := returns_bind_iff.1 h
    obtain ⟨hpair, rfl⟩ := returns_pure_iff.1 h
    cases hpair
    exact .cons (paramFor_methodParam hm) (ih hrest)

/-- Parameters of which nothing is said show nothing. -/
theorem forall_marks_nil (ps : List MethodParam) :
    List.Forall₂ (fun us (p : MethodParam) => Marks us p.attributes) (ps.map fun _ => []) ps := by
  induction ps with
  | nil => exact .nil
  | cons p ps ih => exact .cons (marks_nil _) ih

theorem shows_method {name : String} {o : Operation} {m : MethodSig} {l l' : Ledger}
    (h : Returns (method x name o) l m l') : ShowsIn 0 (operationWires x o) m.render := by
  obtain ⟨rows, taken, body, l₁, l₂, l₃, hrows, -, -, -, hattributes, hparams⟩ := returns_method h
  have hpath : Marks [⟨.path o.verb, o.path⟩] m.attributes := by
    rw [hattributes, methodAttributes]
    exact (marks_nil _).append (marks_plain (by simp) _)
  -- the parameters that may be left out are told apart alike on both sides
  have hfor : List.Forall₂ (ParamFor x) (namedParameters x o) (rows.map (·.1)) :=
    paramFor_methodParams hrows
  have hkept : ∀ (p : String × Channel × Parameter → Bool) (q : MethodParam → Bool),
      (∀ e k, ParamFor x e k → p e = q k) →
      List.Forall₂ (fun us (k : MethodParam) => Marks us k.attributes)
        (((namedParameters x o).filter p).map parameterWires) ((rows.map (·.1)).filter q) := by
    intro p q hpq
    rw [List.forall₂_map_left_iff]
    refine (List.rel_filter (fun e k hek => ?_) hfor).imp fun e k hek => hek.marks
    change p e = true ↔ q k = true
    rw [hpq e k hek]
  have hrequired := hkept (fun e => !mayBeLeftOut e) (fun k => k.default.isNone)
    (fun e k hek => by rw [← hek.isSome_default, Option.not_isSome])
  have hoptional := hkept mayBeLeftOut (fun k => k.default.isSome)
    (fun e k hek => hek.isSome_default.symm)
  have hgiven := List.rel_append (List.rel_append hrequired (forall_marks_nil body)) hoptional
  have hmarks := List.rel_append hgiven
    (forall_marks_nil (tokenParam x (taken ++ body.map (·.name))))
  dsimp only at hmarks
  rw [← hparams] at hmarks
  have hshows := shows_methodSig hpath hmarks
  simp only [List.flatten_append, flatten_map_nil, List.append_nil] at hshows
  unfold operationWires
  rw [List.flatMap_append, List.flatMap_def, List.flatMap_def]
  exact hshows

theorem shows_interface {i : InterfaceDecl} {l l' : Ledger}
    (h : Returns (interfaceDecl x) l i l') :
    ∃ ops, x.operations = .ok ops
      ∧ ShowsIn 2 (ops.flatMap (operationWires x)) (renderInterface i) := by
  obtain ⟨ops, hops, hmethods, -⟩ := returns_interfaceDecl h
  refine ⟨ops, hops, ?_⟩
  obtain ⟨hfrom, -⟩ := methods_spec hmethods
  have hshows : List.Forall₂ (fun us (m : MethodSig) => ShowsIn 0 us m.render)
      (ops.map (operationWires x)) i.methods := by
    rw [List.forall₂_map_left_iff]
    exact hfrom.flip.imp fun o m ⟨_, _, _, hm⟩ => shows_method hm
  have hindented := shows_indent (shows_interfaceDecl hshows) 1
  rw [← List.flatMap_def] at hindented
  exact hindented

/-! ## What is read back -/

/-- The rendered contracts show the wires of the schemas that types are declared for. -/
theorem shows_contracts {s : Settings} {d : Document} {cs : List Contract} {l : Ledger}
    (h : Returns (contracts (.of s d)) {} cs l) :
    ShowsIn 2 ((declaredSchemas (.of s d) d.schemas ++ l.inlined).flatMap
      fun e => contractWires (Context.of s d).catalogue e.2) (renderContracts s cs) := by
  obtain ⟨_, _, _, _, -, -, -, -, hmade⟩ := contracts_stages h
  have hshows := shows_renderContracts s ((List.forall₂_map_left_iff
    (f := fun e : String × Value => contractWires (Context.of s d).catalogue e.2)).2
      (hmade.flip.imp fun e c hce => shows_contract hce))
  rw [← List.flatMap_def] at hshows
  exact hshows

/-- The rendered contracts show the wire texts of the schemas that types are declared for, and the
rendered interface those of the operations, in order and each in its place.  The literal that stands
there is read as the wire text exactly if the wire survives: a name or a path must have no quotation
mark, no backslash and no end of a line in it, and a member must be one line. -/
theorem wires_read_back_iff (s : Settings) (d : Document) {cs : List Contract}
    {i : InterfaceDecl} {l l' : Ledger} (hcontracts : Returns (contracts (.of s d)) {} cs l)
    (hinterface : Returns (interfaceDecl (.of s d)) l i l') :
    ShowsIn 2 ((declaredSchemas (.of s d) d.schemas ++ l.inlined).flatMap
        fun e => contractWires (Context.of s d).catalogue e.2) (renderContracts s cs)
      ∧ (∃ ops, (Context.of s d).operations = .ok ops
        ∧ ShowsIn 2 (ops.flatMap (operationWires (.of s d))) (renderInterface i))
      ∧ ∀ (w : Wire) (rest : List Char),
        (readLiteral (w.code 2 ++ ')' :: rest)).map (·.1) = some (units w.text.toList)
          ↔ w.Survives := by
  refine ⟨shows_contracts hcontracts, shows_interface hinterface, fun w rest => ?_⟩
  exact w.readLiteral_code_iff (by decide) (by simp)

/-- A document with all kinds of wire texts, some of which do not survive. -/
def quotedDocument : Document where
  schemas := [
    ("Pet", .object 1 [(.text "properties", .object 2 [
      (.text "full name", .object 3 []), (.text "say \"hi\"", .object 4 []),
      (.text "a\\b", .object 5 [])])]),
    ("Kind", .object 6 [(.text "enum",
      .list [.text "say \"no\"", .null, .text "c\\d", .text "two\nlines"])]),
    ("Level", .object 7 [(.text "type", .text "integer"), (.text "enum", .list [.int 1])])]
  operations := [{
    verb := .get
    path := "/pets/\x7bid\x7d"
    operationId := some "getPet"
    parameters := [
      { name := "page size", location := "query", schema := .object 8 [] },
      { name := "X-Trace", location := "header", required := true, schema := .object 9 [] },
      { name := "id", location := "path", required := true, schema := .object 10 [] },
      { name := "the \"filter\"", location := "query", required := true,
        schema := .object 11 [] }] }]

/-- The settings for that document. -/
def quotedSettings : Settings := { openApiPath := "pets.json" }

/-- The wires of its schemas. -/
def quotedContractWires : List Wire :=
  [⟨.property, "full name"⟩, ⟨.property, "say \"hi\""⟩, ⟨.property, "a\\b"⟩,
    ⟨.member, "say \"no\""⟩, ⟨.member, "c\\d"⟩, ⟨.member, "two\nlines"⟩]

/-- The wires of its operation. -/
def quotedOperationWires : List Wire :=
  [⟨.path .get, "/pets/\x7bid\x7d"⟩, ⟨.alias, "the \"filter\""⟩, ⟨.header, "X-Trace"⟩,
    ⟨.alias, "page size"⟩]

theorem quotedDocument_contractWires :
    ((declaredSchemas (.of quotedSettings quotedDocument) quotedDocument.schemas).flatMap
        fun e => contractWires (Context.of quotedSettings quotedDocument).catalogue e.2)
      = quotedContractWires := by
  decide +kernel

theorem quotedDocument_operationWires :
    quotedDocument.operations.flatMap (operationWires (.of quotedSettings quotedDocument))
      = quotedOperationWires := by
  decide +kernel

theorem quotedDocument_passes :
    ∃ cs i l l', Returns (contracts (.of quotedSettings quotedDocument)) {} cs l
      ∧ Returns (interfaceDecl (.of quotedSettings quotedDocument)) l i l'
      ∧ cs.map Contract.name = ["Pet", "Kind", "Level"] := by
  refine exists_passes (f := fun r => r.1.map Contract.name) ?_
  decide +kernel

theorem quotedDocument_operations :
    (Context.of quotedSettings quotedDocument).operations = .ok quotedDocument.operations := rfl

theorem wires_read_back_quoted :
    ∃ cs i l l', Returns (contracts (.of quotedSettings quotedDocument)) {} cs l
      ∧ Returns (interfaceDecl (.of quotedSettings quotedDocument)) l i l'
      ∧ cs.map Contract.name = ["Pet", "Kind", "Level"]
      ∧ ShowsIn 2 (quotedContractWires ++ l.inlined.flatMap
          fun e => contractWires (Context.of quotedSettings quotedDocument).catalogue e.2)
        (renderContracts quotedSettings cs)
      ∧ ShowsIn 2 quotedOperationWires (renderInterface i)
      ∧ ∀ (w : Wire) (rest : List Char),
        (readLiteral (w.code 2 ++ ')' :: rest)).map (·.1) = some (units w.text.toList)
          ↔ w.Survives := by
  obtain ⟨cs, i, l, l', hcontracts, hinterface, hnames⟩ := quotedDocument_passes
  obtain ⟨hshows, ⟨ops, hops, hmethods⟩, hread⟩ := wires_read_back_iff _ _ hcontracts hinterface
  rw [List.flatMap_append, quotedDocument_contractWires] at hshows
  rw [quotedDocument_operations] at hops
  cases hops
  rw [quotedDocument_operationWires] at hmethods
  exact ⟨cs, i, l, l', hcontracts, hinterface, hnames, hshows, hmethods, hread⟩

/-- Wires of the document that are read as another text, with that text. -/
def misreadings : List (Wire × String) :=
  [(⟨.property, "say \"hi\""⟩, "say "), (⟨.property, "a\\b"⟩, "a\x08"),
    (⟨.member, "two\nlines"⟩, "two\n        lines"), (⟨.alias, "the \"filter\""⟩, "the ")]

/-- What the literals of those wires are read as, in whatever code they stand. -/
theorem readLiteral_misreadings (rest : List Char) :
    ∀ e ∈ misreadings,
      (readLiteral (e.1.code 2 ++ ')' :: rest)).map (·.1) = some (units e.2.toList) := by
  have hcodes : misreadings.map (fun e => e.1.code 2)
      = ["\"say \"hi\"\"".toList, "\"a\\b\"".toList, "@\"two\n        lines\"".toList,
        "\"the \"filter\"\"".toList] := by
    decide +kernel
  simp only [misreadings, List.map_cons, List.map_nil, List.cons.injEq, and_true] at hcodes
  obtain ⟨hquoted, hescape, hline, halias⟩ := hcodes
  simp only [misreadings, List.forall_mem_cons, List.not_mem_nil, false_imp_iff, implies_true,
    and_true, hquoted, hescape, hline, halias]
  exact ⟨rfl, rfl, rfl, rfl⟩

/-- The code that is generated for the document shows its wires, but where these ones stand
another text is read. -/
theorem wires_misread :
    ∃ cs i l l', Returns (contracts (.of quotedSettings quotedDocument)) {} cs l
      ∧ Returns (interfaceDecl (.of quotedSettings quotedDocument)) l i l'
      ∧ ShowsIn 2 (quotedContractWires ++ l.inlined.flatMap
          fun e => contractWires (Context.of quotedSettings quotedDocument).catalogue e.2)
        (renderContracts quotedSettings cs)
      ∧ ShowsIn 2 quotedOperationWires (renderInterface i)
      ∧ ∀ e ∈ misreadings, e.1 ∈ quotedContractWires ++ quotedOperationWires
        ∧ ∀ rest, (readLiteral (e.1.code 2 ++ ')' :: rest)).map (·.1) = some (units e.2.toList)
          ∧ units e.2.toList ≠ units e.1.text.toList := by
  obtain ⟨cs, i, l, l', hcontracts, hinterface, -⟩ := quotedDocument_passes
  have hshows := shows_contracts hcontracts
  obtain ⟨ops, hops, hmethods⟩ := shows_interface hinterface
  rw [List.flatMap_append, quotedDocument_contractWires] at hshows
  rw [quotedDocument_operations] at hops
  cases hops
  rw [quotedDocument_operationWires] at hmethods
  have hwires : ∀ e ∈ misreadings, e.1 ∈ quotedContractWires ++ quotedOperationWires := by
    decide
  have hdiffer : ∀ e ∈ misreadings, units e.2.toList ≠ units e.1.text.toList := by
    decide +kernel
  exact ⟨cs, i, l, l', hcontracts, hinterface, hshows, hmethods,
    fun e he => ⟨hwires e he, fun rest => ⟨readLiteral_misreadings rest e he, hdiffer e he⟩⟩⟩

end OpenApiClient.Generate
