/-
The list of types without a name is worked off.

The list grows while it is worked off, since writing a type asks for the types of its properties
and these can be new.  `Drains` is this work as a loop without any bound: it goes on as long as
something stands at the next index, and it says nothing about a document that keeps it going for
ever.  `inlineContracts` counts its rounds instead, and a run of it whose count were used up would
look like one that has come to its end.  `queue_drains` shows that this does not happen.

What bounds the loop is not the ledger at hand but the objects that can be reached from where the
run began: every schema that is asked for is a part of a named schema or of a schema of an
operation that code is generated for, an object enters the ledger under its own number, and no
number enters twice.  References that go in circles lead to objects that have been counted, and a
property that several classes take over from one part is one object for all of them.

A type that cannot be written ends the loop as well.  The ledger is then the one that has been
left behind, so the bound is shown for whatever steps have been taken (`Steps`), not only for
those of a computation that returns.
-/
import OpenApiClient.Proofs.Exclusions

set_option autoImplicit false

namespace OpenApiClient.Generate

open Schema

/-! ## The loop -/

/-- The types of the objects in the ledger are written from an index on, until none is left or one
of them cannot be written. -/
inductive Drains (x : Context) :
    Nat → Ledger → Except Fault (List Contract) → Ledger → Prop where
  | done {index : Nat} {l : Ledger} (hat : l.inlined[index]? = none) :
    Drains x index l (.ok []) l
  | stuck {index : Nat} {l l' : Ledger} {e : String × Value} {f : Fault}
    (hat : l.inlined[index]? = some e) (hf : Fails (contract x e.1 e.2) l f l') :
    Drains x index l (.error f) l'
  | next {index : Nat} {l l₁ l' : Ledger} {e : String × Value} {c : Contract}
    {r : Except Fault (List Contract)} (hat : l.inlined[index]? = some e)
    (hc : Returns (contract x e.1 e.2) l c l₁) (h : Drains x (index + 1) l₁ r l') :
    Drains x index l (r.map (c :: ·)) l'

variable {x : Context} {pool : List Nat}

/-- The loop has one outcome. -/
theorem Drains.unique {index : Nat} {l l₁ l₂ : Ledger} {r₁ r₂ : Except Fault (List Contract)}
    (h₁ : Drains x index l r₁ l₁) (h₂ : Drains x index l r₂ l₂) : r₁ = r₂ ∧ l₁ = l₂ := by
  -- at an index there is one entry or none, and the entry gives one result
  induction h₁ generalizing r₂ l₂ with
  | done hat =>
    cases h₂ with
    | done => exact ⟨rfl, rfl⟩
    | stuck hat' => simp [hat] at hat'
    | next hat' => simp [hat] at hat'
  | stuck hat hf =>
    cases h₂ with
    | done hat' => simp [hat] at hat'
    | stuck hat' hf' =>
      obtain rfl := Option.some.inj (hat.symm.trans hat')
      obtain ⟨hr, rfl⟩ := Prod.mk.inj (hf.symm.trans hf')
      cases hr
      exact ⟨rfl, rfl⟩
    | next hat' hc' =>
      obtain rfl := Option.some.inj (hat.symm.trans hat')
      cases hf.symm.trans hc'
  | next hat hc _ ih =>
    cases h₂ with
    | done hat' => simp [hat] at hat'
    | stuck hat' hf' =>
      obtain rfl := Option.some.inj (hat.symm.trans hat')
      cases hc.symm.trans hf'
    | next hat' hc' h' =>
      obtain rfl := Option.some.inj (hat.symm.trans hat')
      obtain ⟨rfl, rfl⟩ := hc.unique hc'
      obtain ⟨rfl, rfl⟩ := ih h'
      exact ⟨rfl, rfl⟩

/-- Rounds that are counted do the same as the loop, if the count covers the different numbers in
the pool: in a sound ledger there is nothing behind that many objects. -/
theorem drains_inlineContracts (hc : x.catalogue.Within pool) {fuel index : Nat} {l : Ledger}
    (hl : l.Sound x.catalogue pool) (hfuel : pool.dedup.length < fuel + index) :
    ∃ r l', Drains x index l r l' ∧ (inlineContracts x fuel index).run.run l = (r, l')
      ∧ l'.Sound x.catalogue pool := by
  induction fuel generalizing index l with
  | zero =>
    -- the count is used up, but the index is behind the last object by then
    have hlength := sound_length_le hl
    have hnone : l.inlined[index]? = none := List.getElem?_eq_none (by omega)
    exact ⟨.ok [], l, .done hnone, rfl, hl⟩
  | succ fuel ih =>
    cases hat : l.inlined[index]? with
    | none => exact ⟨.ok [], l, .done hat, inlineContracts_of_none hat, hl⟩
    | some e =>
      have hwithin := (hl.objects e (List.mem_of_getElem? hat)).2
      rw [inlineContracts_of_some hat]
      rcases returns_or_fails (contract x e.1 e.2) l with ⟨c, l₁, hreturns⟩ | ⟨f, l₁, hfails⟩
      · have hl₁ := (keeps_contract hc e.1 hwithin l c l₁ hreturns).2 hl
        have hrest : pool.dedup.length < fuel + (index + 1) := by omega
        obtain ⟨r, l', hdrains, hrun, hl'⟩ := ih hl₁ hrest
        refine ⟨r.map (c :: ·), l', .next hat hreturns hdrains, ?_, hl'⟩
        rw [hreturns.run_bind]
        exact run_bind_pure hrun
      · -- a type that cannot be written may have asked for others before
        have hsteps := (asks_contract hc e.1 hwithin).steps l
        unfold Fails at hfails
        rw [hfails] at hsteps
        refine ⟨.error f, l₁, .stuck hat hfails, run_bind_of_error hfails, hsteps.sound ?_ hl⟩
        rintro owner w ⟨v, ⟨-, hv⟩, henters⟩
        exact henters.within hc hv

/-! ## What can be reached -/

/-- The numbers of the objects that can be reached from the named schemas, and from the schemas of
some operations, each of them once. -/
def Context.reached (x : Context) (ops : List Operation) : List Nat :=
  (Value.numbersOfItems (x.catalogue.schemas.map (·.2))
    ++ Value.numbersOfItems ((ops.flatMap ownedSchemas).map (·.2))).dedup

theorem within_reached_schemas (x : Context) (ops : List Operation) :
    x.catalogue.Within (x.reached ops) := by
  intro e he n hn
  rw [Context.reached, List.mem_dedup, List.mem_append]
  exact .inl (Value.mem_numbersOfItems.2 ⟨e.2, List.mem_map_of_mem he, hn⟩)

theorem within_reached_owned (x : Context) (ops : List Operation) :
    ∀ e ∈ ops.flatMap ownedSchemas, e.2.Within (x.reached ops) := by
  intro e he n hn
  rw [Context.reached, List.mem_dedup, List.mem_append]
  exact .inr (Value.mem_numbersOfItems.2 ⟨e.2, List.mem_map_of_mem he, hn⟩)

/-- The rounds that are counted cover what can be reached from operations of the document. -/
theorem reached_length_le {s : Settings} {d : Document} {ops : List Operation}
    (h : (Context.of s d).operations = .ok ops) :
    ((Context.of s d).reached ops).length ≤ (Context.of s d).objects := by
  rw [← pool_length]
  refine (List.subperm_of_subset (List.nodup_dedup _) fun n hn => ?_).length_le
  rw [List.mem_dedup, List.mem_append] at hn
  rcases hn with hn | hn
  · exact List.mem_append_left _ hn
  · obtain ⟨v, hv, hn⟩ := Value.mem_numbersOfItems.1 hn
    obtain ⟨e, he, rfl⟩ := List.mem_map.1 hv
    exact within_flatMap_ownedSchemas h e he n hn

/-! ## A whole run -/

/-- The list of types without a name is worked off, however the references between schemas lead
back to one another: from the ledger that the named schemas and the operations have left, the loop
comes to its one outcome, which is the types of all the objects in the ledger, in its order, or
the fault of one of them, and that is what the run gives.  The objects in the ledger are then
different ones of those that can be reached from the schemas of the document and the included
operations, so there are no more of them. -/
theorem queue_drains (s : Settings) (d : Document) {named : List Contract} {ops : List Operation}
    {l₁ l₂ : Ledger} {u : Unit} (hnamed : Returns (namedContracts (.of s d) d.schemas) {} named l₁)
    (hops : (Context.of s d).operations = .ok ops)
    (hregister : Returns (register (.of s d) (ops.flatMap ownedSchemas)) l₁ u l₂) :
    ∃ r l, Drains (.of s d) 0 l₂ r l
      ∧ (∀ r' l', Drains (.of s d) 0 l₂ r' l' → r' = r ∧ l' = l)
      ∧ (contracts (.of s d)).run.run {} = (r.map (named ++ ·), l)
      ∧ (∀ cs, r = .ok cs → cs.map Contract.name = l.inlined.map (·.1))
      ∧ (l.inlined.map fun e => objectNumber? e.2).Nodup
      ∧ (∀ e ∈ l.inlined, ∃ n ∈ (Context.of s d).reached ops, objectNumber? e.2 = some n)
      ∧ l.inlined.length ≤ ((Context.of s d).reached ops).length := by
  have hwithin := within_reached_schemas (Context.of s d) ops
  have hsound := sound_of_within hwithin (within_reached_owned _ ops) hnamed hregister
  have hfuel : ((Context.of s d).reached ops).dedup.length
      < (Context.of s d).objects + 1 + 0 := by
    have hlength := reached_length_le hops
    rw [Context.reached, List.dedup_idem, ← Context.reached]
    omega
  obtain ⟨r, l, hdrains, hrun, hl⟩ := drains_inlineContracts hwithin hsound hfuel
  refine ⟨r, l, hdrains, fun r' l' h => h.unique hdrains, ?_, ?_, hl.numbers, ?_, ?_⟩
  · have hdocument : (Context.of s d).document.schemas = d.schemas := rfl
    unfold contracts
    rw [hdocument, hnamed.run_bind, Returns.run_bind (returns_liftFault_iff.2 ⟨hops, rfl⟩),
      hregister.run_bind]
    exact run_bind_pure hrun
  · -- the declared types have been read off a run with the pool of the whole document
    rintro cs rfl
    have hpool : (Context.of s d).pool.length < (Context.of s d).objects + 1 + 0 := by
      rw [pool_length]
      omega
    have hmade := inlineContracts_madeFrom (sound_register hnamed hops hregister) hpool hrun
    rw [map_name_eq hmade.1, List.drop_zero]
  · intro e he
    obtain ⟨hobject, hreached⟩ := hl.objects e he
    cases hv : e.2 with
    | object n ms =>
      rw [hv] at hreached
      exact ⟨n, (Value.within_object_iff.1 hreached).1, rfl⟩
    | _ =>
      rw [hv] at hobject
      cases hobject
  · have hlength := sound_length_le hl
    rwa [Context.reached, List.dedup_idem, ← Context.reached] at hlength

/-- A reference to a schema with a name. -/
def refersTo (number : Nat) (name : String) : Value :=
  .object number [(.text "$ref", .text ("#/components/schemas/" ++ name))]

/-- A document whose schemas refer to one another in circles.  Two classes take over the same
property from their second part, and its type has a type of its own in it. -/
def knottedDocument : Document where
  schemas := [
    ("Node", .object 1 [(.text "properties", .object 2 [
      (.text "next", refersTo 3 "Node"), (.text "left", refersTo 4 "Left")])]),
    ("Left", .object 5 [(.text "allOf", .list [refersTo 6 "Node", refersTo 7 "Shared"])]),
    ("Right", .object 8 [(.text "allOf", .list [refersTo 9 "Node", refersTo 10 "Shared"])]),
    ("Shared", .object 11 [(.text "properties", .object 12 [
      (.text "place", .object 13 [(.text "properties", .object 14 [
        (.text "owner", refersTo 15 "Right"),
        (.text "size", .object 16 [(.text "properties", .object 17 [
          (.text "width", .object 18 [(.text "type", .text "number")])])])])])])])]
  operations := [{
    verb := .post
    path := "/nodes"
    requestBody := some (.object 19 [(.text "properties", .object 20 [
      (.text "root", refersTo 21 "Node")])]) }]

set_option maxRecDepth 10000 in
theorem knottedDocument_contracts :
    let run := (contracts (.of { openApiPath := "nodes.json" } knottedDocument)).run.run {}
    (run.1.isOk, run.2.inlined.map (·.1)) = (true, ["LeftPlace", "PostNodesBody", "LeftPlaceSize"])
      := by
  decide +kernel

theorem queue_drains_knotted :
    let x := Context.of { openApiPath := "nodes.json" } knottedDocument
    ∃ named ops l₁ l₂ u cs l, Returns (namedContracts x knottedDocument.schemas) {} named l₁
      ∧ x.operations = .ok ops
      ∧ Returns (register x (ops.flatMap ownedSchemas)) l₁ u l₂
      ∧ Drains x 0 l₂ (.ok cs) l
      ∧ cs.map Contract.name = ["LeftPlace", "PostNodesBody", "LeftPlaceSize"] := by
  intro x
  obtain ⟨hok, hnames⟩ := Prod.mk.inj knottedDocument_contracts
  obtain ⟨cs, l, h⟩ := exists_returns hok
  obtain ⟨named, ops, l₁, l₂, u, hnamed, hops, hregister, -⟩ := contracts_phases h
  obtain ⟨r, l', hdrains, -, hrun, hdeclared, -⟩ := queue_drains _ _ hnamed hops hregister
  cases r with
  | error f => cases h.symm.trans hrun
  | ok inlined =>
    rw [hrun] at hnames
    exact ⟨named, ops, l₁, l₂, u, inlined, l', hnamed, hops, hregister, hdrains,
      (hdeclared inlined rfl).trans hnames⟩

end OpenApiClient.Generate
