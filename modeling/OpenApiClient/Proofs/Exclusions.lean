/-
Operations that are left out.

Filters narrow the operations of a document down before anything is made of them: an operation
that is left out gives no method, no type and no name.  So a run with filters does the same as a
run without any on a document that has the chosen operations alone.

What could tell the two runs apart is how long they work at the types that are found on the way.
They are given as many steps as the document has objects, and the smaller document has fewer of
them.  But what is worked off are objects that the chosen operations and the named schemas hold,
and there are steps enough for these on both sides (`inlineContracts_steps`).
-/
import OpenApiClient.Proofs.Declarations
import OpenApiClient.Proofs.Readings
import Mathlib.Data.List.Flatten

set_option autoImplicit false

namespace OpenApiClient

/-! ## The operations that are wanted -/

/-- An operation that code is wanted for: its method has an attribute, it carries a wanted tag if
any tag is wanted, and one of the wanted patterns occurs in its path if there are any. -/
def Operation.Wanted (s : Settings) (patterns : List Pattern) (o : Operation) : Prop :=
  o.verb.attribute?.isSome
    ∧ (s.includeTags ≠ [] → ∃ tag ∈ o.tags, tag ∈ s.includeTags)
    ∧ (s.includePathMatches ≠ [] → ∃ p ∈ patterns, p.occursIn o.path)

instance (s : Settings) (patterns : List Pattern) (o : Operation) :
    Decidable (o.Wanted s patterns) :=
  inferInstanceAs (Decidable (_ ∧ _ ∧ _))

/-- The settings without filters. -/
def Settings.unfiltered (s : Settings) : Settings :=
  { s with includeTags := [], includePathMatches := [] }

/-- The document with the operations that are wanted, in their order. -/
def Document.narrowed (d : Document) (s : Settings) (patterns : List Pattern) : Document :=
  { d with operations := d.operations.filter fun o => o.Wanted s patterns }

theorem Operation.hasWantedTag_iff {wanted : List String} {o : Operation} :
    o.hasWantedTag wanted ↔ (wanted ≠ [] → ∃ tag ∈ o.tags, tag ∈ wanted) := by
  unfold Operation.hasWantedTag
  cases wanted with
  | nil => simp
  | cons tag wanted => simp

theorem Operation.hasWantedPath_iff {patterns : List Pattern} {o : Operation} :
    o.hasWantedPath patterns ↔ (patterns ≠ [] → ∃ p ∈ patterns, p.occursIn o.path) := by
  unfold Operation.hasWantedPath
  cases patterns with
  | nil => simp
  | cons p patterns => simp

/-- There are patterns if texts of patterns are given. -/
theorem Pattern.readAll_eq_nil_iff {texts : List String} {patterns : List Pattern}
    (h : Pattern.readAll texts = .ok patterns) : patterns = [] ↔ texts = [] := by
  unfold Pattern.readAll at h
  cases texts with
  | nil =>
    obtain rfl := pure_eq_ok_iff.1 h
    simp
  | cons text texts =>
    rw [List.mapM_cons] at h
    obtain ⟨p, -, h⟩ := bind_eq_ok_iff.1 h
    obtain ⟨ps, -, h⟩ := bind_eq_ok_iff.1 h
    obtain rfl := pure_eq_ok_iff.1 h
    simp

variable {s : Settings} {d : Document} {patterns : List Pattern}

/-- The filters choose the wanted operations. -/
theorem Document.selected_eq (h : Pattern.readAll s.includePathMatches = .ok patterns) :
    d.selected s = .ok (d.narrowed s patterns).operations := by
  unfold Document.selected Document.narrowed
  rw [h]
  have hgiven : patterns ≠ [] ↔ s.includePathMatches ≠ [] :=
    not_congr (Pattern.readAll_eq_nil_iff h)
  refine congrArg Except.ok (List.filter_congr fun o _ => ?_)
  rw [Bool.eq_iff_iff, decide_eq_true_iff, Bool.and_eq_true, Bool.and_eq_true, and_assoc,
    Operation.hasWantedTag_iff, Operation.hasWantedPath_iff, Operation.Wanted, hgiven]

/-- Without filters all operations of the smaller document are chosen. -/
theorem Document.selected_narrowed :
    (d.narrowed s patterns).selected s.unfiltered = .ok (d.narrowed s patterns).operations := by
  have hnone : Pattern.readAll s.unfiltered.includePathMatches = .ok [] := rfl
  rw [Document.selected_eq hnone]
  refine congrArg Except.ok (List.filter_eq_self.2 fun o ho => ?_)
  have hwanted := (List.mem_filter.1 ho).2
  rw [decide_eq_true_iff] at hwanted ⊢
  exact ⟨hwanted.1, fun h => absurd rfl h, fun h => absurd rfl h⟩

/-- Fewer values hold fewer objects. -/
theorem Value.countObjectsInItems_le {vs ws : List Value} (h : vs.Sublist ws) :
    countObjectsInItems vs ≤ countObjectsInItems ws := by
  induction h with
  | slnil => exact Nat.le_refl _
  | cons v _ ih =>
    rw [countObjectsInItems]
    omega
  | cons_cons v _ ih =>
    rw [countObjectsInItems, countObjectsInItems]
    omega

namespace Generate

open Schema

/-- The smaller document has no more objects. -/
theorem objects_narrowed_le :
    (Context.of s.unfiltered (d.narrowed s patterns)).objects ≤ (Context.of s d).objects := by
  have hoperations : (d.narrowed s patterns).operations.Sublist d.operations :=
    List.filter_sublist
  exact Nat.add_le_add_left
    (Value.countObjectsInItems_le ((hoperations.flatMap ownedSchemas).map _)) _

theorem writesLike_narrowed :
    (Context.of s d).WritesLike (.of s.unfiltered (d.narrowed s patterns)) :=
  ⟨.refl _, rfl, rfl, rfl, rfl, rfl, rfl⟩

/-! ## Steps -/

/-- Behind the last object nothing is left to do. -/
theorem inlineContracts_of_none {x : Context} {fuel index : Nat} {l : Ledger}
    (h : l.inlined[index]? = none) :
    (inlineContracts x fuel index).run.run l = (.ok [], l) := by
  cases fuel with
  | zero => rfl
  | succ fuel =>
    rw [inlineContracts, run_get_bind]
    simp only [h]
    rfl

/-- An object is written, and then those behind it. -/
theorem inlineContracts_of_some {x : Context} {fuel index : Nat} {l : Ledger}
    {e : String × Value} (h : l.inlined[index]? = some e) :
    (inlineContracts x (fuel + 1) index).run.run l
      = (do let c ← contract x e.1 e.2
            return c :: (← inlineContracts x fuel (index + 1)) : Build _).run.run l := by
  rw [inlineContracts, run_get_bind]
  simp only [h]

/-- What is worked off does not depend on the number of steps, if there are enough of them. -/
theorem inlineContracts_steps {x : Context} {fuel fuel' index : Nat} {l : Ledger}
    (hl : l.Sound x.catalogue x.pool) (hfuel : x.pool.length < fuel + index)
    (hfuel' : x.pool.length < fuel' + index) :
    (inlineContracts x fuel index).run.run l = (inlineContracts x fuel' index).run.run l := by
  have hlength := inlined_length_le hl
  -- both countdowns run along one another; one that is at its end is behind the last object
  induction fuel generalizing fuel' index l with
  | zero =>
    have hnone : l.inlined[index]? = none := List.getElem?_eq_none (by omega)
    cases fuel' with
    | zero => rfl
    | succ fuel' => rw [inlineContracts_of_none hnone, inlineContracts_of_none hnone]
  | succ fuel ih =>
    cases hat : l.inlined[index]? with
    | none => rw [inlineContracts_of_none hat, inlineContracts_of_none hat]
    | some e =>
      cases fuel' with
      | zero =>
        have := (List.getElem?_eq_some_iff.1 hat).1
        omega
      | succ fuel' =>
        rw [inlineContracts_of_some hat, inlineContracts_of_some hat]
        refine run_bind_congr fun c l₁ hc => ?_
        have hmem : e ∈ l.inlined := List.mem_of_getElem? hat
        have hl₁ := (keeps_contract x.within_schemas e.1 (hl.objects e hmem).2 l c l₁ hc).2 hl
        refine run_bind_congr_left ?_
        exact ih hl₁ (by omega) (by omega) (inlined_length_le hl₁)

/-! ## A whole run -/

/-- Both runs generate code for the same operations. -/
theorem operations_narrowed (h : Pattern.readAll s.includePathMatches = .ok patterns) :
    (Context.of s d).operations
      = (Context.of s.unfiltered (d.narrowed s patterns)).operations := by
  have hselected : d.selected s = (d.narrowed s patterns).selected s.unfiltered :=
    (Document.selected_eq h).trans Document.selected_narrowed.symm
  exact congrArg (Except.mapError Fault.pattern) hselected

/-- Both runs write the same types, and leave the same ledger. -/
theorem contracts_narrowed (h : Pattern.readAll s.includePathMatches = .ok patterns) :
    (contracts (.of s d)).run.run {}
      = (contracts (.of s.unfiltered (d.narrowed s patterns))).run.run {} := by
  have hwrites : (Context.of s d).WritesLike (.of s.unfiltered (d.narrowed s patterns)) :=
    writesLike_narrowed
  have hdocument : (Context.of s d).document.schemas
      = (Context.of s.unfiltered (d.narrowed s patterns)).document.schemas := rfl
  unfold contracts
  rw [hwrites.namedContracts_eq, hdocument, operations_narrowed h]
  refine run_bind_congr fun named l₁ hnamed => ?_
  refine run_bind_congr fun ops l₁' hops => ?_
  obtain ⟨hchosen, rfl⟩ := returns_liftFault_iff.1 hops
  rw [hwrites.register_eq]
  refine run_bind_congr fun u l₂ hregister => ?_
  -- what is left to do is counted in the smaller document, and both countdowns cover it
  have hsound := sound_register hnamed hchosen hregister
  have hfew : (Context.of s.unfiltered (d.narrowed s patterns)).objects
      ≤ (Context.of s d).objects := objects_narrowed_le
  have hlength := pool_length s.unfiltered (d.narrowed s patterns)
  refine run_bind_congr_left ?_
  rw [hwrites.inlineContracts_eq]
  exact inlineContracts_steps hsound (by omega) (by omega)

/-- Operations that are left out leave no trace: a run with filters gives the same file, or the
same fault, as the run without filters on the document that has only the operations whose method
has an attribute, that carry a wanted tag if any tag is wanted, and in whose path one of the
wanted patterns occurs if there are any. -/
theorem client_narrowed (s : Settings) (d : Document) {patterns : List Pattern}
    (h : Pattern.readAll s.includePathMatches = .ok patterns) :
    client s d
      = client { s with includeTags := [], includePathMatches := [] }
        { d with operations := d.operations.filter fun o =>
            o.verb.attribute?.isSome
              ∧ (s.includeTags ≠ [] → ∃ tag ∈ o.tags, tag ∈ s.includeTags)
              ∧ (s.includePathMatches ≠ [] → ∃ p ∈ patterns, p.occursIn o.path) } := by
  -- both passes see the operations only through the filters
  have hinterface : interfaceDecl (.of s d)
      = interfaceDecl (.of s.unfiltered (d.narrowed s patterns)) :=
    writesLike_narrowed.interfaceDecl_eq (operations_narrowed h) rfl rfl
  have hparts : (parts (.of s d)).run.run {}
      = (parts (.of s.unfiltered (d.narrowed s patterns))).run.run {} := by
    unfold parts
    rw [hinterface]
    exact run_bind_congr_left (contracts_narrowed h)
  change client s d = client s.unfiltered (d.narrowed s patterns)
  unfold client
  dsimp only
  rw [hparts]
  rfl

/-- The settings of a run for the operations with the tag `pets` below `/pets`. -/
def tagSettings : Settings :=
  { openApiPath := "pets.json", includeTags := ["pets"], includePathMatches := ["^/pets"] }

/-- An operation with a response of a type without a name. -/
def tagOperation (verb : Verb) (path : String) (tags : List String) (number : Nat) : Operation where
  verb := verb
  path := path
  operationId := some "pets"
  tags := tags
  response := some (.object number [(.text "properties", .object (number + 1) [])])

/-- A document in which operations stand that want the same names.  The first three are left out:
one for its method, one for its tags, and one for its path. -/
def tagDocument : Document where
  operations := [tagOperation .trace "/pets" ["pets"] 1, tagOperation .put "/pets" ["shop"] 3,
    tagOperation .get "/shop/pets" ["pets"] 5, tagOperation .get "/pets" ["pets", "shop"] 7]
  schemas := []
  distinct := List.nodup_nil

set_option maxRecDepth 10000 in
theorem client_narrowed_tags :
    client tagSettings tagDocument
        = client { openApiPath := "pets.json" }
          { operations := [tagOperation .get "/pets" ["pets", "shop"] 7] }
      ∧ (client tagSettings tagDocument).isOk := by
  have hread : Pattern.readAll tagSettings.includePathMatches
      = .ok ((Pattern.readAll ["^/pets"]).toOption.getD []) := by
    rfl
  refine ⟨?_, by decide +kernel⟩
  have h := client_narrowed tagSettings tagDocument hread
  rw [h]
  rfl

end Generate

end OpenApiClient
