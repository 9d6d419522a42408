/-
The names of types that are found at properties.

A schema without a name gets its type named after the property where it is found first: the name of
the class, and the words of the key behind it.  Both have been spelled as types when they are put
together, and together they are spelled once more.  Nothing sees to it that they keep their
spelling then, and a class with a short name of capitals may lose it: `API` with `URL` behind it is
one long word of capitals.  So the name of the type is the two together, with a number perhaps,
exactly if these spell themselves (`property_type_name`).

A name is made at one moment of the run, when the type of a property is asked for (`AsksProperty`).
The classes are written one after another, those of the named schemas first (`Writes.named`), and
then, round for round, those that have been found on the way (`Writes.found`).  The thing to check
is that these moments are moments of the run at hand: what stands in the ledger behind one of them
stands there at the end (`AsksProperty.grows`), since a run from a ledger has one outcome.
-/
import OpenApiClient.Proofs.Draining
import OpenApiClient.Proofs.Inheritance
import OpenApiClient.Proofs.KeptSpellings

set_option autoImplicit false

namespace OpenApiClient

namespace Schema

open CSharp (TypeRef TypeUse)

variable {c : Catalogue} {owner : String}

/-! ## What is entered for one schema -/

/-- Nothing is entered on behalf of a schema, or one object that is met on the way down from it,
under the name that is made from the owner at this moment. -/
def EntersOne (c : Catalogue) (v : Value) (owner : String) (l l' : Ledger) : Prop :=
  l'.inlined = l.inlined
    ∨ ∃ w, Met c v w ∧ form c w = .ok .own ∧ l'.inlined = (l.enter c owner w).inlined

theorem EntersOne.next {v w : Value} {f : Form} {l l' : Ledger} (hf : form c v = .ok f)
    (hw : w ∈ f.next) (h : EntersOne c w owner l l') : EntersOne c v owner l l' :=
  h.imp_right fun ⟨u, hmet, hown, hl'⟩ => ⟨u, .next hf hw hmet, hown, hl'⟩

theorem entersOne_typeWith {fuel : Nat} {v : Value} {t : TypeRef} {l l' : Ledger}
    (h : Returns (typeWith c owner fuel v) l t l') : EntersOne c v owner l l' := by
  induction fuel generalizing v t l l' with
  | zero => exact (returns_throw_iff.1 h).elim
  | succ fuel ih =>
    obtain ⟨f, hf, hstep⟩ := returns_typeWith_succ_iff.1 h
    cases hstep with
    | builtin =>
      left
      split
      · exact l.use_inlined _
      · rfl
    | named => exact .inl rfl
    | sameAs hw => exact (ih hw).next hf List.mem_cons_self
    -- only an object without a name of its own can be entered
    | own hname =>
      rcases returns_inlineName_iff.1 hname with ⟨-, rfl⟩ | ⟨-, rfl, rfl⟩
      · exact .inl rfl
      · exact .inr ⟨v, .here v, hf, rfl⟩
    | @collection item t l₂ hitem =>
      unfold EntersOne
      rw [l₂.use_inlined]
      exact (ih hitem).next hf List.mem_cons_self
    | dictionary hvalue =>
      have hone := (ih hvalue).next hf List.mem_cons_self
      unfold EntersOne Ledger.enter at hone ⊢
      rwa [l.use_inlined] at hone

theorem entersOne_resolve {v : Value} {nullable : Bool} {t : TypeUse} {l l' : Ledger}
    (h : Returns (resolve c v owner nullable) l t l') : EntersOne c v owner l l' := by
  obtain ⟨l₁, htype, -, rfl⟩ := returns_resolve_iff.1 h
  have hone : EntersOne c v owner l l₁ := entersOne_typeWith htype
  exact hone

/-- What asks for types only loses nothing. -/
theorem Asks.grows {P : String → Value → Prop} {α : Type} {m : Build α} {a : α} {l l' : Ledger}
    (hm : Asks c P m) (h : Returns m l a l') : l.Grows l' :=
  (hm.steps.returns h).grows

/-- What is named after something that begins as a type does begins so too. -/
theorem goesOn_hasStart : GoesOn fun name => Naming.HasStart name.toList := by
  intro name rest taken h
  have howner : Naming.HasStart (name ++ rest).toList := by
    rw [String.toList_append]
    exact h.append _
  have hne : name ++ rest ≠ "" := by
    intro hempty
    rw [hempty] at howner
    obtain ⟨p, hp, hs⟩ := howner
    rw [List.prefix_nil.1 hs] at hp
    cases hp
  refine Naming.HasStart.fresh ?_ taken
  rw [wantedName, if_neg hne, Naming.pascalCase, String.toList_ofList]
  obtain ⟨p, hp, hs⟩ := howner
  exact ⟨p, hp, hp.pascal hs⟩

end Schema

namespace Generate

open CSharp
open Schema

variable {x : Context}

/-! ## The classes of a run, one after another -/

/-- Rounds of working off the ledger `l`: as many types as the number says have been written, and
the ledger is `k` now. -/
inductive Rounds (x : Context) (l : Ledger) : Nat → Ledger → Prop where
  | start : Rounds x l 0 l
  | next {index : Nat} {k k' : Ledger} {e : String × Value} {c : Contract}
    (h : Rounds x l index k) (hat : k.inlined[index]? = some e)
    (hc : Returns (contract x e.1 e.2) k c k') : Rounds x l (index + 1) k'

/-- A type is about to be written: its name, its schema, and the ledger at this moment. -/
inductive Writes (x : Context) : String → Value → Ledger → Prop where
  | named {before after : List (String × Value)} {name : String} {v : Value}
    {cs : List Contract} {k : Ledger} (hschemas : x.document.schemas = before ++ (name, v) :: after)
    (hdeclared : v.isDeclared) (hbefore : Returns (namedContracts x before) {} cs k) :
    Writes x (x.catalogue.typeName name) v k
  | found {named : List Contract} {ops : List Operation} {u : Unit} {l₁ l₂ k : Ledger}
    {index : Nat} {e : String × Value}
    (hnamed : Returns (namedContracts x x.document.schemas) {} named l₁)
    (hops : x.operations = .ok ops)
    (hregister : Returns (register x (ops.flatMap ownedSchemas)) l₁ u l₂)
    (hrounds : Rounds x l₂ index k) (hat : k.inlined[index]? = some e) : Writes x e.1 e.2 k

/-- While a class is written, the type of one of its properties is asked for: the ledger is `k`
before and `k'` afterwards. -/
inductive AsksProperty (x : Context) (typeName : String) (key : Scalar) (schema : Value)
    (k k' : Ledger) : Prop where
  | intro {v : Value} {l l₁ : Ledger} {parts : ClassParts} {before after : Members}
    {ps : List Property} {t : TypeUse} (hwrites : Writes x typeName v l)
    (hclass : v.isEnumSchema = false) (hparts : Returns (classParts x typeName v) l parts l₁)
    (hproperties : parts.properties = before ++ (key, schema) :: after)
    (hbefore : Returns (classProperties x typeName parts.required [typeName] before) l₁ ps k)
    (hresolve : Returns (Schema.resolve x.catalogue schema (typeName ++ keyWords key)
      (!parts.required.any key.same)) k t k')

/-! ### Moments of one run -/

theorem grows_contract {typeName : String} {v : Value} {c : Contract} {l l' : Ledger}
    (h : Returns (contract x typeName v) l c l') : l.Grows l' := by
  obtain ⟨pool, hc, hv⟩ := exists_pool x.catalogue [v]
  exact (asks_contract hc typeName (hv v List.mem_cons_self)).grows h

theorem grows_namedContracts {schemas : List (String × Value)} {cs : List Contract} {l l' : Ledger}
    (h : Returns (namedContracts x schemas) l cs l') : l.Grows l' := by
  obtain ⟨pool, hc, hv⟩ := exists_pool x.catalogue (schemas.map (·.2))
  exact (asks_namedContracts hc fun e he => hv e.2 (List.mem_map_of_mem he)).grows h

theorem grows_classProperties {typeName : String} {required : List Scalar} {taken : List String}
    {ms : Members} {ps : List Property} {l l' : Ledger}
    (h : Returns (classProperties x typeName required taken ms) l ps l') : l.Grows l' := by
  obtain ⟨pool, -, hv⟩ := exists_pool x.catalogue (ms.map (·.2))
  exact (asks_classProperties typeName required taken
    fun m hm => hv m.2 (List.mem_map_of_mem hm)).grows h

theorem returns_namedContracts_append {before after : List (String × Value)} {cs : List Contract}
    {l l' : Ledger} (h : Returns (namedContracts x (before ++ after)) l cs l') :
    ∃ cs₁ cs₂ l₁, Returns (namedContracts x before) l cs₁ l₁
      ∧ Returns (namedContracts x after) l₁ cs₂ l' ∧ cs = cs₁ ++ cs₂ := by
  induction before generalizing cs l with
  | nil => exact ⟨[], cs, l, returns_pure_iff.2 ⟨rfl, rfl⟩, h, rfl⟩
  | cons e before ih =>
    rw [List.cons_append, namedContracts] at h
    rw [namedContracts]
    split at h
    · rename_i hdeclared
      obtain ⟨c, l₁, hc, h⟩ := returns_bind_iff.1 h
      obtain ⟨rest, l₂, hrest, h⟩ := returns_bind_iff.1 h
      obtain ⟨rfl, rfl⟩ := returns_pure_iff.1 h
      obtain ⟨cs₁, cs₂, l₃, hbefore, hafter, rfl⟩ := ih hrest
      refine ⟨c :: cs₁, cs₂, l₃, ?_, hafter, rfl⟩
      rw [if_pos hdeclared]
      exact returns_bind_iff.2 ⟨c, l₁, hc, returns_bind_iff.2
        ⟨cs₁, l₃, hbefore, returns_pure_iff.2 ⟨rfl, rfl⟩⟩⟩
    · rename_i hdeclared
      rw [if_neg hdeclared]
      exact ih h

/-- The properties before one of a class are written, then this one, and nothing is lost behind
it. -/
theorem classProperties_at {typeName : String} {required : List Scalar} {taken : List String}
    {before after : Members} {key : Scalar} {v : Value} {ps : List Property} {l l' : Ledger}
    (h : Returns (classProperties x typeName required taken (before ++ (key, v) :: after)) l ps
      l') :
    ∃ ps₁ k taken' p k', Returns (classProperties x typeName required taken before) l ps₁ k
      ∧ Returns (classProperty x typeName required taken' key v) k p k' ∧ k'.Grows l' := by
  induction before generalizing taken ps l with
  | nil =>
    rw [List.nil_append, classProperties] at h
    obtain ⟨p, k', hp, h⟩ := returns_bind_iff.1 h
    obtain ⟨rest, l₂, hrest, h⟩ := returns_bind_iff.1 h
    obtain ⟨-, rfl⟩ := returns_pure_iff.1 h
    exact ⟨[], l, taken, p, k', returns_pure_iff.2 ⟨rfl, rfl⟩, hp, grows_classProperties hrest⟩
  | cons m before ih =>
    rw [List.cons_append, classProperties] at h
    obtain ⟨q, l₁, hq, h⟩ := returns_bind_iff.1 h
    obtain ⟨rest, l₂, hrest, h⟩ := returns_bind_iff.1 h
    obtain ⟨-, rfl⟩ := returns_pure_iff.1 h
    obtain ⟨ps₁, k, taken', p, k', hbefore, hp, hgrows⟩ := ih hrest
    refine ⟨q :: ps₁, k, taken', p, k', ?_, hp, hgrows⟩
    rw [classProperties]
    exact returns_bind_iff.2 ⟨q, l₁, hq, returns_bind_iff.2
      ⟨ps₁, k, hbefore, returns_pure_iff.2 ⟨rfl, rfl⟩⟩⟩

/-- A property asks for its type, and nothing is lost behind it. -/
theorem classProperty_asks {typeName : String} {required : List Scalar} {taken : List String}
    {key : Scalar} {v : Value} {p : Property} {l l' : Ledger}
    (h : Returns (classProperty x typeName required taken key v) l p l') :
    ∃ t l₁, Returns (Schema.resolve x.catalogue v (typeName ++ keyWords key)
      (!required.any key.same)) l t l₁ ∧ l₁.Grows l' := by
  unfold classProperty at h
  obtain ⟨wanted, hwanted, h⟩ := returns_liftShape_bind_iff.1 h
  rw [eq_keyWords hwanted] at h
  obtain ⟨t, l₁, ht, h⟩ := returns_bind_iff.1 h
  obtain ⟨mark, l₂, hmark, h⟩ := returns_bind_iff.1 h
  obtain ⟨doc, l₃, hdoc, h⟩ := returns_bind_iff.1 h
  obtain ⟨-, rfl⟩ := returns_pure_iff.1 h
  have hmarked := (asks_qualifiedAttribute (x := x) (P := fun _ _ => True) _ _).grows hmark
  exact ⟨t, l₁, ht, hmarked.trans ((asks_propertyDoc (P := fun _ _ => True) v).grows hdoc)⟩

/-- The properties of a class are written behind its parts, and nothing is lost behind them. -/
theorem contract_class {typeName : String} {v : Value} {c : Contract} {l l' : Ledger}
    (hclass : v.isEnumSchema = false) (h : Returns (contract x typeName v) l c l') :
    ∃ parts l₁ ps l₂, Returns (classParts x typeName v) l parts l₁
      ∧ Returns (classProperties x typeName parts.required [typeName] parts.properties) l₁ ps l₂
      ∧ l₂.Grows l' := by
  rw [contract, if_neg (by rw [hclass]; exact Bool.false_ne_true)] at h
  obtain ⟨decl, k, hdecl, h⟩ := returns_bind_iff.1 h
  obtain ⟨-, rfl⟩ := returns_pure_iff.1 h
  unfold classDecl at hdecl
  obtain ⟨parts, l₁, hparts, hdecl⟩ := returns_bind_iff.1 hdecl
  obtain ⟨ps, l₂, hps, hdecl⟩ := returns_bind_iff.1 hdecl
  obtain ⟨generated, l₃, hgenerated, hdecl⟩ := returns_bind_iff.1 hdecl
  obtain ⟨doc, l₄, hdoc, hdecl⟩ := returns_bind_iff.1 hdecl
  obtain ⟨-, rfl⟩ := returns_pure_iff.1 hdecl
  have hmarked := (asks_qualifiedAttribute (x := x) (P := fun _ _ => True) _ _).grows hgenerated
  exact ⟨parts, l₁, ps, l₂, hparts, hps,
    hmarked.trans ((asks_schemaDoc (P := fun _ _ => True) v).grows hdoc)⟩

/-- A loop that comes to an end with a type for every object goes on as long as there are some. -/
theorem Drains.of_some {index : Nat} {l l' : Ledger} {cs : List Contract} {e : String × Value}
    (h : Drains x index l (.ok cs) l') (hat : l.inlined[index]? = some e) :
    ∃ c cs' l₁, Returns (contract x e.1 e.2) l c l₁ ∧ Drains x (index + 1) l₁ (.ok cs') l'
      ∧ cs = c :: cs' := by
  generalize hr : Except.ok cs = r at h
  cases h with
  | done hat' => simp [hat] at hat'
  | stuck _ _ => cases hr
  | @next _ _ l₁ _ e' c r' hat' hc hrest =>
    obtain rfl := Option.some.inj (hat.symm.trans hat')
    cases r' with
    | error f => cases hr
    | ok cs' =>
      cases hr
      exact ⟨c, cs', l₁, hc, hrest, rfl⟩

theorem Drains.grows {index : Nat} {l l' : Ledger} {cs : List Contract}
    (h : Drains x index l (.ok cs) l') : l.Grows l' := by
  generalize hr : Except.ok cs = r at h
  induction h generalizing cs with
  | done _ => exact Ledger.Grows.refl _
  | stuck _ _ => cases hr
  | @next _ _ _ _ _ _ r' _ hc _ ih =>
    cases r' with
    | error f => cases hr
    | ok cs' => exact (grows_contract hc).trans (ih rfl)

/-- What stands at the index of a round stands there at the end, and if nothing does, nothing is
entered any more. -/
theorem Drains.at_eq {index : Nat} {l l' : Ledger} {cs : List Contract}
    (h : Drains x index l (.ok cs) l') : l.inlined[index]? = l'.inlined[index]? := by
  cases hat : l.inlined[index]? with
  | none =>
    generalize Except.ok cs = r at h
    cases h with
    | done _ => exact hat.symm
    | stuck hat' _ => cases hat.symm.trans hat'
    | next hat' _ _ => cases hat.symm.trans hat'
  | some e =>
    obtain ⟨rest, hrest⟩ := h.grows.inlined
    rw [← hrest, List.getElem?_append_left (List.getElem?_eq_some_iff.1 hat).1, hat]

/-- The loop goes on from where some rounds of it have led. -/
theorem Rounds.drains {index : Nat} {l k l' : Ledger} {cs : List Contract}
    (h : Rounds x l index k) (hd : Drains x 0 l (.ok cs) l') :
    ∃ cs', Drains x index k (.ok cs') l' ∧ cs' ⊆ cs := by
  induction h with
  | start => exact ⟨cs, hd, List.Subset.refl _⟩
  | next _ hat hc ih =>
    obtain ⟨cs₁, hd₁, hsub⟩ := ih
    obtain ⟨c', cs₂, k₁, hc', hd₂, rfl⟩ := hd₁.of_some hat
    obtain ⟨-, rfl⟩ := hc.unique hc'
    exact ⟨cs₂, hd₂, fun c hmem => hsub (List.mem_cons_of_mem _ hmem)⟩

/-- As long as something stands in the ledger at the end, rounds lead to it. -/
theorem Rounds.reach {l l' : Ledger} {cs : List Contract} (hd : Drains x 0 l (.ok cs) l')
    {index : Nat} {e : String × Value} (he : l'.inlined[index]? = some e) :
    ∃ k, Rounds x l index k ∧ k.inlined[index]? = some e := by
  have hlt := (List.getElem?_eq_some_iff.1 he).1
  -- the round at an index of the ledger at the end is none behind which the loop is done
  have hround : ∀ i ≤ index, ∃ k cs', Rounds x l i k ∧ Drains x i k (.ok cs') l'
      ∧ k.inlined[i]? = l'.inlined[i]? := by
    intro i hi
    induction i with
    | zero => exact ⟨l, cs, .start, hd, hd.at_eq⟩
    | succ i ih =>
      obtain ⟨k, cs', hrounds, hdrains, hat⟩ := ih (by omega)
      rw [List.getElem?_eq_getElem (show i < l'.inlined.length by omega)] at hat
      obtain ⟨c, cs₁, k₁, hc, hrest, -⟩ := hdrains.of_some hat
      exact ⟨k₁, cs₁, hrounds.next hat hc, hrest, hrest.at_eq⟩
  obtain ⟨k, -, hrounds, -, hat⟩ := hround index (Nat.le_refl _)
  exact ⟨k, hrounds, hat.trans he⟩

section Run

variable {s : Settings} {d : Document} {cs : List Contract} {l : Ledger}

/-- A run that returns writes the types that it is about to write, and goes on to its end. -/
theorem Writes.contract {typeName : String} {v : Value} {k : Ledger}
    (h : Returns (contracts (.of s d)) {} cs l) (hwrites : Writes (.of s d) typeName v k) :
    ∃ c k', Returns (Generate.contract (.of s d) typeName v) k c k' ∧ k'.Grows l ∧ c ∈ cs := by
  obtain ⟨named, ops, l₁, l₂, u, hnamed, hops, hregister, hgrows, -, -⟩ := contracts_phases h
  obtain ⟨r, l', hdrains, -, hrun, -⟩ := queue_drains s d hnamed hops hregister
  have hout := h.symm.trans hrun
  cases r with
  | error f => cases hout
  | ok inlined =>
    cases hout
    -- a named schema is written at once, any other one when the ledger comes to it
    cases hwrites with
    | @named before after name _ cs₀ _ hschemas hdeclared hbefore =>
      have hall : d.schemas = before ++ (name, v) :: after := hschemas
      rw [hall] at hnamed
      obtain ⟨cs₁, cs₂, k₁, hbefore', hafter, rfl⟩ := returns_namedContracts_append hnamed
      obtain ⟨rfl, rfl⟩ := hbefore.unique hbefore'
      rw [namedContracts, if_pos hdeclared] at hafter
      obtain ⟨c, k', hc, hafter⟩ := returns_bind_iff.1 hafter
      obtain ⟨cs₃, k₂, hrest, hafter⟩ := returns_bind_iff.1 hafter
      obtain ⟨rfl, rfl⟩ := returns_pure_iff.1 hafter
      have hgrows₂ := (asks_register (P := fun _ _ => True) fun _ _ => trivial).grows hregister
      refine ⟨c, k', hc, (grows_namedContracts hrest).trans (hgrows₂.trans hgrows), ?_⟩
      simp
    | @found named' ops' u' l₁' l₂' _ index e hnamed' hops' hregister' hrounds hat =>
      obtain ⟨rfl, rfl⟩ := hnamed.unique hnamed'
      obtain rfl := Except.ok.inj (hops.symm.trans hops')
      obtain ⟨-, rfl⟩ := hregister.unique hregister'
      obtain ⟨cs₁, hd₁, hsub⟩ := hrounds.drains hdrains
      obtain ⟨c, cs₂, k', hc, hd₂, rfl⟩ := hd₁.of_some hat
      exact ⟨c, k', hc, hd₂.grows, List.mem_append_right _ (hsub List.mem_cons_self)⟩

/-- What stands in the ledger when the type of a property has been given stands there at the
end. -/
theorem AsksProperty.grows {typeName : String} {key : Scalar} {schema : Value} {k k' : Ledger}
    (h : Returns (contracts (.of s d)) {} cs l)
    (hasks : AsksProperty (.of s d) typeName key schema k k') : k'.Grows l := by
  obtain ⟨hwrites, hclass, hparts, hproperties, hbefore, hresolve⟩ := hasks
  obtain ⟨c, k₁, hc, hgrows, -⟩ := hwrites.contract h
  obtain ⟨parts', l₁, ps, l₂, hparts', hps, hrest⟩ := contract_class hclass hc
  obtain ⟨rfl, rfl⟩ := hparts.unique hparts'
  rw [hproperties] at hps
  obtain ⟨ps₁, k₂, taken, p, k₃, hbefore', hp, hafter⟩ := classProperties_at hps
  obtain ⟨-, rfl⟩ := hbefore.unique hbefore'
  obtain ⟨t, k₄, ht, hp⟩ := classProperty_asks hp
  obtain ⟨-, rfl⟩ := hresolve.unique ht
  exact hp.trans (hafter.trans (hrest.trans hgrows))

/-- Every type that is declared in the end is written at some moment. -/
theorem exists_writes (h : Returns (contracts (.of s d)) {} cs l) {e : String × Value}
    (he : e ∈ declaredSchemas (.of s d) d.schemas ++ l.inlined) :
    ∃ k, Writes (.of s d) e.1 e.2 k := by
  obtain ⟨named, ops, l₁, l₂, u, hnamed, hops, hregister, -, -, -⟩ := contracts_phases h
  rcases List.mem_append.1 he with he | he
  · obtain ⟨f, hf, rfl⟩ := List.mem_map.1 he
    obtain ⟨hf, hdeclared⟩ := List.mem_filter.1 hf
    obtain ⟨before, after, hsplit⟩ := List.append_of_mem hf
    rw [hsplit] at hnamed
    obtain ⟨cs₁, cs₂, k, hbefore, -, -⟩ := returns_namedContracts_append hnamed
    exact ⟨k, .named hsplit hdeclared hbefore⟩
  · obtain ⟨r, l', hdrains, -, hrun, -⟩ := queue_drains s d hnamed hops hregister
    have hout := h.symm.trans hrun
    cases r with
    | error f => cases hout
    | ok inlined =>
      cases hout
      obtain ⟨index, hat⟩ := List.mem_iff_getElem?.1 he
      obtain ⟨k, hrounds, hat⟩ := Rounds.reach hdrains hat
      exact ⟨k, .found hnamed hops hregister hrounds hat⟩

/-- For every property of a class that is declared in the end, there is a moment when its type is
asked for. -/
theorem exists_asksProperty (h : Returns (contracts (.of s d)) {} cs l) {e : String × Value}
    (he : e ∈ declaredSchemas (.of s d) d.schemas ++ l.inlined)
    (hclass : e.2.isEnumSchema = false) {m : Scalar × Value}
    (hm : m ∈ mergedProperties (Context.of s d).catalogue e.2) :
    ∃ k k', AsksProperty (.of s d) e.1 m.1 m.2 k k' := by
  obtain ⟨k₀, hwrites⟩ := exists_writes h he
  obtain ⟨c, k₁, hc, -, -⟩ := hwrites.contract h
  obtain ⟨parts, l₁, ps, l₂, hparts, hps, -⟩ := contract_class hclass hc
  rw [← (classParts_spec hparts).1] at hm
  obtain ⟨before, after, hsplit⟩ := List.append_of_mem hm
  rw [hsplit] at hps
  obtain ⟨ps₁, k, taken, p, k₂, hbefore, hp, -⟩ := classProperties_at hps
  obtain ⟨t, k', ht, -⟩ := classProperty_asks hp
  exact ⟨k, k', .intro hwrites hclass hparts hsplit hbefore ht⟩

/-- The names of declared types begin as types do. -/
theorem hasStart_of_mem_contracts (h : Returns (contracts (.of s d)) {} cs l) {c : Contract}
    (hc : c ∈ cs) : Naming.HasStart c.name.toList ∧ Naming.IsSpelled c.name.toList := by
  obtain ⟨-, -, hmade, -, -⟩ := contracts_declare s d h
  obtain ⟨e, he, hmade⟩ := exists_right_of_mem hmade hc
  rw [hmade.name]
  have hnamed : ∀ name, Naming.HasStart ((Context.of s d).catalogue.typeName name).toList := by
    intro name
    obtain ⟨key, taken, hfresh⟩ := exists_fresh_typeName d.schemas name
    exact hfresh ▸ (Naming.hasStart_schemaTypeName key).fresh taken
  rcases List.mem_append.1 he with he | he
  · obtain ⟨f, -, rfl⟩ := List.mem_map.1 he
    exact ⟨hnamed f.1, (isCapital_typeName d.schemas f.1).spelled⟩
  · refine ⟨?_, (capital_contracts h e he).spelled⟩
    exact goesOn_contracts goesOn_hasStart h (fun f _ _ => hnamed f.1)
      (fun _ _ o _ => o.hasStart_name) e he

/-! ## The names -/

/-- When the type of a property is asked for and an object is entered for it, the object is met on
the way down from the schema of the property and has a type of its own, and the run declares this
type under the name it is entered with.  The name is a free one for the name of the class and the
words of the key, spelled once more.  So it is these two together, with a number perhaps, exactly
if they spell themselves: no line stands in them behind the first character, and each of their words
is an acronym or has one capital at most. -/
theorem property_type_name (s : Settings) (d : Document) {cs : List Contract} {l : Ledger}
    (h : Returns (contracts (.of s d)) {} cs l) {typeName : String} {key : Scalar}
    {schema : Value} {k k' : Ledger}
    (hasks : AsksProperty (.of s d) typeName key schema k k') {e : String × Value}
    (he : e ∈ k'.inlined) (hnew : e ∉ k.inlined) :
    typeName ∈ cs.map Contract.name
      ∧ (∃ c ∈ cs, c.name = e.1 ∧ MadeFrom (.of s d) c e)
      ∧ Met (Context.of s d).catalogue schema e.2
      ∧ form (Context.of s d).catalogue e.2 = .ok .own
      ∧ e.1 = Naming.fresh
          ((Context.of s d).catalogue.typeNames.map (·.2) ++ k.inlined.map (·.1))
          (Naming.pascalCase (typeName ++ keyWords key))
      ∧ ((e.1 = typeName ++ keyWords key
            ∨ ∃ n, e.1 = Naming.numbered (typeName ++ keyWords key) n)
          ↔ Naming.SpellsItself (typeName ++ keyWords key).toList) := by
  have hmem : e ∈ l.inlined := (hasks.grows h).inlined.subset he
  obtain ⟨-, -, hmade, -, -⟩ := contracts_declare s d h
  obtain ⟨made, hmade, hfrom⟩ := exists_left_of_mem hmade (List.mem_append_right _ hmem)
  obtain ⟨hwrites, -, -, -, -, hresolve⟩ := hasks
  obtain ⟨c, _, hc, -, hcs⟩ := hwrites.contract h
  have hwritten : MadeFrom (.of s d) c (typeName, _) := ⟨_, _, hc⟩
  have hname : c.name = typeName := hwritten.name
  have hclass : typeName ∈ cs.map Contract.name := List.mem_map.2 ⟨c, hcs, hname⟩
  -- the name of the class makes the two together begin as a type does
  obtain ⟨hstart, hspelled⟩ := hasStart_of_mem_contracts h hcs
  rw [hname] at hstart hspelled
  have hkey : Naming.IsSpelled (keyWords key).toList := by
    unfold keyWords
    split
    · exact Naming.isSpelled_pascalCase _
    · exact Naming.isSpelled_of_all (by decide)
  have howner : Naming.HasStart (typeName ++ keyWords key).toList
      ∧ Naming.IsSpelled (typeName ++ keyWords key).toList := by
    rw [String.toList_append]
    exact ⟨hstart.append _, hspelled.append hkey⟩
  have hne : typeName ++ keyWords key ≠ "" := by
    intro hempty
    obtain ⟨p, hp, hs⟩ := howner.1
    rw [hempty] at hs
    rw [List.prefix_nil.1 hs] at hp
    cases hp
  rcases entersOne_resolve hresolve with hsame | ⟨w, hmet, hown, hentered⟩
  · rw [hsame] at he
    exact absurd he hnew
  · rw [hentered] at he
    rcases List.mem_append.1 he with he | he
    · exact absurd he hnew
    · rw [List.mem_singleton.1 he] at hfrom ⊢
      dsimp only
      rw [wantedName, if_neg hne] at hfrom ⊢
      exact ⟨hclass, ⟨made, hmade, hfrom.name, hfrom⟩, hmet, hown, rfl,
        Naming.fresh_pascalCase_iff _ howner.1 howner.2⟩

end Run

/-- The type of the first property of the first class is asked for when nothing is in the ledger
yet. -/
theorem AsksProperty.first {name : String} {v schema : Value} {key : Scalar} {parts : ClassParts}
    {schemas : List (String × Value)} {ms : Members} {t : TypeUse} {k : Ledger}
    (hschemas : x.document.schemas = (name, v) :: schemas) (hdeclared : v.isDeclared)
    (hclass : v.isEnumSchema = false)
    (hparts : Returns (classParts x (x.catalogue.typeName name) v) {} parts {})
    (hproperties : parts.properties = (key, schema) :: ms)
    (hresolve : Returns (Schema.resolve x.catalogue schema
      (x.catalogue.typeName name ++ keyWords key) (!parts.required.any key.same)) {} t k) :
    AsksProperty x (x.catalogue.typeName name) key schema {} k := by
  have hfirst : x.document.schemas = [] ++ (name, v) :: schemas := hschemas
  have hfirst' : parts.properties = [] ++ (key, schema) :: ms := hproperties
  exact .intro (.named hfirst hdeclared (returns_pure_iff.2 ⟨rfl, rfl⟩)) hclass hparts hfirst'
    (returns_pure_iff.2 ⟨rfl, rfl⟩) hresolve

/-- An object with one property. -/
def withProperty (number : Nat) (key : String) (schema : Value) : Value :=
  .object number [(.text "properties", .object (number + 1) [(.text key, schema)])]

/-- An object without a name. -/
def addressSchema : Value := withProperty 3 "street" (.object 5 [(.text "type", .text "string")])

/-- A document with one class, which has such an object at a property. -/
def addressDocument (name key : String) : Document where
  schemas := [(name, withProperty 1 key addressSchema)]
  distinct := List.nodup_singleton name

/-- The settings for such documents. -/
def addressSettings : Settings := { openApiPath := "address.json" }

/-- Such a document asks for the type of the object first of all. -/
theorem asksProperty_address (name key type wanted : String)
    (htype : (Context.of addressSettings (addressDocument name key)).catalogue.typeName name = type)
    (hrun : ((contracts (.of addressSettings (addressDocument name key))).run.run {}).1.isOk)
    (hasked : let run := (Schema.resolve
        (Context.of addressSettings (addressDocument name key)).catalogue addressSchema
        (type ++ keyWords (.text key)) true).run.run {}
      (run.1.isOk, run.2.inlined.map (·.1)) = (true, [wanted])) :
    ∃ cs l k e, Returns (contracts (.of addressSettings (addressDocument name key))) {} cs l
      ∧ AsksProperty (.of addressSettings (addressDocument name key)) type (.text key)
          addressSchema {} k
      ∧ e ∈ k.inlined ∧ e.1 = wanted := by
  obtain ⟨cs, l, hrun⟩ := exists_returns hrun
  obtain ⟨hok, hnames⟩ := Prod.mk.inj hasked
  obtain ⟨t, k, hresolve⟩ := exists_returns hok
  rw [hresolve] at hnames
  obtain ⟨e, he, hname⟩ : ∃ e ∈ k.inlined, e.1 = wanted :=
    List.mem_map.1 (hnames ▸ List.mem_singleton.2 rfl)
  subst htype
  refine ⟨cs, l, k, e, hrun, ?_, he, hname⟩
  have hparts : Returns (classParts (.of addressSettings (addressDocument name key))
      ((Context.of addressSettings (addressDocument name key)).catalogue.typeName name)
      (withProperty 1 key addressSchema)) {} ⟨[], [(.text key, addressSchema)], []⟩ {} := rfl
  exact .first rfl rfl rfl hparts rfl hresolve

theorem property_type_name_address :
    ∃ cs l k e, Returns (contracts (.of addressSettings (addressDocument "Pet" "owner"))) {} cs l
      ∧ AsksProperty (.of addressSettings (addressDocument "Pet" "owner")) "Pet" (.text "owner")
          addressSchema {} k
      ∧ e ∈ k.inlined
      ∧ (e.1 = "Pet" ++ "Owner" ∨ ∃ n, e.1 = Naming.numbered ("Pet" ++ "Owner") n) := by
  obtain ⟨cs, l, k, e, hrun, hasks, he, -⟩ := asksProperty_address "Pet" "owner" "Pet"
    "PetOwner" (by decide +kernel) (by decide +kernel) (by decide +kernel)
  obtain ⟨-, -, -, -, -, hname⟩ := property_type_name _ _ hrun hasks he List.not_mem_nil
  exact ⟨cs, l, k, e, hrun, hasks, he, hname.2 (by decide +kernel)⟩

/-- A class with a short name of capitals loses it in the names of what is found at its
properties. -/
theorem property_type_lost :
    ∃ cs l k e, Returns (contracts (.of addressSettings (addressDocument "API" "URL"))) {} cs l
      ∧ AsksProperty (.of addressSettings (addressDocument "API" "URL")) "API" (.text "URL")
          addressSchema {} k
      ∧ e ∈ k.inlined ∧ e.1 = "Apiurl"
      ∧ ¬ (e.1 = "API" ++ "URL" ∨ ∃ n, e.1 = Naming.numbered ("API" ++ "URL") n) := by
  obtain ⟨cs, l, k, e, hrun, hasks, he, hname⟩ := asksProperty_address "API" "URL" "API"
    "Apiurl" (by decide +kernel) (by decide +kernel) (by decide +kernel)
  refine ⟨cs, l, k, e, hrun, hasks, he, hname, ?_⟩
  rw [hname]
  rintro (heq | ⟨n, heq⟩)
  · exact absurd heq (by decide)
  · have hletters := congrArg (fun name => name.toList[1]?) heq
    rw [Naming.numbered, String.toList_append] at hletters
    cases hletters

end Generate

end OpenApiClient
