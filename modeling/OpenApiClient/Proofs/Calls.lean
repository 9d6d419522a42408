/-
What has been answered stays answered.

A catalogue with its ledger is asked in any order, by whoever writes code, and some of what is
asked fails.  `Call` is one question and `Catalogue.after` the ledger when some have been asked.
Whatever they are, and however they end, the ledger grows at its end only and stays sound: a
failing call leaves behind what it has entered until then, and that is entered properly.

So a type that has been given out is given out again, to whoever asks for it: the schema leads the
same way down, and the object at its end has its name by now.  The owner, which chose that name,
does not count any more.
-/
import OpenApiClient.Proofs.Declarations

set_option autoImplicit false

namespace OpenApiClient.Schema

open CSharp (TypeUse)

/-! ## Calls -/

/-- A question that a catalogue is asked. -/
inductive Call where
  | resolve (v : Value) (owner : String) (nullable : Bool)
  | useNamespace (qualified : String)
  | typeName (name : String)
  | refName (ref : String)
  | refSchema (ref : String)
  | isEnum (v : Value)

/-- What a question is answered with. -/
inductive Answer where
  | use (t : TypeUse)
  | name (s : String)
  | schema (v : Value)
  | truth (b : Bool)

/-- The answer to a question. -/
def Call.answer (c : Catalogue) : Call → Build Answer
  | .resolve v owner nullable => do return .use (← Schema.resolve c v owner nullable)
  | .useNamespace qualified => do return .name (← Schema.useNamespace qualified)
  | .typeName name => return .name (c.typeName name)
  | .refName ref => do return .name (← liftFault (c.refName ref))
  | .refSchema ref => return .schema (c.refSchema ref)
  | .isEnum v => do return .truth (← liftFault (c.isEnum v))

/-- The schema whose type a question asks for. -/
def Call.schema? : Call → Option Value
  | .resolve v _ _ => some v
  | _ => none

/-- The ledger after some questions, whether they could be answered or not. -/
def Catalogue.after (c : Catalogue) (l : Ledger) (calls : List Call) : Ledger :=
  calls.foldl (fun l call => ((call.answer c).run.run l).2) l

/-! ## The ledger after some calls -/

section After

variable {c : Catalogue}

/-- What calls enter: under the owner that a type is asked for, a schema with a type of its own
that is met on the way down. -/
def EntersOn (c : Catalogue) (calls : List Call) : String → Value → Prop :=
  fun owner w => ∃ v nullable, .resolve v owner nullable ∈ calls ∧ EntersFor c v owner owner w

theorem EntersOn.mono {calls more : List Call} (h : ∀ call ∈ calls, call ∈ more)
    {owner : String} {w : Value} (hw : EntersOn c calls owner w) : EntersOn c more owner w := by
  obtain ⟨v, nullable, hmem, hw⟩ := hw
  exact ⟨v, nullable, h _ hmem, hw⟩

theorem steps_answer (c : Catalogue) (call : Call) :
    Steps c (EntersOn c [call]) (call.answer c) := by
  cases call with
  | resolve v owner nullable =>
    refine Steps.bind ?_ fun _ _ => Steps.pure _
    refine (steps_resolve c v owner nullable).mono fun o w hw => ?_
    obtain ⟨rfl, hw⟩ := hw
    exact ⟨v, nullable, List.mem_cons_self, rfl, hw⟩
  | useNamespace qualified => exact (Steps.useNamespace qualified).bind fun _ _ => Steps.pure _
  | refName ref => exact (Steps.liftFault _).bind fun _ _ => Steps.pure _
  | isEnum v => exact (Steps.liftFault _).bind fun _ _ => Steps.pure _
  | typeName | refSchema => exact Steps.pure _

/-- All that calls do to the ledger are steps, whether they can be answered or not. -/
theorem reaches_after (c : Catalogue) (l : Ledger) (calls : List Call) :
    l.Reaches c (EntersOn c calls) (c.after l calls) := by
  induction calls generalizing l with
  | nil => exact .refl
  | cons call calls ih =>
    refine Ledger.Reaches.trans ((steps_answer c call l).mono ?_) ((ih _).mono ?_)
    · exact fun _ _ hw => hw.mono fun other hother =>
        List.mem_cons.2 (.inl (List.mem_singleton.1 hother))
    · exact fun _ _ hw => hw.mono fun other hother => List.mem_cons_of_mem call hother

/-- The ledger is sound after any calls, in a pool that holds what they are about and whatever
else is asked about. -/
theorem exists_sound_after (schemas : List (String × Value)) (calls : List Call)
    (vs : List Value) :
    ∃ pool, (Catalogue.ofSchemas schemas).Within pool ∧ (∀ v ∈ vs, v.Within pool)
      ∧ ((Catalogue.ofSchemas schemas).after {} calls).Sound (Catalogue.ofSchemas schemas)
        pool := by
  obtain ⟨pool, hc, hall⟩ :=
    exists_pool (Catalogue.ofSchemas schemas) (vs ++ calls.filterMap Call.schema?)
  obtain ⟨hvs, hcalls⟩ := List.forall_mem_append.1 hall
  refine ⟨pool, hc, hvs, (reaches_after _ {} calls).sound ?_ (Catalogue.sound_empty schemas pool)⟩
  rintro owner w ⟨v, nullable, hmem, hw⟩
  exact hw.within hc (hcalls v (List.mem_filterMap.2 ⟨_, hmem, rfl⟩))

end After

/-! ## Answers that stay -/

/-- After any calls on a catalogue, further calls add objects and namespaces behind those that are
there.  The objects are different, and their names are different from each other and from those of
the named schemas.  And what is answered for a schema then is answered for it again whenever it
is asked for, under whichever owner, and this adds neither an object nor a namespace. -/
theorem answers_stay (schemas : List (String × Value)) (calls : List Call) :
    let c := Catalogue.ofSchemas schemas
    let l := c.after {} calls
    (∀ more, l.inlined <+: (c.after l more).inlined
        ∧ l.namespaces <+: (c.after l more).namespaces)
      ∧ (l.inlined.map (·.1)).Nodup
      ∧ (∀ name ∈ l.inlined.map (·.1), name ∉ c.typeNames.map (·.2))
      ∧ (∀ e ∈ l.inlined, e.2.isObject)
      ∧ (l.inlined.map fun e => objectNumber? e.2).Nodup
      ∧ ∀ v owner nullable t l', Returns (resolve c v owner nullable) l t l' →
        ∀ more owner', ∃ k,
          Returns (resolve c v owner' nullable) (c.after l' more) t k
            ∧ k.inlined = (c.after l' more).inlined
            ∧ k.namespaces = (c.after l' more).namespaces := by
  intro c l
  obtain ⟨pool, -, -, hsound⟩ := exists_sound_after schemas calls []
  obtain ⟨-, hinlined, hapart⟩ := List.nodup_append.1 hsound.names
  refine ⟨?_, hinlined, ?_, fun e he => (hsound.objects e he).1, hsound.numbers, ?_⟩
  · intro more
    have hgrows := (reaches_after c l more).grows
    exact ⟨hgrows.inlined, hgrows.namespaces⟩
  · intro name hname hnamed
    exact hapart name hnamed name hname rfl
  · -- the pool of the calls need not hold this schema, so another one is chosen
    intro v owner nullable t l' h more owner'
    obtain ⟨pool, hc, hv⟩ := exists_pool c [v]
    have hgrows := (reaches_after c l' more).grows
    have hrepeats := resolve_repeats hc (hv v List.mem_cons_self) h hgrows owner'
    exact ⟨_, hrepeats, rfl, rfl⟩

/-- A schema without a name. -/
def boneSchema : Value :=
  .object 1 [(.text "properties", .object 2 [(.text "age", .object 3 [])])]

/-- A catalogue with one named schema. -/
def kennelSchemas : List (String × Value) := [("Dog", .object 4 [])]

/-- A call that fails on its way, since the values of the dictionary are nowhere described. -/
def failingCall : Call :=
  .resolve (.object 5 [(.text "type", .text "object"), (.text "additionalProperties",
    .object 6 [(.text "$ref", .text "#/definitions/Cat")])]) "Dog" false

/-- A list of schemas without a name. -/
def bonesSchema : Value := .object 7 [(.text "type", .text "array"), (.text "items", boneSchema)]

theorem answers_stay_bones :
    let c := Catalogue.ofSchemas kennelSchemas
    let more := [failingCall, .resolve boneSchema "Cat" true, .useNamespace "Zoo.Cage"]
    ∃ t l' k, Returns (resolve c bonesSchema "dog" false) (c.after {} [failingCall]) t l'
      ∧ t.render = "System.Collections.Generic.ICollection<Dog2>"
      ∧ Returns (resolve c bonesSchema "Cat" false) (c.after l' more) t k
      ∧ k.inlined = (c.after l' more).inlined ∧ k.namespaces = (c.after l' more).namespaces := by
  intro c more
  have hrun : ((resolve c bonesSchema "dog" false).run.run
      (c.after {} [failingCall])).1.toOption.map TypeUse.render
        = some "System.Collections.Generic.ICollection<Dog2>" := by
    decide +kernel
  obtain ⟨t, l', hreturns, hrender⟩ := exists_returns_of_map hrun
  obtain ⟨-, -, -, -, -, hstay⟩ := answers_stay kennelSchemas [failingCall]
  obtain ⟨k, hagain, hinlined, hnamespaces⟩ :=
    hstay bonesSchema "dog" false t l' hreturns more "Cat"
  exact ⟨t, l', k, hreturns, hrender, hagain, hinlined, hnamespaces⟩

end OpenApiClient.Schema
