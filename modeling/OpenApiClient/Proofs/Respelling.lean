/-
References in the spelling of the newer form.

In the older form named schemas stand under `definitions`, in the newer one under
`components/schemas`, and references to them are spelled accordingly.  `respelled` changes the
spelling wherever a schema stands that a value has in it, and nothing else: what merely looks
like a reference, as a value that an enumeration lists, stays as it is.

A schema and the respelled one are twins, and they stay twins through all that happens to a
schema while a document is read: bytes are spread, references are cut down, keys are checked, and
objects get new numbers.
-/
import OpenApiClient.Document.Reader
import OpenApiClient.Proofs.ObjectNumbers
import OpenApiClient.Proofs.Places
import OpenApiClient.Proofs.Twins

set_option autoImplicit false

namespace OpenApiClient.Value

open Schema (Catalogue)

/-! ## Spelling -/

/-- The text of a reference in the spelling of the newer form. -/
def respelledText (s : String) : String :=
  match Text.dropWord? "#/definitions/".toList s.toList with
  | some name => "#/components/schemas/" ++ .ofList name
  | none => s

mutual

/-- The value in a role, with its references in the spelling of the newer form. -/
def respelled (r : Role) : Value → Value
  | .scalar (.text s) => .text (if r = .reference then respelledText s else s)
  | .scalar s => .scalar s
  | .list vs => .list (respelledItems r vs)
  | .object n ms => .object n (respelledMembers r ms)
  | .set ks => .set ks
  | .pair k v => .pair (respelled r.item k) (respelled r.item v)
  | .again n => .again n

/-- The items of a value in a role, with respelled references. -/
def respelledItems (r : Role) : List Value → List Value
  | [] => []
  | v :: vs => respelled r.item v :: respelledItems r vs

/-- The members of a value in a role, with respelled references. -/
def respelledMembers (r : Role) : List (Scalar × Value) → List (Scalar × Value)
  | [] => []
  | (k, v) :: ms => (k, respelled (r.member k) v) :: respelledMembers r ms

end

/-- A reference keeps its target. -/
theorem refTarget?_respelledText (s : String) :
    Catalogue.refTarget? s = Catalogue.refTarget? (respelledText s) := by
  unfold respelledText
  cases hs : Text.dropWord? "#/definitions/".toList s.toList with
  | none => rfl
  | some name =>
    -- the older spelling is not taken for the newer one, which is tried first
    have hother : Text.dropWord? "#/components/schemas/".toList ("#/definitions/".toList ++ name)
        = none := rfl
    have hnew : ("#/components/schemas/" ++ String.ofList name).toList
        = "#/components/schemas/".toList ++ name :=
      String.toList_append.trans (congrArg _ String.toList_ofList)
    unfold Catalogue.refTarget? Catalogue.refStems
    dsimp only
    rw [Text.append_of_dropWord? hs, hnew, List.findSome?_cons, List.findSome?_cons, hother,
      Option.map_none, List.findSome?_cons, Text.dropWord?_append, Text.dropWord?_append,
      Option.map_some]

section Respelled

variable {ν : Nat → Nat → Prop} {r : Role}

mutual

/-- A value and the respelled one are twins. -/
theorem twin_respelled (r : Role) {v : Value} (h : ∀ n ∈ v.numbers, ν n n) :
    Twin ν r v (v.respelled r) := by
  cases v with
  | scalar s =>
    cases s with
    | text s =>
      rw [respelled]
      split
      · rename_i hr
        subst hr
        exact .reference (refTarget?_respelledText s)
      · exact .scalar _ _
    | _ => exact .scalar _ _
  | list vs =>
    rw [respelled]
    exact .list (twinItems_respelled r fun n hn => h n hn)
  | object n ms =>
    rw [respelled]
    rw [numbers] at h
    exact .object (h n List.mem_cons_self)
      (twinMembers_respelled r fun n hn => h n (List.mem_cons_of_mem _ hn))
  | set ks => exact .set r ks
  | pair k v =>
    rw [respelled]
    rw [numbers] at h
    exact .pair (twin_respelled _ fun n hn => h n (List.mem_append_left _ hn))
      (twin_respelled _ fun n hn => h n (List.mem_append_right _ hn))
  | again n => exact .again r n

theorem twinItems_respelled (r : Role) {vs : List Value}
    (h : ∀ n ∈ numbersOfItems vs, ν n n) : TwinItems ν r vs (respelledItems r vs) := by
  cases vs with
  | nil => exact .nil r
  | cons v vs =>
    rw [respelledItems]
    rw [numbersOfItems] at h
    exact .cons (twin_respelled _ fun n hn => h n (List.mem_append_left _ hn))
      (twinItems_respelled r fun n hn => h n (List.mem_append_right _ hn))

theorem twinMembers_respelled (r : Role) {ms : Members}
    (h : ∀ n ∈ numbersOfMembers ms, ν n n) : TwinMembers ν r ms (respelledMembers r ms) := by
  cases ms with
  | nil => exact .nil r
  | cons m ms =>
    rw [respelledMembers]
    rw [numbersOfMembers] at h
    exact .cons (twin_respelled _ fun n hn => h n (List.mem_append_left _ hn))
      (twinMembers_respelled r fun n hn => h n (List.mem_append_right _ hn))

end

/-! ### Bytes -/

theorem respelledItems_eq (r : Role) (vs : List Value) :
    respelledItems r vs = vs.map (respelled r.item) := by
  induction vs with
  | nil => rfl
  | cons v vs ih => rw [respelledItems, ih, List.map_cons]

mutual

/-- Bytes are spread in the same way before and after. -/
theorem spreadBytes_respelled (r : Role) (v : Value) :
    (v.respelled r).spreadBytes = v.spreadBytes.respelled r := by
  cases v with
  | scalar s =>
    cases s with
    | bytes data =>
      rw [respelled, spreadBytes, respelled, respelledItems_eq, List.map_map]
      · rfl
      · intro s hs
        cases hs
    | _ => rfl
  | list vs => rw [respelled, spreadBytes, spreadBytes, respelled, spreadItems_respelled]
  | object n ms => rw [respelled, spreadBytes, spreadBytes, respelled, spreadMembers_respelled]
  | set ks => rfl
  | pair k v =>
    rw [respelled, spreadBytes, spreadBytes, respelled, respelledItems, respelledItems,
      respelledItems, spreadBytes_respelled, spreadBytes_respelled]
  | again n => rfl

theorem spreadItems_respelled (r : Role) (vs : List Value) :
    spreadItems (respelledItems r vs) = respelledItems r (spreadItems vs) := by
  cases vs with
  | nil => rfl
  | cons v vs =>
    rw [respelledItems, spreadItems, spreadItems, respelledItems, spreadBytes_respelled,
      spreadItems_respelled]

theorem spreadMembers_respelled (r : Role) (ms : Members) :
    spreadMembers (respelledMembers r ms) = respelledMembers r (spreadMembers ms) := by
  cases ms with
  | nil => rfl
  | cons m ms =>
    rw [respelledMembers, spreadMembers, spreadMembers, respelledMembers, spreadBytes_respelled,
      spreadMembers_respelled]

end

/-! ### References -/

/-- A twin of a reference is one, to the same target if it is a reference to a schema. -/
theorem Twin.reference? {v w : Value} (h : Twin ν r v w) :
    Option.Rel (fun s t => Twin ν (r.member (.text "$ref")) (.text s) (.text t))
      v.reference? w.reference? := by
  have hmember := h.member? "$ref"
  unfold Value.reference?
  generalize v.member? "$ref" = x at hmember ⊢
  generalize w.member? "$ref" = y at hmember ⊢
  cases hmember with
  | none => exact .none
  | some h =>
    generalize r.member (.text "$ref") = role at h ⊢
    cases h with
    | scalar _ s =>
      cases s with
      | text s => exact .some (.scalar _ _)
      | _ => exact .none
    | reference h => exact .some (.reference h)
    | _ => exact .none

mutual

/-- Twins stay twins when their references are cut down. -/
theorem Twin.trimReferences {r : Role} {v w : Value} (h : Twin ν r v w) :
    Twin ν r v.trimReferences w.trimReferences := by
  cases v with
  | object n ms =>
    have href := h.reference?
    cases h with
    | @object _ _ m _ ns hn h =>
      rw [Value.trimReferences, Value.trimReferences]
      generalize Value.reference? (.object n ms) = x at href ⊢
      generalize Value.reference? (.object m ns) = y at href ⊢
      -- both are references, cut down to the one member, or none is
      cases href with
      | some href => exact .object hn (.cons href (.nil r))
      | none => exact .object hn (TwinMembers.trimMembers h)
  | list vs =>
    cases h with
    | list h => exact .list (TwinItems.trimItems h)
  | scalar s =>
    cases h with
    | scalar _ _ => exact .scalar _ _
    | reference h => exact .reference h
  | set ks =>
    cases h
    exact .set _ _
  | pair k v =>
    cases h with
    | pair hk hv => exact .pair hk hv
  | again n =>
    cases h
    exact .again _ _

theorem TwinItems.trimItems {r : Role} {vs ws : List Value} (h : TwinItems ν r vs ws) :
    TwinItems ν r (trimItems vs) (trimItems ws) := by
  cases vs with
  | nil =>
    cases h
    exact .nil r
  | cons v vs =>
    cases h with
    | cons hv h => exact .cons (Twin.trimReferences hv) (TwinItems.trimItems h)

theorem TwinMembers.trimMembers {r : Role} {ms ns : Members} (h : TwinMembers ν r ms ns) :
    TwinMembers ν r (trimMembers ms) (trimMembers ns) := by
  cases ms with
  | nil =>
    cases h
    exact .nil r
  | cons m ms =>
    cases h with
    | cons hv h => exact .cons (Twin.trimReferences hv) (TwinMembers.trimMembers h)

end

/-! ### Numbers -/

mutual

theorem numbers_respelled (r : Role) (v : Value) : (v.respelled r).numbers = v.numbers := by
  cases v with
  | scalar s => cases s <;> rfl
  | list vs => rw [respelled, numbers, numbers, numbersOfItems_respelled]
  | object n ms => rw [respelled, numbers, numbers, numbersOfMembers_respelled]
  | set ks => rfl
  | pair k v => rw [respelled, numbers, numbers, numbers_respelled, numbers_respelled]
  | again n => rfl

theorem numbersOfItems_respelled (r : Role) (vs : List Value) :
    numbersOfItems (respelledItems r vs) = numbersOfItems vs := by
  cases vs with
  | nil => rfl
  | cons v vs =>
    rw [respelledItems, numbersOfItems, numbersOfItems, numbers_respelled,
      numbersOfItems_respelled]

theorem numbersOfMembers_respelled (r : Role) (ms : Members) :
    numbersOfMembers (respelledMembers r ms) = numbersOfMembers ms := by
  cases ms with
  | nil => rfl
  | cons m ms =>
    rw [respelledMembers, numbersOfMembers, numbersOfMembers, numbers_respelled,
      numbersOfMembers_respelled]

end

mutual

/-- The next number is above all that a value has. -/
theorem lt_nextNumber {n : Nat} {v : Value} (h : n ∈ v.numbers) : n < v.nextNumber := by
  cases v with
  | list vs => exact lt_nextOfItems h
  | object k ms =>
    rw [nextNumber]
    rcases List.mem_cons.1 h with rfl | h
    · exact Nat.lt_of_lt_of_le (Nat.lt_succ_self n) (Nat.le_max_left _ _)
    · exact Nat.lt_of_lt_of_le (lt_nextOfMembers h) (Nat.le_max_right _ _)
  | pair k v =>
    rw [nextNumber]
    rcases List.mem_append.1 h with h | h
    · exact Nat.lt_of_lt_of_le (lt_nextNumber h) (Nat.le_max_left _ _)
    · exact Nat.lt_of_lt_of_le (lt_nextNumber h) (Nat.le_max_right _ _)
  | _ => cases h

theorem lt_nextOfItems {n : Nat} {vs : List Value} (h : n ∈ numbersOfItems vs) :
    n < nextOfItems vs := by
  cases vs with
  | nil => cases h
  | cons v vs =>
    rw [nextOfItems]
    rcases List.mem_append.1 h with h | h
    · exact Nat.lt_of_lt_of_le (lt_nextNumber h) (Nat.le_max_left _ _)
    · exact Nat.lt_of_lt_of_le (lt_nextOfItems h) (Nat.le_max_right _ _)

theorem lt_nextOfMembers {n : Nat} {ms : Members} (h : n ∈ numbersOfMembers ms) :
    n < nextOfMembers ms := by
  cases ms with
  | nil => cases h
  | cons m ms =>
    rw [nextOfMembers]
    rcases List.mem_append.1 h with h | h
    · exact Nat.lt_of_lt_of_le (lt_nextNumber h) (Nat.le_max_left _ _)
    · exact Nat.lt_of_lt_of_le (lt_nextOfMembers h) (Nat.le_max_right _ _)

end

/-- From both numbers on as many have been given out. -/
def InStep (next next' after after' : Nat) : Prop := ∃ k, after = next + k ∧ after' = next' + k

theorem InStep.refl (next next' : Nat) : InStep next next' next next' := ⟨0, rfl, rfl⟩

theorem InStep.trans {next next' mid mid' after after' : Nat} (h : InStep next next' mid mid')
    (h' : InStep mid mid' after after') : InStep next next' after after' := by
  obtain ⟨i, rfl, rfl⟩ := h
  obtain ⟨j, rfl, rfl⟩ := h'
  exact ⟨i + j, Nat.add_assoc _ _ _, Nat.add_assoc _ _ _⟩

/-- What is matched from two numbers on is matched from later ones on. -/
theorem InStep.matched {next next' after after' : Nat} (h : InStep next next' after after')
    (hν : ∀ i, ν (next + i) (next' + i)) (i : Nat) : ν (after + i) (after' + i) := by
  obtain ⟨k, rfl, rfl⟩ := h
  rw [Nat.add_assoc, Nat.add_assoc]
  exact hν (k + i)

mutual

/-- Twins whose objects are numbered anew, each from its own number on, are twins whatever their
numbers were, and as many numbers are given out. -/
theorem Twin.renumber {μ : Nat → Nat → Prop} {r : Role} {v w : Value} (h : Twin μ r v w)
    {next next' : Nat} (hν : ∀ i, ν (next + i) (next' + i)) :
    Twin ν r (v.renumber next).1 (w.renumber next').1
      ∧ InStep next next' (v.renumber next).2 (w.renumber next').2 := by
  cases v with
  | scalar s =>
    cases h with
    | scalar _ _ => exact ⟨.scalar _ _, .refl _ _⟩
    | reference h => exact ⟨.reference h, .refl _ _⟩
  | list vs =>
    cases h with
    | list h =>
      obtain ⟨htwin, hstep⟩ := TwinItems.renumberItems h hν
      exact ⟨.list htwin, hstep⟩
  | object n ms =>
    cases h with
    | object _ h =>
      -- the object takes one number on both sides, before its members
      have hone : InStep next next' (next + 1) (next' + 1) := ⟨1, rfl, rfl⟩
      obtain ⟨htwin, hstep⟩ := TwinMembers.renumberMembers h (hone.matched hν)
      exact ⟨.object (hν 0) htwin, hone.trans hstep⟩
  | set ks =>
    cases h
    exact ⟨.set _ _, .refl _ _⟩
  | pair k v =>
    cases h with
    | pair hk hv =>
      obtain ⟨htwin, hstep⟩ := Twin.renumber hk hν
      obtain ⟨htwin', hstep'⟩ := Twin.renumber hv (hstep.matched hν)
      exact ⟨.pair htwin htwin', hstep.trans hstep'⟩
  | again n =>
    cases h
    exact ⟨.again _ _, .refl _ _⟩

theorem TwinItems.renumberItems {μ : Nat → Nat → Prop} {r : Role} {vs ws : List Value}
    (h : TwinItems μ r vs ws) {next next' : Nat} (hν : ∀ i, ν (next + i) (next' + i)) :
    TwinItems ν r (Value.renumberItems next vs).1 (Value.renumberItems next' ws).1
      ∧ InStep next next' (Value.renumberItems next vs).2 (Value.renumberItems next' ws).2 := by
  cases vs with
  | nil =>
    cases h
    exact ⟨.nil _, .refl _ _⟩
  | cons v vs =>
    cases h with
    | cons hv h =>
      obtain ⟨htwin, hstep⟩ := Twin.renumber hv hν
      obtain ⟨htwin', hstep'⟩ := TwinItems.renumberItems h (hstep.matched hν)
      exact ⟨.cons htwin htwin', hstep.trans hstep'⟩

theorem TwinMembers.renumberMembers {μ : Nat → Nat → Prop} {r : Role} {ms ns : Members}
    (h : TwinMembers μ r ms ns) {next next' : Nat} (hν : ∀ i, ν (next + i) (next' + i)) :
    TwinMembers ν r (Value.renumberMembers next ms).1 (Value.renumberMembers next' ns).1
      ∧ InStep next next' (Value.renumberMembers next ms).2
        (Value.renumberMembers next' ns).2 := by
  cases ms with
  | nil =>
    cases h
    exact ⟨.nil _, .refl _ _⟩
  | cons m ms =>
    cases h with
    | cons hv h =>
      obtain ⟨htwin, hstep⟩ := Twin.renumber hv hν
      obtain ⟨htwin', hstep'⟩ := TwinMembers.renumberMembers h (hstep.matched hν)
      exact ⟨.cons htwin htwin', hstep.trans hstep'⟩

end

/-! ### Checked keys -/

open Validation (Checked)

/-- A key that is no text, but stands for one, has no role, so its value fits every role. -/
theorem Twin.of_key {key : Scalar} {name : String} {v w : Value} (h : Twin ν (r.member key) v w)
    (hkey : Validation.text (.scalar key) = .ok name) : Twin ν (r.member (.text name)) v w := by
  cases key with
  | text s =>
    cases hkey
    exact h
  | bytes data =>
    cases r with
    | table => exact h
    | _ => exact Twin.of_plain _ h
  | _ => cases hkey

/-- The entries of twins have the same names, and what stands there concurs if it is checked
alike. -/
theorem TwinMembers.concur_entries {α α' : Type} {Q : String → α → α' → Prop}
    {check : Value → Checked α} {check' : Value → Checked α'} {ms ns : Members}
    (h : TwinMembers ν r ms ns)
    (hcheck : ∀ name v w, Twin ν (r.member (.text name)) v w →
      Checked.Concur (Q name) (check v) (check' w)) :
    Checked.Concur (List.Forall₂ fun e e' => e.1 = e'.1 ∧ Q e.1 e.2 e'.2)
      (Validation.entries check ms) (Validation.entries check' ns) := by
  induction ms generalizing ns with
  | nil =>
    cases h
    exact .ok .nil
  | cons m ms ih =>
    cases h with
    | @cons _ key v w _ ns hv h =>
      cases hkey : Validation.text (.scalar key) with
      | ok name =>
        rw [Validation.entries, Validation.entries, hkey]
        refine .seq (R := List.Forall₂ fun e e' => e.1 = e'.1 ∧ Q e.1 e.2 e'.2) ?_ (ih h)
        refine .seq (R := Q name) ?_ (hcheck name v w (hv.of_key hkey)).within
        refine .ok fun a a' ha es es' hes => .cons ⟨rfl, ?_⟩ ?_
        · have hlookup := rel_lookup hes name
          dsimp only
          generalize es.lookup name = x at hlookup ⊢
          generalize es'.lookup name = y at hlookup ⊢
          cases hlookup with
          | some h => exact h
          | none => exact ha
        · exact rel_filter_of_eq hes fun e e' he => by rw [he.1]
      | _ =>
        -- a key that is no text puts the whole table at fault
        have hfault : ∀ {β : Type} (check : Value → Checked β) (v : Value) (ms : Members) es,
            Validation.entries check ((key, v) :: ms) ≠ .ok es := by
          intro β check v ms es hes
          rw [Validation.entries, Checked.seq_eq_ok_iff] at hes
          obtain ⟨g, a, hg, -⟩ := hes
          obtain ⟨g', b, hg', -⟩ := Checked.seq_eq_ok_iff.1 hg
          obtain ⟨name, hname, -⟩ := Checked.map_eq_ok_iff.1 hg'
          rw [Checked.within_eq_ok_iff, Checked.within_eq_ok_iff, hkey] at hname
          cases hname
        exact .fault (hfault check v ms) (hfault check' w ns)

/-- The tables that twins are read as are twins. -/
theorem Twin.concur_table {v w : Value} (h : Twin ν r v w) :
    Checked.Concur (Twin ν r) (Validation.table v) (Validation.table w) := by
  have hfault : ∀ v : Value, v.isObject = false → ∀ u, Validation.table v ≠ .ok u := by
    intro v hv u hu
    cases v with
    | object _ _ => cases hv
    | _ => cases hu
  cases h with
  | object hn h =>
    refine .map (h.concur_entries (Q := fun name => Twin ν (r.member (.text name)))
      fun _ _ _ hv => .ok hv) fun es es' hes => .object hn (.of_forall₂ ?_)
    rw [List.forall₂_map_left_iff, List.forall₂_map_right_iff]
    exact hes.imp fun e e' he => ⟨congrArg Scalar.text he.1, he.2⟩
  | _ => exact .fault (hfault _ rfl) (hfault _ rfl)

/-- The same of a table that may be absent. -/
theorem Twin.concur_optionalTable {v w : Value} (h : Twin ν r v w) :
    Checked.Concur (Option.Rel (Twin ν r)) (Validation.optional Validation.table v)
      (Validation.optional Validation.table w) := by
  unfold Validation.optional
  rw [h.isNull_eq]
  split
  · exact .ok .none
  · exact .map h.concur_table fun _ _ h => .some h

end Respelled

end OpenApiClient.Value
