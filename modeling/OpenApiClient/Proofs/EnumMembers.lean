/-
What an enumeration keeps of the values that its schema lists.

Each value that is not null has one member, in the order of the values.  Among texts a member says
where its value stands in the list, so a null leaves a gap; among integers it says the value itself.
The names are made from the values and then made different, and what the value was is read back
from elsewhere: from the literal in the attribute, or from the ordinal.

A value is checked when its member is made, so of several faults the first one is met, and
`firstFault?` says which that is without any members.  The claim that an enumeration of integers is
refused exactly for a value that is no integer has its weak spot here: an integer can be too long
to be written out, and then that ends the work before the other value is looked at.
-/
import Mathlib.Data.List.Forall2
import OpenApiClient.Proofs.FreshNames
import OpenApiClient.Proofs.Literals
import OpenApiClient.Proofs.Returns

set_option autoImplicit false

namespace OpenApiClient

/-- An integer.  A truth value is none. -/
def Value.IsInteger (v : Value) : Prop := ∃ n, v = .int n

namespace Generate

open CSharp
open Schema

/-- Faults that say that something in a document cannot be emitted. -/
def Fault.IsEmission : Fault → Prop
  | .schemaNotFound _ | .unsupportedReference _ | .notInteger _ _ => True
  | _ => False

/-! ## Faults of values -/

/-- Why a value has no member. -/
def memberFault? (isText : Bool) (typeName : String) (v : Value) : Option Fault :=
  if !v.isWritable then some .longInteger
  else if isText then none
  else match v with
  | .scalar (.int _) => none
  | v => some (.notInteger v.literal typeName)

/-- Why there are no members for several values: the first of them at fault says it. -/
def firstFault? (isText : Bool) (typeName : String) (vs : List Value) : Option Fault :=
  vs.findSome? fun v => if v.isNull then none else memberFault? isText typeName v

section

variable {isText : Bool} {typeName : String} {v : Value} {vs : List Value}

theorem firstFault?_cons_of_none
    (h : (if v.isNull then none else memberFault? isText typeName v) = none) :
    firstFault? isText typeName (v :: vs) = firstFault? isText typeName vs := by
  rw [firstFault?, List.findSome?_cons, h, ← firstFault?]

theorem firstFault?_cons_of_some {e : Fault} (hnull : v.isNull = false)
    (h : memberFault? isText typeName v = some e) :
    firstFault? isText typeName (v :: vs) = some e := by
  rw [firstFault?, List.findSome?_cons, hnull, if_neg Bool.false_ne_true, h]

/-- A value has a member if it can be written out, and is an integer where one is wanted. -/
theorem memberFault?_eq_none_iff :
    memberFault? isText typeName v = none ↔
      v.isWritable = true ∧ (isText = false → v.IsInteger) := by
  unfold memberFault?
  cases hwritable : v.isWritable with
  | false => simp
  | true =>
    cases isText with
    | true => simp
    | false =>
      rw [if_neg (by decide), if_neg Bool.false_ne_true]
      split
      next n => exact ⟨fun _ => ⟨rfl, fun _ => ⟨n, rfl⟩⟩, fun _ => rfl⟩
      next v hno =>
        constructor
        · intro h
          cases h
        · rintro ⟨-, hinteger⟩
          obtain ⟨n, rfl⟩ := hinteger rfl
          exact absurd rfl (hno n)

/-- What is no integer is refused for that, if it can be written out. -/
theorem memberFault?_isEmission_iff :
    (∃ e, memberFault? isText typeName v = some e ∧ e.IsEmission) ↔
      isText = false ∧ v.isWritable = true ∧ ¬ v.IsInteger := by
  unfold memberFault?
  cases hwritable : v.isWritable with
  | false => simp [Fault.IsEmission]
  | true =>
    cases isText with
    | true => simp
    | false =>
      rw [if_neg (by decide), if_neg Bool.false_ne_true]
      split
      next n =>
        constructor
        · rintro ⟨_, h, -⟩
          cases h
        · rintro ⟨-, -, hno⟩
          exact absurd ⟨n, rfl⟩ hno
      next v hno =>
        refine ⟨fun _ => ⟨rfl, rfl, ?_⟩, fun _ => ⟨_, rfl, trivial⟩⟩
        rintro ⟨n, rfl⟩
        exact hno n rfl

/-- Some value that is not null is no integer, and it and all before it can be written out. -/
def MeetsNonInteger (vs : List Value) : Prop :=
  ∃ before v after, vs = before ++ v :: after ∧ v.isNull = false ∧ ¬ v.IsInteger
    ∧ ∀ w ∈ before ++ [v], w.isWritable = true

theorem meetsNonInteger_cons_iff :
    MeetsNonInteger (v :: vs) ↔ v.isWritable = true
      ∧ (v.isNull = false ∧ ¬ v.IsInteger ∨ MeetsNonInteger vs) := by
  constructor
  · rintro ⟨before, w, after, heq, hnull, hno, hwritable⟩
    cases before with
    | nil =>
      obtain ⟨rfl, rfl⟩ := List.cons.inj heq
      exact ⟨hwritable v List.mem_cons_self, .inl ⟨hnull, hno⟩⟩
    | cons u before =>
      obtain ⟨rfl, rfl⟩ := List.cons.inj heq
      refine ⟨hwritable v List.mem_cons_self, .inr ⟨before, w, after, rfl, hnull, hno, ?_⟩⟩
      exact fun u hu => hwritable u (List.mem_cons_of_mem _ hu)
  · rintro ⟨hv, ⟨hnull, hno⟩ | ⟨before, w, after, rfl, hnull, hno, hwritable⟩⟩
    · exact ⟨[], v, vs, rfl, hnull, hno, fun u hu => by rwa [List.mem_singleton.1 hu]⟩
    · exact ⟨v :: before, w, after, rfl, hnull, hno, List.forall_mem_cons.2 ⟨hv, hwritable⟩⟩

theorem isWritable_of_isNull (h : v.isNull = true) : v.isWritable = true := by
  rw [Value.eq_null_of_isNull h]
  rfl

/-- The first fault is that some value is no integer exactly if such a value is met. -/
theorem firstFault?_isEmission_iff :
    (∃ e, firstFault? isText typeName vs = some e ∧ e.IsEmission) ↔
      isText = false ∧ MeetsNonInteger vs := by
  induction vs with
  | nil =>
    constructor
    · rintro ⟨_, h, -⟩
      cases h
    · rintro ⟨-, before, v, after, h, -⟩
      cases before <;> cases h
  | cons v vs ih =>
    rw [meetsNonInteger_cons_iff]
    cases hnull : v.isNull with
    | true =>
      -- null is passed over, and it can be written out
      rw [firstFault?_cons_of_none (by rw [hnull, if_pos rfl]), ih]
      simp [isWritable_of_isNull hnull]
    | false =>
      cases hfault : memberFault? isText typeName v with
      | none =>
        obtain ⟨hwritable, hinteger⟩ := memberFault?_eq_none_iff.1 hfault
        rw [firstFault?_cons_of_none (by rw [hnull, if_neg Bool.false_ne_true, hfault]), ih]
        refine and_congr_right fun htext => ?_
        simp [hwritable, hinteger htext]
      | some e =>
        have hkind : (∃ e', some e = some e' ∧ e'.IsEmission) ↔
            isText = false ∧ v.isWritable = true ∧ ¬ v.IsInteger := by
          rw [← hfault]
          exact memberFault?_isEmission_iff
        rw [firstFault?_cons_of_some hnull hfault, hkind]
        constructor
        · rintro ⟨htext, hwritable, hno⟩
          exact ⟨htext, hwritable, .inl ⟨rfl, hno⟩⟩
        · rintro ⟨htext, hwritable, -⟩
          refine ⟨htext, hwritable, fun hinteger => ?_⟩
          rw [memberFault?_eq_none_iff.2 ⟨hwritable, fun _ => hinteger⟩] at hfault
          cases hfault

theorem firstFault?_eq_none_iff :
    firstFault? isText typeName vs = none ↔
      ∀ v ∈ vs, v.isNull = false → v.isWritable = true ∧ (isText = false → v.IsInteger) := by
  rw [firstFault?, List.findSome?_eq_none_iff]
  refine forall₂_congr fun v _ => ?_
  cases v.isNull with
  | true => simp
  | false => simp [memberFault?_eq_none_iff]

end

/-! ## Members -/

/-- The name that a text asks for. -/
def textMemberName (v : Value) : String :=
  if Naming.pascalCase v.display = "" then "Empty" else Naming.pascalCase v.display

/-- The member that is made of a value, which stands in the list at a position, when some names
are taken. -/
inductive IsMade (taken : List String) (order : Nat) : Bool → Value → EnumMember → Prop
  | text {v : Value} (hwritable : v.isWritable = true) : IsMade taken order true v
      ⟨Naming.fresh taken (textMemberName v), v.display, order,
        [⟨enumMemberAttribute, ["Value = " ++ verbatimLiteral v.display]⟩]⟩
  | integer {n : Int} (hwritable : (Value.int n).isWritable = true) :
      IsMade taken order false (.int n)
        ⟨Naming.fresh taken (integerMemberName n), (Value.int n).display, n, []⟩

/-- What a member keeps of a value, which stands in the list at a position. -/
structure IsMember (isText : Bool) (p : Value × Nat) (m : EnumMember) : Prop where
  value : m.value = p.1.display
  text : isText = true → m.ordinal = p.2 ∧ ∃ literal,
    m.attributes = [⟨enumMemberAttribute, ["Value = " ++ literal]⟩]
      ∧ readLiteral literal.toList = some (units p.1.display.toList, [])
  integer : isText = false → p.1 = .int m.ordinal ∧ m.attributes = []

/-- The values of a list that are not null, each with its position; the first of the list stands
at `order`. -/
def standing (order : Nat) (vs : List Value) : List (Value × Nat) :=
  (vs.zipIdx order).filter fun p => !p.1.isNull

theorem standing_cons_of_null {v : Value} (hnull : v.isNull = true) (order : Nat)
    (vs : List Value) : standing order (v :: vs) = standing (order + 1) vs := by
  rw [standing, List.zipIdx_cons, List.filter_cons, hnull, if_neg (by decide), standing]

theorem standing_cons_of_given {v : Value} (hnull : v.isNull = false) (order : Nat)
    (vs : List Value) :
    standing order (v :: vs) = (v, order) :: standing (order + 1) vs := by
  rw [standing, List.zipIdx_cons, List.filter_cons, hnull, if_pos (by decide), standing]

/-- The text of a verbatim literal is read back. -/
theorem readLiteral_verbatimLiteral (s : String) :
    readLiteral (verbatimLiteral s).toList = some (units s.toList, []) := by
  rw [verbatimLiteral, String.toList_ofList]
  exact readVerbatim_doubled s.toList [] (by simp)

section

variable {x : Context} {isText : Bool} {typeName : String} {taken : List String} {order : Nat}
  {v : Value} {vs : List Value} {m : EnumMember} {ms : List EnumMember} {l l' : Ledger} {e : Fault}

@[simp] theorem fails_qualifiedAttribute_iff {name : String} {arguments : List String} :
    Fails (qualifiedAttribute name arguments) l e l' ↔ False := by
  unfold qualifiedAttribute
  rw [fails_bind_iff, fails_useNamespace_iff, false_or, iff_false]
  rintro ⟨_, _, -, hpure⟩
  exact fails_pure_iff.1 hpure

theorem fails_textMember (h : Fails (textMember taken order v) l e l') :
    memberFault? true typeName v = some e := by
  unfold textMember at h
  unfold memberFault?
  cases hwritable : v.isWritable with
  | false =>
    rw [hwritable, if_pos (by decide)] at h
    rw [if_pos (by decide)]
    rcases fails_bind_iff.1 h with hthrow | ⟨_, _, hthrow, -⟩
    · rw [(fails_throw_iff.1 hthrow).1]
    · exact (returns_throw_iff.1 hthrow).elim
  | true =>
    rw [hwritable, if_neg (by decide)] at h
    rcases fails_bind_iff.1 h with hmark | ⟨_, _, -, hpure⟩
    · exact (fails_qualifiedAttribute_iff.1 hmark).elim
    · exact (fails_pure_iff.1 hpure).elim

theorem integerMember_eq_error (h : integerMember taken typeName v = .error e) :
    memberFault? false typeName v = some e := by
  unfold integerMember at h
  unfold memberFault?
  split at h
  next hwritable =>
    cases h
    rw [if_pos hwritable]
  next hwritable =>
    rw [if_neg hwritable, if_neg Bool.false_ne_true]
    cases v with
    | scalar s =>
      cases s with
      | int n => cases h
      | _ =>
        cases h
        rfl
    | _ =>
      cases h
      rfl

theorem returns_enumMember (h : Returns (enumMember isText typeName taken order v) l m l') :
    IsMade taken order isText v m := by
  unfold enumMember at h
  cases isText with
  | true =>
    rw [if_pos rfl, textMember] at h
    split at h
    next =>
      obtain ⟨_, _, hthrow, -⟩ := returns_bind_iff.1 h
      exact (returns_throw_iff.1 hthrow).elim
    next hwritable =>
      obtain ⟨mark, l₁, hmark, h⟩ := returns_bind_iff.1 h
      obtain ⟨rfl, -⟩ := returns_pure_iff.1 h
      rw [qualifiedAttribute, returns_useNamespace_bind_iff] at hmark
      obtain ⟨rfl, -⟩ := returns_pure_iff.1 hmark
      exact .text (by simpa using hwritable)
  | false =>
    obtain ⟨hm, -⟩ := returns_liftFault_iff.1 h
    unfold integerMember at hm
    split at hm
    next => cases hm
    next hwritable =>
      split at hm
      next =>
        cases hm
        exact .integer (by simpa using hwritable)
      next => cases hm

/-- A member that is made is one of its value, under a name that is free. -/
theorem IsMade.spec (h : IsMade taken order isText v m) :
    memberFault? isText typeName v = none ∧ IsMember isText (v, order) m ∧ m.name ∉ taken := by
  cases h with
  | text hwritable =>
    refine ⟨memberFault?_eq_none_iff.2 ⟨hwritable, fun h => absurd h.symm Bool.false_ne_true⟩,
      ⟨rfl, fun _ => ⟨rfl, _, rfl, readLiteral_verbatimLiteral _⟩,
        fun h => absurd h.symm Bool.false_ne_true⟩, ?_⟩
    exact Naming.fresh_not_mem taken _
  | integer hwritable =>
    refine ⟨memberFault?_eq_none_iff.2 ⟨hwritable, fun _ => ⟨_, rfl⟩⟩,
      ⟨rfl, fun h => absurd h Bool.false_ne_true, fun _ => ⟨rfl, rfl⟩⟩, ?_⟩
    exact Naming.fresh_not_mem taken _

theorem fails_enumMember (h : Fails (enumMember isText typeName taken order v) l e l') :
    memberFault? isText typeName v = some e := by
  unfold enumMember at h
  cases isText with
  | true => exact fails_textMember h
  | false => exact integerMember_eq_error (fails_liftFault_iff.1 h).1

/-- The members are those of the values that are not null, one for each and in their order, under
different names that were free. -/
theorem returns_enumMembers (h : Returns (enumMembers isText typeName taken order vs) l ms l') :
    firstFault? isText typeName vs = none
      ∧ List.Forall₂ (IsMember isText) (standing order vs) ms
      ∧ (ms.map (·.name)).Nodup ∧ ∀ m ∈ ms, m.name ∉ taken := by
  induction vs generalizing taken order ms l with
  | nil =>
    obtain ⟨rfl, -⟩ := returns_pure_iff.1 h
    exact ⟨rfl, .nil, .nil, List.forall_mem_nil _⟩
  | cons v vs ih =>
    rw [enumMembers] at h
    cases hnull : v.isNull with
    | true =>
      rw [hnull, if_pos rfl] at h
      rw [standing_cons_of_null hnull, firstFault?_cons_of_none (by rw [hnull, if_pos rfl])]
      exact ih h
    | false =>
      rw [hnull, if_neg Bool.false_ne_true] at h
      obtain ⟨m, l₁, hm, h⟩ := returns_bind_iff.1 h
      obtain ⟨rest, l₂, hrest, h⟩ := returns_bind_iff.1 h
      obtain ⟨rfl, rfl⟩ := returns_pure_iff.1 h
      obtain ⟨hfault, hmember, hfree⟩ := (returns_enumMember hm).spec
      obtain ⟨hfaults, hmembers, hnodup, hothers⟩ := ih hrest
      rw [standing_cons_of_given hnull,
        firstFault?_cons_of_none (by rw [hnull, if_neg Bool.false_ne_true, hfault])]
      refine ⟨hfaults, .cons hmember hmembers, List.nodup_cons.2 ⟨?_, hnodup⟩,
        List.forall_mem_cons.2 ⟨hfree, fun k hk htaken => ?_⟩⟩
      · -- the name is taken when the others are made
        intro hmem
        obtain ⟨k, hk, hname⟩ := List.mem_map.1 hmem
        exact hothers k hk
          (List.mem_append_right _ (by rw [hname]; exact List.mem_singleton_self _))
      · exact hothers k hk (List.mem_append_left _ htaken)

/-- What holds of every member that can be made of a value holds of the members, one for each value
that is not null. -/
theorem forall₂_enumMembers {R : Value → EnumMember → Prop}
    (hmade : ∀ {taken order v m}, IsMade taken order isText v m → R v m)
    (h : Returns (enumMembers isText typeName taken order vs) l ms l') :
    List.Forall₂ R (vs.filter fun v => !v.isNull) ms := by
  induction vs generalizing taken order ms l with
  | nil =>
    obtain ⟨rfl, -⟩ := returns_pure_iff.1 h
    exact .nil
  | cons v vs ih =>
    rw [enumMembers] at h
    by_cases hnull : v.isNull
    · rw [if_pos hnull] at h
      rw [List.filter_cons, if_neg (by simpa using hnull)]
      exact ih h
    · rw [if_neg hnull] at h
      obtain ⟨m, l₁, hm, h⟩ := returns_bind_iff.1 h
      obtain ⟨rest, l₂, hrest, h⟩ := returns_bind_iff.1 h
      obtain ⟨rfl, rfl⟩ := returns_pure_iff.1 h
      rw [List.filter_cons, if_pos (by simpa using hnull)]
      exact .cons (hmade (returns_enumMember hm)) (ih hrest)

/-- If there are no members, the first fault of the values says why. -/
theorem fails_enumMembers (h : Fails (enumMembers isText typeName taken order vs) l e l') :
    firstFault? isText typeName vs = some e := by
  induction vs generalizing taken order l with
  | nil => exact (fails_pure_iff.1 h).elim
  | cons v vs ih =>
    rw [enumMembers] at h
    cases hnull : v.isNull with
    | true =>
      rw [hnull, if_pos rfl] at h
      rw [firstFault?_cons_of_none (by rw [hnull, if_pos rfl])]
      exact ih h
    | false =>
      rw [hnull, if_neg Bool.false_ne_true] at h
      rcases fails_bind_iff.1 h with hm | ⟨m, l₁, hm, h⟩
      · exact firstFault?_cons_of_some hnull (fails_enumMember hm)
      · obtain ⟨hfault, -⟩ := (returns_enumMember hm).spec
        rw [firstFault?_cons_of_none (by rw [hnull, if_neg Bool.false_ne_true, hfault])]
        rcases fails_bind_iff.1 h with hrest | ⟨_, _, -, hpure⟩
        · exact ih hrest
        · exact (fails_pure_iff.1 hpure).elim

/-- Later values stand at later positions. -/
theorem pairwise_standing (order : Nat) (vs : List Value) :
    (standing order vs).Pairwise fun p q => p.2 < q.2 := by
  have hpositions : ((vs.zipIdx order).map (·.2)).Pairwise (· < ·) := by
    rw [List.zipIdx_map_snd]
    exact List.pairwise_lt_range'
  exact (List.pairwise_map.1 hpositions).sublist List.filter_sublist

end

/-! ## Enumerations -/

section

variable {x : Context} {typeName : String} {schema : Value} {l l' : Ledger} {e : Fault}

/-- The comment of a schema is no obstacle: it is not wanted, not given, or a text. -/
def CommentFits (x : Context) (schema : Value) : Prop :=
  x.settings.generateXmlDocComments = true →
    (schema.memberOrNull "description").isGiven = true →
    ∃ s, Validation.text (schema.memberOrNull "description") = .ok s

theorem returns_schemaDoc {doc : Option DocComment} (h : Returns (schemaDoc x schema) l doc l') :
    CommentFits x schema := by
  intro hcomments hgiven
  unfold schemaDoc at h
  extract_lets description at h
  rw [hcomments, hgiven, if_neg (by decide)] at h
  cases htext : Validation.text (schema.memberOrNull "description") with
  | ok s => exact ⟨s, rfl⟩
  | _ =>
    rw [htext] at h
    cases h

theorem fails_schemaDoc (h : Fails (schemaDoc x schema) l e l') :
    ¬ CommentFits x schema ∧ ¬ e.IsEmission := by
  unfold schemaDoc at h
  extract_lets description at h
  split at h
  next => exact (fails_pure_iff.1 h).elim
  next hwanted =>
    have hfits : CommentFits x schema → ∃ s, Validation.text description = .ok s := by
      intro hfits
      rw [Bool.or_eq_true, not_or, Bool.not_eq_true', Bool.not_eq_true', Bool.not_eq_false,
        Bool.not_eq_false] at hwanted
      exact hfits hwanted.1 hwanted.2
    cases htext : Validation.text description with
    | ok s =>
      rw [htext] at h
      exact (fails_pure_iff.1 h).elim
    | _ =>
      rw [htext] at h
      obtain ⟨rfl, -⟩ := fails_throw_iff.1 h
      refine ⟨fun hcomment => ?_, id⟩
      obtain ⟨s, hs⟩ := hfits hcomment
      cases htext.symm.trans hs

/-- Whether an enumeration is written as texts: its schema states that type, or none. -/
def isTextual (schema : Value) : Bool := schema.hasNoType || schema.hasType "string"

/-- The other enumerations are those of integers. -/
theorem isTextual_eq_false_iff (henum : schema.isEnumSchema = true) :
    isTextual schema = false ↔ schema.hasType "integer" = true := by
  rw [Value.isEnumSchema, Bool.and_eq_true, Bool.or_eq_true] at henum
  unfold isTextual
  constructor
  · intro htext
    exact henum.2.resolve_left fun h => absurd (h.symm.trans htext) (by decide)
  · intro hinteger
    rw [Value.hasType, beq_iff_eq] at hinteger
    have hnull : schema.hasNoType = false := by
      unfold Value.hasNoType
      cases htype : schema.schemaType with
      | scalar s =>
        cases s with
        | null =>
          rw [htype] at hinteger
          cases hinteger
        | _ => rfl
      | _ => rfl
    rw [hnull, Value.hasType, hinteger]
    decide

/-- What an enumeration is made of: the members of what its schema lists, and its comment. -/
theorem parts_of_enumDecl {d : EnumDecl} (h : Returns (enumDecl x typeName schema) l d l') :
    ∃ vs l₁ l₂, listedValues schema = .ok vs
      ∧ Returns (enumMembers (isTextual schema) typeName [] 0 vs) l₁ d.members l₂
      ∧ Returns (schemaDoc x schema) l₂ d.doc l' := by
  unfold enumDecl at h
  obtain ⟨generated, l₁, -, h⟩ := returns_bind_iff.1 h
  obtain ⟨converter, l₂, -, h⟩ := returns_bind_iff.1 h
  obtain ⟨vs, hvalues, h⟩ := returns_liftShape_bind_iff.1 h
  obtain ⟨members, l₃, hmembers, h⟩ := returns_bind_iff.1 h
  obtain ⟨doc, l₄, hdoc, h⟩ := returns_bind_iff.1 h
  obtain ⟨rfl, rfl⟩ := returns_pure_iff.1 h
  exact ⟨vs, l₂, l₃, hvalues, hmembers, hdoc⟩

theorem returns_enumDecl {d : EnumDecl} (h : Returns (enumDecl x typeName schema) l d l') :
    ∃ vs, listedValues schema = .ok vs ∧ firstFault? (isTextual schema) typeName vs = none
      ∧ CommentFits x schema ∧ List.Forall₂ (IsMember (isTextual schema)) (standing 0 vs) d.members
      ∧ (d.members.map (·.name)).Nodup := by
  obtain ⟨vs, l₁, l₂, hvalues, hmembers, hdoc⟩ := parts_of_enumDecl h
  obtain ⟨hfault, hall, hnodup, -⟩ := returns_enumMembers hmembers
  exact ⟨vs, hvalues, hfault, returns_schemaDoc hdoc, hall, hnodup⟩

theorem fails_enumDecl (h : Fails (enumDecl x typeName schema) l e l') :
    (∃ f, listedValues schema = .error f ∧ e = .shape f)
      ∨ ∃ vs, listedValues schema = .ok vs ∧ (firstFault? (isTextual schema) typeName vs = some e
        ∨ firstFault? (isTextual schema) typeName vs = none ∧ ¬ CommentFits x schema
          ∧ ¬ e.IsEmission) := by
  unfold enumDecl converterAttributes at h
  -- the attributes cannot fail, and the comment is made last
  rcases fails_bind_iff.1 h with hgenerated | ⟨generated, l₁, -, h⟩
  · exact (fails_qualifiedAttribute_iff.1 hgenerated).elim
  rcases fails_bind_iff.1 h with hconverter | ⟨converter, l₂, -, h⟩
  · split at hconverter
    · rcases fails_bind_iff.1 hconverter with hmark | ⟨_, _, -, hpure⟩
      · exact (fails_qualifiedAttribute_iff.1 hmark).elim
      · exact (fails_pure_iff.1 hpure).elim
    · exact (fails_pure_iff.1 hconverter).elim
  rcases fails_bind_iff.1 h with hvalues | ⟨vs, l₃, hvalues, h⟩
  · exact .inl (fails_liftShape_iff.1 hvalues).1
  refine .inr ⟨vs, (returns_liftShape_iff.1 hvalues).1, ?_⟩
  rcases fails_bind_iff.1 h with hmembers | ⟨members, l₄, hmembers, h⟩
  · exact .inl (fails_enumMembers hmembers)
  obtain ⟨hfault, -⟩ := returns_enumMembers hmembers
  rcases fails_bind_iff.1 h with hdoc | ⟨_, _, -, hpure⟩
  · exact .inr ⟨hfault, fails_schemaDoc hdoc⟩
  · exact (fails_pure_iff.1 hpure).elim

/-- The members of an enumeration for the values of a list. -/
structure Represents (isText : Bool) (vs : List Value) (ms : List EnumMember) : Prop where
  members : List.Forall₂ (IsMember isText) (standing 0 vs) ms
  distinct : (ms.map (·.name)).Nodup
  increasing : isText = true → (ms.map (·.ordinal)).Pairwise (· < ·)

theorem ordinals_eq {ps : List (Value × Nat)} {ms : List EnumMember}
    (h : List.Forall₂ (IsMember true) ps ms) :
    ms.map (·.ordinal) = ps.map fun p => (p.2 : Int) := by
  induction h with
  | nil => rfl
  | cons hmember _ ih => rw [List.map_cons, List.map_cons, (hmember.text rfl).1, ih]

theorem represents_of_members {isText : Bool} {vs : List Value} {ms : List EnumMember}
    (hmembers : List.Forall₂ (IsMember isText) (standing 0 vs) ms)
    (hdistinct : (ms.map (·.name)).Nodup) : Represents isText vs ms := by
  refine ⟨hmembers, hdistinct, ?_⟩
  rintro rfl
  rw [ordinals_eq hmembers, List.pairwise_map]
  exact (pairwise_standing 0 vs).imp fun h => Int.ofNat_lt.2 h

/-- **What an enumeration keeps.**  It is refused exactly if it is one of integers and a value that
is no integer is met before one that is too long.  It is made exactly if all values that are not
null can be written out and, where integers are wanted, are integers, and its comment fits.  Then it
has one member for each of these values, in their order and under different names; the member of a
text says the place of its value and gives it back, and that of an integer says the value. -/
theorem enumDecl_represents (x : Context) (typeName : String) {schema : Value} (l : Ledger)
    (henum : schema.isEnumSchema = true) :
    ((∃ e l', Fails (enumDecl x typeName schema) l e l' ∧ e.IsEmission) ↔
        schema.hasType "integer" = true ∧ ∃ vs, listedValues schema = .ok vs ∧ MeetsNonInteger vs)
      ∧ ((∃ d l', Returns (enumDecl x typeName schema) l d l') ↔
        CommentFits x schema ∧ ∃ vs, listedValues schema = .ok vs
          ∧ ∀ v ∈ vs, v.isNull = false → v.isWritable = true
            ∧ (schema.hasType "integer" = true → v.IsInteger))
      ∧ ∀ d l', Returns (enumDecl x typeName schema) l d l' →
        ∃ vs, listedValues schema = .ok vs ∧ Represents (isTextual schema) vs d.members := by
  rw [← isTextual_eq_false_iff henum]
  refine ⟨⟨?_, ?_⟩, ⟨?_, ?_⟩, ?_⟩
  · rintro ⟨e, l', h, he⟩
    rcases fails_enumDecl h with ⟨f, -, rfl⟩ | ⟨vs, hvalues, hfault | ⟨-, -, hno⟩⟩
    · exact he.elim
    · obtain ⟨htext, hmeets⟩ := firstFault?_isEmission_iff.1 ⟨e, hfault, he⟩
      exact ⟨htext, vs, hvalues, hmeets⟩
    · exact absurd he hno
  · rintro ⟨htext, vs, hvalues, hmeets⟩
    obtain ⟨e, hfault, he⟩ : ∃ e, firstFault? (isTextual schema) typeName vs = some e
        ∧ e.IsEmission := firstFault?_isEmission_iff.2 ⟨htext, hmeets⟩
    -- what is returned has no fault among its values, and what fails has this one
    rcases returns_or_fails (enumDecl x typeName schema) l with ⟨d, l', h⟩ | ⟨e', l', h⟩
    · obtain ⟨ws, hws, hnone, -⟩ := returns_enumDecl h
      cases hvalues.symm.trans hws
      cases hfault.symm.trans hnone
    · refine ⟨e', l', h, ?_⟩
      rcases fails_enumDecl h with ⟨f, hf, -⟩ | ⟨ws, hws, hsome | ⟨hnone, -, -⟩⟩
      · cases hvalues.symm.trans hf
      · cases hvalues.symm.trans hws
        cases hfault.symm.trans hsome
        exact he
      · cases hvalues.symm.trans hws
        cases hfault.symm.trans hnone
  · rintro ⟨d, l', h⟩
    obtain ⟨vs, hvalues, hnone, hcomment, -⟩ := returns_enumDecl h
    exact ⟨hcomment, vs, hvalues, firstFault?_eq_none_iff.1 hnone⟩
  · rintro ⟨hcomment, vs, hvalues, hall⟩
    have hnone : firstFault? (isTextual schema) typeName vs = none :=
      firstFault?_eq_none_iff.2 hall
    -- a fault would have to be among the values, or in the comment
    rcases returns_or_fails (enumDecl x typeName schema) l with h | ⟨e, l', h⟩
    · exact h
    · rcases fails_enumDecl h with ⟨f, hf, -⟩ | ⟨ws, hws, hsome | ⟨-, hno, -⟩⟩
      · cases hvalues.symm.trans hf
      · cases hvalues.symm.trans hws
        cases hnone.symm.trans hsome
      · exact absurd hcomment hno
  · intro d l' h
    obtain ⟨vs, hvalues, -, -, hmembers, hdistinct⟩ := returns_enumDecl h
    exact ⟨vs, hvalues, represents_of_members hmembers hdistinct⟩

end

/-- Colors, one of which is null, and two of which are written alike. -/
def colors : List Value :=
  [.text "dark red", .null, .text "DarkRed", .text "so-called \"red\""]

def colorSchema : Value :=
  .object 0 [(.text "type", .text "string"), (.text "enum", .list colors)]

/-- A run on a document without schemas. -/
def colorContext : Context := .of { openApiPath := "colors.json" } default

theorem enumDecl_represents_colors :
    ∃ d l', Returns (enumDecl colorContext "Color" colorSchema) {} d l'
      ∧ d.members.map (·.ordinal) = [0, 2, 3] ∧ Represents true colors d.members := by
  have henum : colorSchema.isEnumSchema = true := rfl
  obtain ⟨-, hreturns, hrepresents⟩ := enumDecl_represents colorContext "Color" {} henum
  have hcomment : CommentFits colorContext colorSchema := by
    intro _ hgiven
    cases hgiven
  have hwritable : ∀ v ∈ colors, v.isWritable = true := by decide
  obtain ⟨d, l', h⟩ := hreturns.2 ⟨hcomment, colors, rfl, fun v hv _ =>
    ⟨hwritable v hv, fun hinteger => by cases hinteger⟩⟩
  obtain ⟨vs, hvalues, hmembers⟩ := hrepresents d l' h
  cases hvalues
  refine ⟨d, l', h, ?_, hmembers⟩
  rw [ordinals_eq hmembers.members]
  rfl

/-- An enumeration of texts whose description is a number. -/
def numberedSchema : Value :=
  .object 0 [(.text "type", .text "string"), (.text "enum", .list [.text "red"]),
    (.text "description", .int 5)]

/-- An enumeration of integers with an integer that is too long before a value that is none. -/
def lengthySchema : Value :=
  .object 0 [(.text "type", .text "integer"),
    (.text "enum", .list [.int Scalar.writtenEnd, .bool true])]

/-- Neither is an enumeration of texts always made, nor one of integers always refused for a value
that is no integer. -/
theorem enumDecl_strays :
    (numberedSchema.isEnumSchema = true ∧ numberedSchema.hasType "integer" = false
      ∧ ¬ ∃ d l', Returns (enumDecl colorContext "Color" numberedSchema) {} d l')
      ∧ lengthySchema.isEnumSchema = true ∧ lengthySchema.hasType "integer" = true
      ∧ (∃ vs, listedValues lengthySchema = .ok vs ∧ Value.bool true ∈ vs)
      ∧ ¬ ∃ e l', Fails (enumDecl colorContext "Level" lengthySchema) {} e l' ∧ e.IsEmission := by
  refine ⟨⟨rfl, rfl, ?_⟩, rfl, rfl,
    ⟨_, rfl, List.mem_cons_of_mem _ List.mem_cons_self⟩, ?_⟩
  · -- the description is a number, and so it cannot be the comment
    rintro ⟨d, l', h⟩
    obtain ⟨vs, -, -, hcomment, -⟩ := returns_enumDecl h
    obtain ⟨s, hs⟩ := hcomment rfl rfl
    cases hs
  · rintro ⟨e, l', h, he⟩
    rcases fails_enumDecl h with ⟨f, hf, -⟩ | ⟨vs, hvalues, hfault | ⟨-, -, hno⟩⟩
    · cases hf
    · cases hvalues
      -- the integer that is too long comes first and ends the work
      obtain ⟨-, hmeets⟩ := firstFault?_isEmission_iff.1 ⟨e, hfault, he⟩
      have hwritable := (meetsNonInteger_cons_iff.1 hmeets).1
      rw [Value.isWritable, Scalar.isWritable, Int.natAbs_natCast, decide_eq_true_iff] at hwritable
      exact Nat.lt_irrefl _ hwritable
    · exact hno he

end Generate

end OpenApiClient
