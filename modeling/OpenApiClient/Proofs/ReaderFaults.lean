/-
The faults that reading the operations of a document ends with.

A value of the wrong kind can stand anywhere, and what is done with it differs from place to place.
The reader turns each such failure into a fault that is about the location of the document.  What
it does not turn into one comes from following references, which may stop for reasons of its own.

`Gives` is the contract of one part of the reading: begun in an opened library it fails only in
one of these two ways, and what it gives is true of the library that it leaves.  Contracts are put
together like the parts are, so the reader is gone through once.  The weak place is the codes of
responses, which are sorted as texts: a key that has no text would stop the reading with a fault
about nothing, and only because JSON has no such keys it never does.
-/
import OpenApiClient.Proofs.Looks
import OpenApiClient.Proofs.Opened
import OpenApiClient.Source.Load

set_option autoImplicit false

namespace OpenApiClient.Document

open Reference (Library Node)
open Validation (Checked)

/-! ## Faults -/

/-- A fault is reported as one about the location of the document. -/
def Fault.IsReported (f : Fault) : Prop := (Source.LoadFault.document f).isAboutLocation = true

/-- A fault is that of following a reference which stands in a document that was opened, or the
document itself is nested too deeply for its references to be found. -/
def Blamed (files : Source.Files) (raw : Value) (f : Fault) : Prop :=
  (raw.isTooDeep = true ∧ f = .endless)
    ∨ ∃ l n, l.Opened files raw ∧ l.Holds n ∧ n.isReference = true ∧ (settle n).run l = .error f

/-- A fault that is reported, or that following references is to blame for. -/
def Answered (files : Source.Files) (raw : Value) (f : Fault) : Prop :=
  f.IsReported ∨ Blamed files raw f

/-- Fields that are checked together give a fault that is reported. -/
theorem isReported_of_check {α : Type} {part : String} {c : Checked α} {f : Fault}
    (h : check part c = .error f) : f.IsReported := by
  cases c with
  | ok a => cases h
  | faults x xs =>
    cases h
    rfl
  | stopped =>
    cases h
    rfl

/-! ## The contract of a part of the reading -/

variable {files : Source.Files} {raw : Value} {l : Library}

/-- Begun in an opened library, a computation fails only with faults that are answered for, and if
it succeeds it leaves an opened library that is at least as large and of which `Q` is true. -/
def Gives (files : Source.Files) (raw : Value) {α : Type} (Q : Library → α → Prop)
    (m : Reading α) (l : Library) : Prop :=
  l.Opened files raw →
    (∀ f, m.run l = .error f → Answered files raw f)
      ∧ ∀ a l', Runs m l a l' → l'.Opened files raw ∧ l.Extends l' ∧ Q l' a

/-- The same where nothing needs to be known of what is given. -/
abbrev Careful (files : Source.Files) (raw : Value) {α : Type} (m : Reading α) (l : Library) :
    Prop := Gives files raw (fun _ _ => True) m l

namespace Gives

variable {α β : Type} {Q : Library → α → Prop} {R : Library → β → Prop} {m : Reading α}

/-- A computation that succeeds. -/
theorem of_ok {a : α} {l' : Library} (hrun : m.run l = .ok (a, l'))
    (h : l.Opened files raw → l'.Opened files raw ∧ l.Extends l' ∧ Q l' a) :
    Gives files raw Q m l := by
  intro hl
  refine ⟨?_, ?_⟩
  · intro f hf
    rw [hrun] at hf
    cases hf
  · intro b l'' hb
    obtain ⟨rfl, rfl⟩ := Runs.unique hrun hb
    exact h hl

/-- A computation that fails. -/
theorem of_error {f : Fault} (hrun : m.run l = .error f) (h : Answered files raw f) :
    Gives files raw Q m l := by
  intro hl
  refine ⟨?_, ?_⟩
  · intro f' hf
    rw [hrun] at hf
    cases hf
    exact h
  · intro a l' ha
    rw [Runs, hrun] at ha
    cases ha

theorem pure {a : α} (h : Q l a) : Gives files raw Q (Pure.pure a) l :=
  .of_ok rfl fun hl => ⟨hl, .refl _, h⟩

theorem throw {f : Fault} (h : f.IsReported) : Gives files raw Q (throw f : Reading α) l :=
  .of_error rfl (.inl h)

/-- What is misused is reported. -/
theorem misused (x : Misuse) : Gives files raw Q (misused x : Reading α) l := .throw rfl

theorem bind {k : α → Reading β} (hm : Gives files raw Q m l)
    (hk : ∀ a l', l.Extends l' → Q l' a → Gives files raw R (k a) l') :
    Gives files raw R (m >>= k) l := by
  intro hl
  obtain ⟨hfails, hgives⟩ := hm hl
  refine ⟨?_, ?_⟩
  · intro f hf
    rw [StateT.run_bind, bind_eq_error_iff] at hf
    rcases hf with hf | ⟨⟨a, l'⟩, hrun, hf⟩
    · exact hfails f hf
    · obtain ⟨hl', hext, ha⟩ := hgives a l' hrun
      exact (hk a l' hext ha hl').1 f hf
  · intro b l'' hrun
    obtain ⟨a, l', ha, hb⟩ := runs_bind_iff.1 hrun
    obtain ⟨hl', hext, hQ⟩ := hgives a l' ha
    obtain ⟨hl'', hext', hR⟩ := (hk a l' hext hQ hl').2 b l'' hb
    exact ⟨hl'', hext.trans hext', hR⟩

/-- What is looked at first is the library that the computation begins in. -/
theorem get_bind {k : Library → Reading β} (h : Gives files raw R (k l) l) :
    Gives files raw R (get >>= k) l := h

/-- The last step of a part of which nothing needs to be known. -/
theorem map (hm : Gives files raw Q m l) (g : α → β) : Careful files raw (g <$> m) l := by
  rw [map_eq_pure_bind]
  exact hm.bind fun a l' _ _ => .pure trivial

theorem mapM {g : α → Reading β} {xs : List α}
    (hg : ∀ a ∈ xs, ∀ l', l.Extends l' → Careful files raw (g a) l') :
    Careful files raw (xs.mapM g) l := by
  induction xs generalizing l with
  | nil => exact .pure trivial
  | cons a xs ih =>
    rw [List.mapM_cons]
    refine (hg a List.mem_cons_self l (.refl _)).bind fun b l₁ hext _ => ?_
    have hrest : Careful files raw (xs.mapM g) l₁ :=
      ih fun a' ha' l' hext' => hg a' (List.mem_cons_of_mem _ ha') l' (hext.trans hext')
    exact hrest.bind fun bs l₂ _ _ => .pure trivial

end Gives

theorem careful_finished {α : Type} (part : String) (c : Checked α) :
    Careful files raw (finished part c) l := by
  unfold finished
  cases hc : check part c with
  | ok a => exact .of_ok rfl fun hl => ⟨hl, .refl _, trivial⟩
  | error f => exact .of_error rfl (.inl (isReported_of_check hc))

/-! ## Looking at places -/

/-- What is no reference stands for itself. -/
theorem run_settle_of_plain {n : Node} (h : n.value.reference? = none) :
    (settle n).run l = .ok (n, l) :=
  runs_settle_iff.2 ((Reference.runs_settleWith_of_plain h).2 ⟨rfl, rfl⟩)

theorem gives_settle {n : Node} (hn : l.Knows n) :
    Gives files raw (fun l' m => l'.Knows m) (settle n) l := by
  by_cases href : n.isReference = true
  · intro hl
    refine ⟨?_, ?_⟩
    · intro f hf
      rcases hn with hn | ⟨s, hs⟩
      · exact .inr (.inr ⟨l, n, hl, hn, href, hf⟩)
      · -- a scalar is no reference
        rw [Node.isReference, hs] at href
        cases href
    · intro m l' hrun
      exact hl.settle hn (runs_settle_iff.1 hrun)
  · have hrun := run_settle_of_plain (l := l) (Option.not_isSome_iff_eq_none.1 href)
    exact .of_ok hrun fun hl => ⟨hl, .refl _, hn⟩

/-- A reference that cannot be followed is no fault where only something is shown. -/
theorem gives_settle? {n : Node} (hn : l.Knows n) :
    Gives files raw (fun l' m => ∀ n' ∈ m, l'.Knows n') (settled? n) l := by
  cases hsettle : (settle n).run l with
  | ok r =>
    obtain ⟨m, l'⟩ := r
    have hrun : (settled? n).run l = .ok (some m, l') := by
      unfold settled?
      rw [StateT.run, hsettle]
    refine .of_ok hrun fun hl => ?_
    obtain ⟨hl', hext, hm⟩ := (gives_settle hn hl).2 m l' hsettle
    refine ⟨hl', hext, ?_⟩
    intro n' heq
    cases heq
    exact hm
  | error f =>
    have hrun : (settled? n).run l = .ok (none, l) := by
      unfold settled?
      rw [StateT.run, hsettle]
    exact .of_ok hrun fun hl => ⟨hl, .refl _, fun n' hn' => by cases hn'⟩

theorem gives_partsOf {n : Node} (hn : l.Knows n) :
    Gives files raw (fun l' ns => ∀ m ∈ ns, l'.Knows m) (partsOf n) l := by
  refine (gives_settle hn).bind fun m l' _ hm => ?_
  split
  next vs hparts => exact .pure (hm.children hparts)
  next => exact .misused _

theorem gives_partsOfOptional {n : Option Node} (hn : ∀ m ∈ n, l.Knows m) :
    Gives files raw (fun l' ns => ∀ m ∈ ns, l'.Knows m) (partsOfOptional n) l := by
  cases n with
  | none => exact .pure fun m hm => by cases hm
  | some n => exact gives_partsOf (hn n rfl)

theorem careful_isGiven {n : Node} (hn : l.Knows n) : Careful files raw (isGiven n) l :=
  (gives_settle hn).bind fun _ _ _ _ => .pure trivial

theorem careful_isGivenOr (default : Bool) {n : Option Node} (hn : ∀ m ∈ n, l.Knows m) :
    Careful files raw (isGivenOr default n) l := by
  cases n with
  | none => exact .pure trivial
  | some n => exact careful_isGiven (hn n rfl)

theorem careful_holdsText (name : String) {ns : List Node} (hns : ∀ n ∈ ns, l.Knows n) :
    Careful files raw (holdsText name ns) l := by
  induction ns generalizing l with
  | nil => exact .pure trivial
  | cons n ns ih =>
    obtain ⟨hn, hrest⟩ := List.forall_mem_cons.1 hns
    rw [holdsText]
    refine (gives_settle hn).bind fun m l' hext _ => ?_
    split
    · exact .pure trivial
    · exact ih fun n' hn' => (hrest n' hn').extends hext

/-! ### What a report shows -/

theorem careful_eachShown {shown : Node → Reading (Option String)}
    (hshown : ∀ n l', l'.Knows n → Careful files raw (shown n) l') {ns : List Node}
    (hns : ∀ n ∈ ns, l.Knows n) : Careful files raw (eachShown shown ns) l := by
  induction ns generalizing l with
  | nil => exact .pure trivial
  | cons n ns ih =>
    obtain ⟨hn, hrest⟩ := List.forall_mem_cons.1 hns
    rw [eachShown]
    refine (hshown n l hn).bind fun s l' hext _ => ?_
    split
    · exact .pure trivial
    · have hlater : Careful files raw (eachShown shown ns) l' :=
        ih fun n' hn' => (hrest n' hn').extends hext
      exact hlater.bind fun _ _ _ _ => .pure trivial

theorem careful_literalOf (fuel : Nat) (around : List Node) {n : Node} (hn : l.Knows n) :
    Careful files raw (literalOf fuel around n) l := by
  induction fuel generalizing around n l with
  | zero => exact .pure trivial
  | succ fuel ih =>
    rw [literalOf]
    refine (gives_settle? hn).bind fun found l' _ hfound => ?_
    split
    · exact .pure trivial
    next m =>
      have hm : l'.Knows m := hfound m rfl
      dsimp only
      split
      next k ms hvalue =>
        split
        · exact .pure trivial
        · have hparts := hm.memberValues hvalue
          refine (careful_eachShown (fun n' _ hn' => ih _ hn') hparts).bind ?_
          exact fun _ _ _ _ => .pure trivial
      next items hvalue =>
        split
        · exact .pure trivial
        · have hparts : ∀ n' ∈ m.children items, l'.Knows n' :=
            hm.children (by rw [hvalue]; rfl)
          refine (careful_eachShown (fun n' _ hn' => ih _ hn') hparts).bind ?_
          exact fun _ _ _ _ => .pure trivial
      · exact .pure trivial

theorem careful_exhibit {n : Node} (hn : l.Knows n) : Careful files raw (exhibit n) l :=
  (careful_literalOf _ _ hn).bind fun _ _ _ _ => .pure trivial

theorem careful_text {n : Node} (hn : l.Knows n) : Careful files raw (text n) l := by
  unfold text
  split
  · exact (careful_literalOf _ _ hn).bind fun _ _ _ _ => .pure trivial
  · split
    · exact (careful_exhibit hn).bind fun _ _ _ _ => .pure trivial
    · exact .pure trivial

theorem careful_optionalText {n : Option Node} (hn : ∀ m ∈ n, l.Knows m) :
    Careful files raw (optionalText n) l := by
  cases n with
  | none => exact .pure trivial
  | some n =>
    rw [optionalText]
    split
    · exact .pure trivial
    · exact (careful_text (hn n rfl)).map _

/-! ### The halves of a key -/

theorem careful_keyPart {n : Option Node} (hn : ∀ m ∈ n, l.Knows m) :
    Careful files raw (KeyPart.ofNode n) l := by
  cases n with
  | none => exact .pure trivial
  | some n =>
    refine (gives_settle (hn n rfl)).bind fun found l' _ _ => ?_
    split
    · exact .pure trivial
    · exact .misused _

/-! ## Members of objects

From here on it counts that all documents are JSON, in which the keys of an object are texts. -/

section Reading

variable (hraw : raw.Decoded)
include hraw

theorem gives_membersFor (name : String) {n : Node} (hn : l.Knows n) :
    Gives files raw (fun l' ms => l'.KnowsMembers ms) (membersFor name n) l := by
  intro hl
  refine Gives.bind (gives_settle hn) (fun m l' hext hm => ?_) hl
  split
  next k ms hvalue =>
    intro hl'
    exact Gives.pure (hm.memberNodes (hl'.decoded hraw) hvalue) hl'
  next => exact .misused _

theorem gives_membersOfOptional (name : String) {n : Option Node} (hn : ∀ m ∈ n, l.Knows m) :
    Gives files raw (fun l' ms => l'.KnowsMembers ms) (membersOfOptional name n) l := by
  cases n with
  | none => exact .pure fun m hm => by cases hm
  | some n => exact gives_membersFor hraw name (hn n rfl)

theorem gives_partNamed? {n : Node} (hn : l.Knows n) (name : String) :
    Gives files raw (fun l' m => ∀ n' ∈ m, l'.Knows n') (partNamed? n name) l := by
  have hnone : ∀ l' : Library, ∀ n' ∈ (none : Option Node), l'.Knows n' := by
    intro l' n' hn'
    cases hn'
  refine (gives_settle hn).bind fun m l' _ hm => ?_
  split
  next k ms hvalue =>
    intro hl'
    have hms := hm.memberNodes (hl'.decoded hraw) hvalue
    exact Gives.pure (hms.find? name) hl'
  next items hvalue =>
    have hitems : ∀ n' ∈ m.children items, l'.Knows n' :=
      hm.children (by rw [hvalue]; rfl)
    -- of a list it is asked whether the name is one of its texts
    refine (careful_holdsText name hitems).bind fun holds l'' _ _ => ?_
    split
    · exact .misused _
    · exact .pure (hnone l'')
  · split
    · exact .misused _
    · exact .pure (hnone l')
  · split
    · exact .misused _
    · exact .pure (hnone l')
  · exact .misused _

/-! ## Bodies and responses -/

theorem gives_preferredMedia {content : Node} (hcontent : l.Knows content) (types : List String) :
    Gives files raw (fun l' m => ∀ n ∈ m, l'.Knows n) (preferredMedia content types) l := by
  induction types generalizing l with
  | nil => exact .pure fun n hn => by cases hn
  | cons type types ih =>
    rw [preferredMedia]
    refine (gives_partNamed? hraw hcontent type).bind fun media l' hext hmedia => ?_
    split
    · exact .pure hmedia
    · exact ih (hcontent.extends hext)

theorem careful_firstSchema {ms : List (Scalar × Node)} (hms : l.KnowsMembers ms) :
    Careful files raw (firstSchema ms) l := by
  induction ms generalizing l with
  | nil => exact .pure trivial
  | cons m ms ih =>
    obtain ⟨hm, hrest⟩ := List.forall_mem_cons.1 hms
    rw [firstSchema]
    refine (gives_partNamed? hraw hm.2 "schema").bind fun n l' hext _ => ?_
    split
    · exact .pure trivial
    · exact ih (Library.KnowsMembers.extends hrest hext)

theorem careful_contentSchema {content : Option Node} (hcontent : ∀ n ∈ content, l.Knows n) :
    Careful files raw (contentSchema content) l := by
  cases content with
  | none => exact .pure trivial
  | some n =>
    have hn : l.Knows n := hcontent n rfl
    refine (careful_isGiven hn).bind fun given l₁ hext₁ _ => ?_
    split
    · exact .pure trivial
    · have hn₁ := hn.extends hext₁
      refine (gives_preferredMedia hraw hn₁ _).bind fun media l₂ hext₂ hmedia => ?_
      split
      next media =>
        refine (gives_membersFor hraw _ (hmedia media rfl)).bind fun ms l₃ _ _ => ?_
        exact .pure trivial
      next =>
        refine (gives_membersFor hraw _ (hn₁.extends hext₂)).bind fun ms l₃ _ hms => ?_
        exact careful_firstSchema hraw hms

theorem careful_successSchema {rs : List (Scalar × Node)} (hrs : l.KnowsMembers rs) :
    Careful files raw (successSchema rs) l := by
  induction rs generalizing l with
  | nil => exact .pure trivial
  | cons r rs ih =>
    obtain ⟨code, response⟩ := r
    obtain ⟨hr, hrest⟩ := List.forall_mem_cons.1 hrs
    rw [successSchema]
    split
    · exact ih hrest
    · refine (gives_membersFor hraw _ hr.2).bind fun ms l₁ hext₁ hms => ?_
      refine (careful_contentSchema hraw (hms.find? _)).bind fun schema l₂ hext₂ _ => ?_
      split
      · exact .pure trivial
      · exact ih (Library.KnowsMembers.extends hrest (hext₁.trans hext₂))

/-- The codes of responses are texts, so all of them can be sorted as texts. -/
theorem careful_responseSchema {responses : Option Node} (hn : ∀ m ∈ responses, l.Knows m) :
    Careful files raw (responseSchema responses) l := by
  refine (gives_membersOfOptional hraw _ hn).bind fun ms l' _ hms => ?_
  have hwritable : (ms.any fun m => !m.1.isWritable) = false := by
    rw [List.any_eq_false]
    intro m hm
    obtain ⟨⟨s, hs⟩, -⟩ := hms m hm
    rw [hs]
    exact Bool.false_ne_true
  rw [hwritable]
  show Careful files raw (successSchema _) l'
  apply careful_successSchema hraw
  intro m hm
  exact hms m (List.mem_mergeSort.1 hm)

/-! ## Parameters -/

theorem gives_rawParameter {n : Node} (hn : l.Knows n) :
    Gives files raw (fun l' p => l'.KnowsMembers p.members) (rawParameter n) l := by
  refine (gives_membersFor hraw _ hn).bind fun ms l₁ _ hms => ?_
  refine (careful_keyPart (hms.find? _)).bind fun name l₂ hext₂ _ => ?_
  have hms₂ := hms.extends hext₂
  refine (careful_keyPart (hms₂.find? _)).bind fun location l₃ hext₃ _ => ?_
  exact .pure (hms₂.extends hext₃)

omit hraw in
/-- A parameter that is replaced keeps its name and its place, and known members are known. -/
theorem knowsMembers_addParameter {ps : List RawParameter} {p : RawParameter}
    (hps : ∀ q ∈ ps, l.KnowsMembers q.members) (hp : l.KnowsMembers p.members) :
    ∀ q ∈ addParameter ps p, l.KnowsMembers q.members := by
  induction ps with
  | nil =>
    intro q hq
    rw [addParameter, List.mem_singleton] at hq
    rw [hq]
    exact hp
  | cons first rest ih =>
    obtain ⟨hfirst, hrest⟩ := List.forall_mem_cons.1 hps
    rw [addParameter]
    split
    · exact List.forall_mem_cons.2 ⟨hp, hrest⟩
    · exact List.forall_mem_cons.2 ⟨hfirst, ih hrest⟩

theorem gives_addParameters {acc : List RawParameter} {ns : List Node}
    (hacc : ∀ p ∈ acc, l.KnowsMembers p.members) (hns : ∀ n ∈ ns, l.Knows n) :
    Gives files raw (fun l' ps => ∀ p ∈ ps, l'.KnowsMembers p.members) (addParameters acc ns)
      l := by
  induction ns generalizing acc l with
  | nil => exact .pure hacc
  | cons n ns ih =>
    obtain ⟨hn, hrest⟩ := List.forall_mem_cons.1 hns
    rw [addParameters]
    refine (gives_rawParameter hraw hn).bind fun p l' hext hp => ?_
    apply ih
    · exact knowsMembers_addParameter (fun q hq => (hacc q hq).extends hext) hp
    · intro n' hn'
      exact (hrest n' hn').extends hext

omit hraw in
theorem careful_readParameter {p : RawParameter} (hp : l.KnowsMembers p.members) :
    Careful files raw (readParameter p) l := by
  refine (careful_isGivenOr _ (hp.find? _)).bind fun required l' hext _ => ?_
  refine (careful_optionalText ((hp.extends hext).find? _)).bind fun description _ _ _ => ?_
  exact careful_finished _ _

omit hraw in
theorem careful_readMerged {body : Value} {ps : List RawParameter}
    (hps : ∀ p ∈ ps, l.KnowsMembers p.members) : Careful files raw (readMerged body ps) l := by
  induction ps generalizing body l with
  | nil => exact .pure trivial
  | cons p ps ih =>
    obtain ⟨hp, hrest⟩ := List.forall_mem_cons.1 hps
    rw [readMerged]
    split
    · exact ih hrest
    · split
      · exact ih hrest
      · refine (careful_readParameter hp).bind fun parameter l' hext _ => ?_
        have hlater : Careful files raw (readMerged body ps) l' :=
          ih fun q hq => (hrest q hq).extends hext
        exact hlater.bind fun _ _ _ _ => .pure trivial

theorem careful_readParameters {pathLevel operationLevel : Option Node}
    (hpath : ∀ n ∈ pathLevel, l.Knows n) (hown : ∀ n ∈ operationLevel, l.Knows n) :
    Careful files raw (readParameters pathLevel operationLevel) l := by
  refine (gives_partsOfOptional hpath).bind fun fromPath l₁ hext₁ hfromPath => ?_
  have hown₁ : ∀ n ∈ operationLevel, l₁.Knows n := fun n hn => (hown n hn).extends hext₁
  refine (gives_partsOfOptional hown₁).bind fun own l₂ hext₂ hown => ?_
  have hall : ∀ n ∈ fromPath ++ own, l₂.Knows n := by
    intro n hn
    rcases List.mem_append.1 hn with hn | hn
    · exact (hfromPath n hn).extends hext₂
    · exact hown n hn
  have hnone : ∀ p ∈ ([] : List RawParameter), l₂.KnowsMembers p.members := by
    intro p hp
    cases hp
  refine (gives_addParameters hraw hnone hall).bind fun merged l₃ _ hmerged => ?_
  exact careful_readMerged hmerged

/-! ## Operations -/

theorem careful_bodySchema (fromParameters : Value) {body : Option Node}
    (hbody : ∀ n ∈ body, l.Knows n) : Careful files raw (bodySchema fromParameters body) l := by
  cases body with
  | none => exact .pure trivial
  | some n =>
    have hn : l.Knows n := hbody n rfl
    refine (careful_isGiven hn).bind fun given l₁ hext₁ _ => ?_
    split
    · exact .pure trivial
    · refine (gives_membersFor hraw _ (hn.extends hext₁)).bind fun ms l₂ _ hms => ?_
      refine (careful_contentSchema hraw (hms.find? _)).bind fun schema l₃ _ _ => ?_
      split
      · exact .pure trivial
      · exact .pure trivial

theorem careful_readOperation (verb : Verb) (path : Scalar) {pathLevel : Option Node} {spec : Node}
    (hpath : ∀ n ∈ pathLevel, l.Knows n) (hspec : l.Knows spec) :
    Careful files raw (readOperation verb path pathLevel spec) l := by
  -- the members of the operation stay known while the library grows
  refine (gives_membersFor hraw _ hspec).bind fun ms l₁ hext hms => ?_
  have hpath : ∀ n ∈ pathLevel, l₁.Knows n := fun n hn => (hpath n hn).extends hext
  refine (careful_readParameters hraw hpath (hms.find? _)).bind fun parameters l₂ hext _ => ?_
  replace hms := hms.extends hext
  refine (careful_bodySchema hraw _ (hms.find? _)).bind fun body l₃ hext _ => ?_
  replace hms := hms.extends hext
  refine (careful_isGivenOr _ (hms.find? _)).bind fun deprecated l₄ hext _ => ?_
  replace hms := hms.extends hext
  refine (gives_partsOfOptional (hms.find? _)).bind fun tagNodes l₅ hext htags => ?_
  replace hms := hms.extends hext
  refine (careful_responseSchema hraw (hms.find? _)).bind fun response l₆ hext₆ _ => ?_
  replace hms := hms.extends hext₆
  refine (careful_optionalText (hms.find? _)).bind fun operationId l₇ hext₇ _ => ?_
  replace hms := hms.extends hext₇
  refine (careful_optionalText (hms.find? _)).bind fun summary l₈ hext₈ _ => ?_
  replace hms := hms.extends hext₈
  refine (careful_optionalText (hms.find? _)).bind fun description l₉ hext₉ _ => ?_
  have hgrown : l₅.Extends l₉ := ((hext₆.trans hext₇).trans hext₈).trans hext₉
  have htexts : Careful files raw (tagNodes.mapM text) l₉ := by
    apply Gives.mapM
    intro n hn l' hext'
    exact careful_text ((htags n hn).extends (hgrown.trans hext'))
  exact htexts.bind fun tags _ _ _ => careful_finished _ _

theorem careful_readPathItem (path : Scalar) {pathLevel : Option Node}
    {ms : List (Scalar × Node)} (hpath : ∀ n ∈ pathLevel, l.Knows n) (hms : l.KnowsMembers ms) :
    Careful files raw (readPathItem path pathLevel ms) l := by
  induction ms generalizing l with
  | nil => exact .pure trivial
  | cons m ms ih =>
    obtain ⟨key, spec⟩ := m
    obtain ⟨hm, hrest⟩ := List.forall_mem_cons.1 hms
    unfold readPathItem
    split
    · split
      · refine (careful_readOperation hraw _ _ hpath hm.2).bind fun operation l' hext _ => ?_
        have hlater : Careful files raw (readPathItem path pathLevel ms) l' :=
          ih (fun n hn => (hpath n hn).extends hext) (Library.KnowsMembers.extends hrest hext)
        exact hlater.bind fun _ _ _ _ => .pure trivial
      · exact ih hpath hrest
    · exact ih hpath hrest

theorem careful_readPaths {paths : List (Scalar × Node)} (hpaths : l.KnowsMembers paths) :
    Careful files raw (readPaths paths) l := by
  induction paths generalizing l with
  | nil => exact .pure trivial
  | cons p paths ih =>
    obtain ⟨path, item⟩ := p
    obtain ⟨hp, hrest⟩ := List.forall_mem_cons.1 hpaths
    rw [readPaths]
    refine (gives_membersFor hraw _ hp.2).bind fun ms l₁ hext₁ hms => ?_
    refine (careful_readPathItem hraw path (hms.find? _) hms).bind fun operations l₂ hext₂ _ => ?_
    have hlater : Careful files raw (readPaths paths) l₂ :=
      ih (Library.KnowsMembers.extends hrest (hext₁.trans hext₂))
    exact hlater.bind fun _ _ _ _ => .pure trivial

/-- Reading the operations of a document fails with a fault that is reported, or because a
reference cannot be followed. -/
theorem careful_readOperations : Careful files raw readOperations l := by
  intro hl
  refine Gives.get_bind ?_ hl
  refine (gives_membersFor hraw _ (.inl hl.holds_root)).bind fun ms l₁ _ hms => ?_
  split
  next n hn =>
    refine (gives_membersFor hraw _ (hms.find? _ n hn)).bind fun paths l₂ _ hpaths => ?_
    exact careful_readPaths hraw hpaths
  next => exact .pure trivial

end Reading

end OpenApiClient.Document
