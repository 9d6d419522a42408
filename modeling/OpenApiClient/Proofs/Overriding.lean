/-
Parameters that override one another.

An operation takes the parameters of its path and its own, and of several with one name in one
location the last one counts.  They are gathered in a table: a parameter that comes again keeps the
place of the first one and gets the members of the last one, so place and members come from two
different occurrences.  `IsMerged` says what is in the table after any run of parameters, in terms
of nothing but the run, and one step of the table keeps it.

Two facts make this a statement about names and locations.  That two keys are the same is an
equality, namely of what is left of them in `keyClass`; for floating-point numbers this is not
obvious, since one of them does not even equal itself.  And a field of a finished parameter is a
text, while a key may be bytes that spell a text; but references show bytes as lists of numbers, so
bytes never come to be a name.
-/
import Mathlib
import OpenApiClient.Proofs.ReaderFaults
import OpenApiClient.Proofs.RenewedParameters

set_option autoImplicit false

namespace OpenApiClient

open Float.Model (UnpackedFloat)

/-! ## Keys that are the same -/

/-- What two floating-point numbers have in common that are one key: all that are no number are
one, and so are both zeros. -/
def floatClass : UnpackedFloat → Option (Int × Nat × Int)
  | .notANumber => none
  | .zero _ => some (0, 0, 0)
  | .finite .positive m e _ => some (1, m, e)
  | .finite .negative m e _ => some (-1, m, e)
  | .infinity .positive => some (2, 0, 0)
  | .infinity .negative => some (-2, 0, 0)

theorem compare_eq_eq_iff (a b : UnpackedFloat) :
    a.compare b = some .eq ↔ floatClass a = floatClass b ∧ a.isNaN = false := by
  have hsign : ∀ s s' : UnpackedFloat.Sign, compare s s' = .eq ↔ s = s' := by
    intro s s'
    cases s <;> cases s' <;> constructor <;> intro h <;> first | rfl | cases h
  rcases a with (_ | _) | _ | s | ⟨_ | _, m, e, h⟩ <;>
    rcases b with (_ | _) | _ | s' | ⟨_ | _, m', e', h'⟩ <;>
    simp [UnpackedFloat.compare, UnpackedFloat.isNaN, floatClass, hsign, Ordering.then_eq_eq,
      and_comm]

theorem isNaN_iff (x : Float) : x.isNaN = true ↔ floatClass x.toModel.unpack = none := by
  show x.toModel.unpack.isNaN = true ↔ _
  rcases x.toModel.unpack with (_ | _) | _ | s | ⟨_ | _, m, e, h⟩ <;>
    simp [UnpackedFloat.isNaN, floatClass]

theorem float_same_iff (x y : Float) :
    (x == y || x.isNaN && y.isNaN) = true ↔
      floatClass x.toModel.unpack = floatClass y.toModel.unpack := by
  have hbeq : (x == y) = true ↔
      floatClass x.toModel.unpack = floatClass y.toModel.unpack ∧ ¬ x.isNaN = true := by
    rw [Bool.not_eq_true]
    show (x.toModel.unpack.compare y.toModel.unpack == some .eq) = true ↔ _
    rw [beq_iff_eq]
    exact compare_eq_eq_iff _ _
  rw [Bool.or_eq_true, Bool.and_eq_true, hbeq, isNaN_iff, isNaN_iff]
  constructor
  · rintro (⟨h, -⟩ | ⟨hx, hy⟩)
    · exact h
    · rw [hx, hy]
  · intro h
    by_cases hx : floatClass x.toModel.unpack = none
    · exact .inr ⟨hx, h ▸ hx⟩
    · exact .inl ⟨h, hx⟩

/-- What scalars have in common that are one key. -/
inductive KeyClass where
  | integer (n : Int)
  | float (number : Option (Int × Nat × Int))
  | moment (zoned : Bool) (micros : Int)
  | only (s : Scalar)

/-- What a scalar has in common with all scalars that are the same key. -/
def Scalar.keyClass (a : Scalar) : KeyClass :=
  match a.asInt? with
  | some n => .integer n
  | none =>
    match a with
    | .float x => .float (floatClass x.toModel.unpack)
    | .moment m => .moment m.offset.isSome m.micros
    | s => .only s

theorem Scalar.same_iff {a b : Scalar} : a.same b = true ↔ a.keyClass = b.keyClass := by
  unfold same keyClass
  cases ha : a.asInt? with
  | some m =>
    cases hb : b.asInt? with
    | some n => simp
    | none => cases b <;> simp
  | none =>
    cases hb : b.asInt? with
    | some n => cases a <;> simp
    | none =>
      -- of one kind, they are compared as that kind is; truth values and integers are gone
      cases a <;> cases b <;>
        first
        | exact (float_same_iff _ _).trans (by simp)
        | (simp; done)
        | cases ha

/-- A text is the same key as nothing but itself. -/
theorem Scalar.same_text (a : Scalar) (s : String) : a.same (.text s) = a.isText s := by
  rw [Bool.eq_iff_iff]
  constructor
  · intro h
    rw [isText_eq_of_same h]
    exact beq_self_eq_true s
  · intro h
    rw [eq_text_of_isText h]
    exact same_iff.2 rfl

namespace Document

open Reference (Node Library)
open Validation (Checked)

/-! ## Merged parameters -/

/-- What tells a parameter apart from others. -/
def RawParameter.pair (q : RawParameter) : KeyClass × KeyClass :=
  (q.name.scalar.keyClass, q.location.scalar.keyClass)

theorem RawParameter.same_iff {p q : RawParameter} : p.same q = true ↔ p.pair = q.pair := by
  rw [same, Bool.and_eq_true, Scalar.same_iff, Scalar.same_iff, pair, pair, Prod.mk.injEq]

theorem RawParameter.same_self (p : RawParameter) : p.same p = true := same_iff.2 rfl

/-- What is the same as one of two parameters that are the same is the same as the other. -/
theorem RawParameter.same_congr {p q : RawParameter} (h : p.same q = true) (r : RawParameter) :
    r.same p = r.same q := by
  rw [Bool.eq_iff_iff, same_iff, same_iff, same_iff.1 h]

/-- A parameter takes the place of one that is the same, or is put behind all others. -/
theorem addParameter_cases (acc : List RawParameter) (p : RawParameter) :
    (∃ before q after, acc = before ++ q :: after ∧ q.same p = true
      ∧ addParameter acc p = before ++ { q with members := p.members } :: after)
      ∨ ((∀ q ∈ acc, q.same p = false) ∧ addParameter acc p = acc ++ [p]) := by
  induction acc with
  | nil => exact .inr ⟨fun q hq => absurd hq List.not_mem_nil, rfl⟩
  | cons q qs ih =>
    rw [addParameter]
    by_cases hq : q.same p = true
    · rw [if_pos hq]
      exact .inl ⟨[], q, qs, rfl, hq, rfl⟩
    · rw [if_neg hq]
      rcases ih with ⟨before, r, after, rfl, hr, hadd⟩ | ⟨hnone, hadd⟩
      · exact .inl ⟨q :: before, r, after, rfl, hr, by rw [hadd]; rfl⟩
      · refine .inr ⟨?_, by rw [hadd]; rfl⟩
        exact List.forall_mem_cons.2 ⟨Bool.eq_false_iff.2 hq, hnone⟩

/-- The table that comes of a run of parameters: in the order in which they come first, and each
with the members of the last one that is the same. -/
structure IsMerged (inputs acc : List RawParameter) : Prop where
  ordered : acc.Pairwise fun p q => inputs.findIdx (·.same p) < inputs.findIdx (·.same q)
  covers : ∀ q ∈ inputs, q.pair ∈ acc.map RawParameter.pair
  latest : ∀ p ∈ acc, ∃ q, (inputs.filter (·.same p)).getLast? = some q ∧ p.members = q.members

theorem IsMerged.exists_input {inputs acc : List RawParameter} (h : IsMerged inputs acc)
    {p : RawParameter} (hp : p ∈ acc) : ∃ q ∈ inputs, q.same p = true := by
  obtain ⟨q, hq, -⟩ := h.latest p hp
  exact ⟨q, List.mem_filter.1 (List.mem_of_getLast? hq)⟩

/-! ### One step of the table -/

section Step

variable {inputs acc : List RawParameter} {p : RawParameter}

theorem getLast?_filter_same {q : RawParameter} (hq : p.same q = true) :
    ((inputs ++ [p]).filter (·.same q)).getLast? = some p := by
  have hnew : [p].filter (·.same q) = [p] := List.filter_eq_self.2 (by simpa using hq)
  rw [List.filter_append, hnew, List.getLast?_concat]

/-- Those in the table come first where they did before one more parameter was added. -/
theorem IsMerged.findIdx_append (h : IsMerged inputs acc) {q : RawParameter} (hq : q ∈ acc) :
    (inputs ++ [p]).findIdx (·.same q) = inputs.findIdx (·.same q)
      ∧ inputs.findIdx (·.same q) < inputs.length := by
  have hlt := List.findIdx_lt_length.2 (h.exists_input hq)
  rw [List.findIdx_append, if_pos hlt]
  exact ⟨rfl, hlt⟩

theorem IsMerged.ordered_append (h : IsMerged inputs acc) : acc.Pairwise fun q r =>
    (inputs ++ [p]).findIdx (·.same q) < (inputs ++ [p]).findIdx (·.same r) := by
  refine h.ordered.imp_of_mem fun {q r} hq hr hlt => ?_
  rw [(h.findIdx_append hq).1, (h.findIdx_append hr).1]
  exact hlt

theorem IsMerged.covers_append (h : IsMerged inputs acc) {acc' : List RawParameter}
    (hsub : acc.map RawParameter.pair ⊆ acc'.map RawParameter.pair)
    (hp : p.pair ∈ acc'.map RawParameter.pair) :
    ∀ q ∈ inputs ++ [p], q.pair ∈ acc'.map RawParameter.pair := by
  intro q hq
  rcases List.mem_append.1 hq with hq | hq
  · exact hsub (h.covers q hq)
  · rw [List.mem_singleton.1 hq]
    exact hp

/-- What is not the same as the new parameter keeps its members. -/
theorem IsMerged.latest_append (h : IsMerged inputs acc) {q : RawParameter} (hq : q ∈ acc)
    (hne : p.same q = false) :
    ∃ r, ((inputs ++ [p]).filter (·.same q)).getLast? = some r ∧ q.members = r.members := by
  have hnew : [p].filter (·.same q) = [] := List.filter_eq_nil_iff.2 (by simpa using hne)
  rw [List.filter_append, hnew, List.append_nil]
  exact h.latest q hq

/-- A parameter that was there already gets the members of the new one. -/
theorem IsMerged.replace {before after : List RawParameter} {q : RawParameter}
    (h : IsMerged inputs (before ++ q :: after)) (hq : q.same p = true) :
    IsMerged (inputs ++ [p]) (before ++ { q with members := p.members } :: after) := by
  have hpq : p.same q = true := RawParameter.same_iff.2 (RawParameter.same_iff.1 hq).symm
  obtain ⟨hbefore, hrest, hacross⟩ := List.pairwise_append.1 (h.ordered_append (p := p))
  obtain ⟨hafter, hrest⟩ := List.pairwise_cons.1 hrest
  -- no other one in the table is the same: it would come first where `q` does
  have hplace : ∀ r : RawParameter, p.same r = true →
      (inputs ++ [p]).findIdx (·.same r) = (inputs ++ [p]).findIdx (·.same q) := by
    intro r hr
    have hsame : r.same q = true := by
      rw [RawParameter.same_iff] at hr hpq ⊢
      rw [← hr, hpq]
    exact congrArg (List.findIdx · _) (funext fun x => RawParameter.same_congr hsame x)
  have hothers : ∀ r, r ∈ before ∨ r ∈ after → p.same r = false := by
    intro r hr
    rw [Bool.eq_false_iff]
    intro hpr
    have heq := hplace r hpr
    rcases hr with hr | hr
    · have hlt := hacross r hr q List.mem_cons_self
      omega
    · have hlt := hafter r hr
      omega
  refine ⟨?_, ?_, ?_⟩
  · refine List.pairwise_append.2 ⟨hbefore, List.pairwise_cons.2 ⟨hafter, hrest⟩, ?_⟩
    intro r hr s hs
    rcases List.mem_cons.1 hs with rfl | hs
    · exact hacross r hr q List.mem_cons_self
    · exact hacross r hr s (List.mem_cons_of_mem q hs)
  · have hpairs : (before ++ { q with members := p.members } :: after).map RawParameter.pair
        = (before ++ q :: after).map RawParameter.pair := by
      rw [List.map_append, List.map_append, List.map_cons, List.map_cons]
      rfl
    apply h.covers_append
    · rw [hpairs]
      exact List.Subset.refl _
    · rw [hpairs, ← RawParameter.same_iff.1 hq]
      exact List.mem_map_of_mem (List.mem_append_right before List.mem_cons_self)
  · intro r hr
    rcases List.mem_append.1 hr with hr | hr
    · exact h.latest_append (List.mem_append_left _ hr) (hothers r (.inl hr))
    · rcases List.mem_cons.1 hr with rfl | hr
      · exact ⟨p, getLast?_filter_same hpq, rfl⟩
      · exact h.latest_append (List.mem_append_right before (List.mem_cons_of_mem q hr))
          (hothers r (.inr hr))

/-- A parameter that was not there yet is put at the end, and there it comes first. -/
theorem IsMerged.append (h : IsMerged inputs acc) (hnone : ∀ q ∈ acc, q.same p = false) :
    IsMerged (inputs ++ [p]) (acc ++ [p]) := by
  -- the new parameter differs from all before it, so it is the first of its kind
  have hnew : (inputs ++ [p]).findIdx (·.same p) = inputs.length := by
    have hall : ∀ q ∈ inputs, q.same p = false := by
      intro q hq
      obtain ⟨r, hr, hpair⟩ := List.mem_map.1 (h.covers q hq)
      rw [← hnone r hr, Bool.eq_iff_iff, RawParameter.same_iff, RawParameter.same_iff, hpair]
    have hlength := List.findIdx_eq_length.2 hall
    rw [List.findIdx_append, hlength, if_neg (Nat.lt_irrefl _), List.findIdx_cons,
      RawParameter.same_self, cond_true, Nat.zero_add]
  refine ⟨?_, ?_, ?_⟩
  · refine List.pairwise_append.2 ⟨h.ordered_append, List.pairwise_singleton _ _, ?_⟩
    intro q hq r hr
    rw [List.mem_singleton.1 hr, hnew, (h.findIdx_append hq).1]
    exact (h.findIdx_append (p := p) hq).2
  · apply h.covers_append
    · rw [List.map_append]
      exact List.subset_append_left _ _
    · rw [List.map_append]
      exact List.mem_append_right _ List.mem_cons_self
  · intro q hq
    rcases List.mem_append.1 hq with hq | hq
    · refine h.latest_append hq ?_
      rw [← hnone q hq, Bool.eq_iff_iff, RawParameter.same_iff, RawParameter.same_iff]
      exact eq_comm
    · rw [List.mem_singleton.1 hq]
      exact ⟨p, getLast?_filter_same p.same_self, rfl⟩

theorem IsMerged.add (h : IsMerged inputs acc) (p : RawParameter) :
    IsMerged (inputs ++ [p]) (addParameter acc p) := by
  rcases addParameter_cases acc p with ⟨before, q, after, rfl, hq, hadd⟩ | ⟨hnone, hadd⟩
  · rw [hadd]
    exact h.replace hq
  · rw [hadd]
    exact h.append hnone

end Step

/-- What is in the table after a run. -/
theorem isMerged_foldl (inputs : List RawParameter) :
    IsMerged inputs (inputs.foldl addParameter []) := by
  induction inputs using List.reverseRecOn with
  | nil =>
    exact ⟨.nil, fun q hq => absurd hq List.not_mem_nil, fun p hp => absurd hp List.not_mem_nil⟩
  | append_singleton inputs p ih =>
    rw [List.foldl_append]
    exact ih.add p

/-! ## Parameters as they are written -/

/-- The parameters of an operation as they are written: those of its path first. -/
def writtenParameters (pathLevel operationLevel : Option Node) : Reading (List RawParameter) := do
  let fromPath ← partsOfOptional pathLevel
  let own ← partsOfOptional operationLevel
  (fromPath ++ own).mapM rawParameter

theorem addParameters_eq (acc : List RawParameter) (ns : List Node) :
    addParameters acc ns = do
      let inputs ← ns.mapM rawParameter
      return inputs.foldl addParameter acc := by
  induction ns generalizing acc with
  | nil => rfl
  | cons n ns ih =>
    rw [addParameters, List.mapM_cons]
    simp only [ih, bind_assoc, pure_bind, List.foldl_cons]

/-- All parameters are written out before any of them is finished. -/
theorem readParameters_eq (pathLevel operationLevel : Option Node) :
    readParameters pathLevel operationLevel
      = writtenParameters pathLevel operationLevel >>= fun inputs =>
          readMerged .null (inputs.foldl addParameter []) := by
  unfold readParameters writtenParameters
  simp only [addParameters_eq, bind_assoc, pure_bind]

/-- The half of a key is no text in disguise. -/
def KeyPart.IsSeen (k : KeyPart) : Prop := ∀ data, k.scalar ≠ .bytes data

section Written

variable {files : Source.Files} {raw : Value} {l l' : Library}

/-- Where bytes are lists of numbers, no node has bytes. -/
theorem not_bytes_of_holds (hraw : raw.spreadBytes = raw) (hl : l.Opened files raw) {n : Node}
    (hn : l.Holds n) (data : List UInt8) : n.value ≠ .scalar (.bytes data) := by
  obtain ⟨d, hd, hstands⟩ := hn
  have hroot : d.root.spreadBytes = d.root :=
    hl.roots (P := fun v => v.spreadBytes = v) (fun _ hv => hv.spreadBytes) hraw d
      (List.mem_of_getElem? hd)
  have hvalue : n.value.spreadBytes = n.value := congrArg Node.value (hstands.seen_eq hroot)
  intro hbytes
  rw [hbytes] at hvalue
  cases hvalue

theorem isSeen_of_runs_keyPart (hraw : raw.spreadBytes = raw) (hl : l.Opened files raw)
    {n : Option Node} (hn : ∀ m ∈ n, l.Holds m) {k : KeyPart}
    (h : Runs (KeyPart.ofNode n) l k l') : l'.Opened files raw ∧ l.Extends l' ∧ k.IsSeen := by
  cases n with
  | none =>
    obtain ⟨rfl, rfl⟩ := runs_pure_iff.1 h
    exact ⟨hl, .refl _, fun data hdata => by cases hdata⟩
  | some n =>
    obtain ⟨m, l₁, hm, h⟩ := runs_bind_iff.1 h
    obtain ⟨hl₁, hext, hholds⟩ := hl.settle_holds (hn n rfl) (runs_settle_iff.1 hm)
    cases hvalue : m.value with
    | scalar s =>
      rw [hvalue] at h
      obtain ⟨rfl, rfl⟩ := runs_pure_iff.1 h
      refine ⟨hl₁, hext, fun data hdata => ?_⟩
      exact not_bytes_of_holds hraw hl₁ hholds data (hvalue.trans (congrArg Value.scalar hdata))
    | _ =>
      rw [hvalue] at h
      exact (runs_throw_iff.1 h).elim

/-- The members of an object stand in a document, whatever references lead to it. -/
theorem holds_of_runs_membersFor (hl : l.Opened files raw) {n : Node} (hn : l.Knows n)
    {name : String} {ms : List (Scalar × Node)} (h : Runs (membersFor name n) l ms l') :
    l'.Opened files raw ∧ l.Extends l' ∧ ∀ m ∈ ms, l'.Holds m.2 := by
  obtain ⟨m, l₁, hm, h⟩ := runs_bind_iff.1 h
  obtain ⟨hl₁, hext, hknows⟩ := hl.settle hn (runs_settle_iff.1 hm)
  cases hvalue : m.value with
  | object k members =>
    rw [hvalue] at h
    obtain ⟨rfl, rfl⟩ := runs_pure_iff.1 h
    refine ⟨hl₁, hext, fun p hp => ?_⟩
    exact (hknows.holds_of_object hvalue).memberValues hvalue p.2 (List.of_mem_zip hp).2
  | _ =>
    rw [hvalue] at h
    exact (runs_throw_iff.1 h).elim

theorem isSeen_of_runs_rawParameter (hraw : raw.spreadBytes = raw) (hl : l.Opened files raw)
    {n : Node} (hn : l.Knows n) {q : RawParameter} (h : Runs (rawParameter n) l q l') :
    l'.Opened files raw ∧ l.Extends l' ∧ q.name.IsSeen ∧ q.location.IsSeen := by
  obtain ⟨ms, l₁, hms, h⟩ := runs_bind_iff.1 h
  obtain ⟨name, l₂, hname, h⟩ := runs_bind_iff.1 h
  obtain ⟨location, l₃, hlocation, h⟩ := runs_bind_iff.1 h
  obtain ⟨rfl, rfl⟩ := runs_pure_iff.1 h
  obtain ⟨hl₁, hext₁, hholds⟩ := holds_of_runs_membersFor hl hn hms
  have hnode : ∀ key, ∀ n ∈ find? ms key, l₁.Holds n := by
    intro key n hn
    obtain ⟨m, hm, rfl⟩ := Option.map_eq_some_iff.1 hn
    exact hholds m (List.mem_of_find?_eq_some hm)
  obtain ⟨hl₂, hext₂, hseen⟩ := isSeen_of_runs_keyPart hraw hl₁ (hnode "name") hname
  obtain ⟨hl₃, hext₃, hseen'⟩ := isSeen_of_runs_keyPart hraw hl₂
    (fun n hn => (hnode "in" n hn).extends hext₂) hlocation
  exact ⟨hl₃, hext₁.trans (hext₂.trans hext₃), hseen, hseen'⟩

theorem isSeen_of_runs_mapM (hraw : raw.spreadBytes = raw) (hl : l.Opened files raw)
    {ns : List Node} (hns : ∀ n ∈ ns, l.Knows n) {qs : List RawParameter}
    (h : Runs (ns.mapM rawParameter) l qs l') :
    l'.Opened files raw ∧ ∀ q ∈ qs, q.name.IsSeen ∧ q.location.IsSeen := by
  induction ns generalizing l qs with
  | nil =>
    obtain ⟨rfl, rfl⟩ := runs_pure_iff.1 h
    exact ⟨hl, fun q hq => absurd hq List.not_mem_nil⟩
  | cons n ns ih =>
    rw [List.mapM_cons] at h
    obtain ⟨q, l₁, hq, h⟩ := runs_bind_iff.1 h
    obtain ⟨rest, l₂, hrest, h⟩ := runs_bind_iff.1 h
    obtain ⟨rfl, rfl⟩ := runs_pure_iff.1 h
    obtain ⟨hn, hns⟩ := List.forall_mem_cons.1 hns
    obtain ⟨hl₁, hext, hseen⟩ := isSeen_of_runs_rawParameter hraw hl hn hq
    obtain ⟨hl₂, hseens⟩ := ih hl₁ (fun n' hn' => (hns n' hn').extends hext) hrest
    exact ⟨hl₂, List.forall_mem_cons.2 ⟨hseen, hseens⟩⟩

theorem isSeen_of_runs_written (hraw : raw.spreadBytes = raw) (hl : l.Opened files raw)
    {pathLevel operationLevel : Option Node} (hpath : ∀ n ∈ pathLevel, l.Knows n)
    (hown : ∀ n ∈ operationLevel, l.Knows n) {qs : List RawParameter}
    (h : Runs (writtenParameters pathLevel operationLevel) l qs l') :
    l'.Opened files raw ∧ ∀ q ∈ qs, q.name.IsSeen ∧ q.location.IsSeen := by
  obtain ⟨ns, l₁, hns, h⟩ := runs_bind_iff.1 h
  obtain ⟨ms, l₂, hms, h⟩ := runs_bind_iff.1 h
  obtain ⟨hl₁, hext₁, hknows⟩ := (gives_partsOfOptional hpath hl).2 ns l₁ hns
  obtain ⟨hl₂, hext₂, hknows'⟩ :=
    (gives_partsOfOptional (fun n hn => (hown n hn).extends hext₁) hl₁).2 ms l₂ hms
  refine isSeen_of_runs_mapM hraw hl₂ (fun n hn => ?_) h
  rcases List.mem_append.1 hn with hn | hn
  · exact (hknows n hn).extends hext₂
  · exact hknows' n hn

end Written

/-! ## Finished parameters -/

/-- Whether a parameter has a name and a location. -/
def RawParameter.isFor (q : RawParameter) (name location : String) : Bool :=
  q.name.scalar.isText name && q.location.scalar.isText location

/-- A finished parameter says what members say.  Whether it is required is asked through references,
at some time between `l` and `l'`. -/
structure Says (l l' : Library) (ms : List (Scalar × Node)) (p : Parameter) : Prop where
  schema : Validation.table (parameterSchema ms) = .ok p.schema
  description : (present? (find? ms "description")).map (fun n => Validation.text n.value)
    = p.description.map .ok
  required : ∃ l₁ l₂, l.Extends l₁ ∧ l₂.Extends l'
    ∧ Runs (isGivenOr (p.location == "path") (find? ms "required")) l₁ p.required l₂

theorem Says.mono {l l₁ l₂ l' : Library} {ms : List (Scalar × Node)} {p : Parameter}
    (h : Says l₁ l₂ ms p) (hbefore : l.Extends l₁) (hafter : l₂.Extends l') : Says l l' ms p := by
  obtain ⟨k, k', hk, hk', hrun⟩ := h.required
  exact ⟨h.schema, h.description, k, k', hbefore.trans hk, hk'.trans hafter, hrun⟩

theorem KeyPart.IsSeen.scalar_eq {k : KeyPart} (hk : k.IsSeen) {s : String}
    (h : k.text = .ok s) : k.scalar = .text s := by
  unfold KeyPart.text at h
  split at h
  · cases hs : k.scalar with
    | text t =>
      rw [hs] at h
      cases h
      rfl
    | bytes data => exact absurd hs (hk data)
    | _ =>
      rw [hs] at h
      cases h
  · cases h

/-- A description is a text that stands there itself. -/
theorem runs_optionalText_ok {n : Option Node} {d : Option String} {l l' : Library}
    (h : Runs (optionalText n) l (.ok d) l') :
    l' = l ∧ (present? n).map (fun n => Validation.text n.value) = d.map .ok := by
  cases n with
  | none =>
    obtain ⟨hd, hl⟩ := runs_pure_iff.1 h
    cases hd
    exact ⟨hl, rfl⟩
  | some n =>
    unfold optionalText at h
    dsimp only at h
    by_cases hnull : n.value.isNull = true
    · rw [if_pos hnull] at h
      obtain ⟨hd, hl⟩ := runs_pure_iff.1 h
      cases hd
      rw [present?_some, if_pos hnull]
      exact ⟨hl, rfl⟩
    · rw [if_neg hnull, runs_bind_iff] at h
      obtain ⟨c, l₁, hc, h⟩ := h
      obtain ⟨hd, rfl⟩ := runs_pure_iff.1 h
      obtain ⟨s, rfl, rfl⟩ := Checked.map_eq_ok_iff.1 hd.symm
      obtain ⟨-, htext, hl⟩ := runs_text_ok_iff.1 hc
      refine ⟨hl, ?_⟩
      rw [present?_some, if_neg hnull, Option.map_some, htext]
      rfl

theorem isGivenOr_extends {default given : Bool} {n : Option Node} {l l' : Library}
    (h : Runs (isGivenOr default n) l given l') : l.Extends l' := by
  cases n with
  | none =>
    obtain ⟨-, rfl⟩ := runs_pure_iff.1 h
    exact .refl _
  | some n =>
    obtain ⟨m, l₁, hm, h⟩ := runs_bind_iff.1 h
    obtain ⟨-, rfl⟩ := runs_pure_iff.1 h
    exact Reference.settleWith_extends (runs_settle_iff.1 hm)

/-- What a finished parameter is made of. -/
theorem of_runs_readParameter {q : RawParameter} {p : Parameter} {l l' : Library}
    (hname : q.name.IsSeen) (hlocation : q.location.IsSeen)
    (h : Runs (readParameter q) l p l') :
    l.Extends l' ∧ q.isFor p.name p.location = true ∧ Says l l' q.members p := by
  obtain ⟨required, l₁, hrequired, h⟩ := runs_bind_iff.1 h
  obtain ⟨description, l₂, hdescription, h⟩ := runs_bind_iff.1 h
  obtain ⟨hchecked, rfl⟩ := runs_finished_iff.1 h
  unfold RawParameter.checked at hchecked
  simp only [Checked.seq_eq_ok_iff, Checked.map_eq_ok_iff, Checked.within_eq_ok_iff] at hchecked
  obtain ⟨_, schema, ⟨_, d, ⟨_, location, ⟨name, hn, rfl⟩, hloc, rfl⟩, rfl, rfl⟩, hschema, rfl⟩ :=
    hchecked
  obtain ⟨rfl, hd⟩ := runs_optionalText_ok hdescription
  have hname' := hname.scalar_eq hn
  have hlocation' := hlocation.scalar_eq hloc
  refine ⟨isGivenOr_extends hrequired, ?_, hschema, hd, l, l', .refl _, .refl _, ?_⟩
  · rw [RawParameter.isFor, hname', hlocation']
    simp [Scalar.isText]
  · rw [hlocation'] at hrequired
    exact hrequired

/-- The parameters proper of a table are finished one by one, and its last body is the body. -/
theorem of_runs_readMerged {merged : List RawParameter} {body body' : Value}
    {ps : List Parameter} {l l' : Library}
    (hseen : ∀ q ∈ merged, q.name.IsSeen ∧ q.location.IsSeen)
    (h : Runs (readMerged body merged) l (ps, body') l') :
    l.Extends l'
      ∧ List.Forall₂ (fun q p => q.isFor p.name p.location = true ∧ Says l l' q.members p)
        (merged.filter (·.isProper)) ps
      ∧ body' = ((merged.filter (·.isBody)).getLast?.map (·.bodySchema)).getD body := by
  induction merged generalizing body l ps with
  | nil =>
    obtain ⟨hps, rfl⟩ := runs_pure_iff.1 h
    cases hps
    exact ⟨.refl _, .nil, rfl⟩
  | cons q qs ih =>
    obtain ⟨hq, hseen⟩ := List.forall_mem_cons.1 hseen
    by_cases hproper : q.isProper = true
    · rw [readMerged_of_isProper hproper] at h
      obtain ⟨p, l₁, hp, h⟩ := runs_bind_iff.1 h
      obtain ⟨⟨rest, body₁⟩, l₂, hrest, h⟩ := runs_bind_iff.1 h
      obtain ⟨hps, rfl⟩ := runs_pure_iff.1 h
      cases hps
      -- the library grows while a parameter is read, and what the others say stays said
      obtain ⟨hext, hfor, hsays⟩ := of_runs_readParameter hq.1 hq.2 hp
      obtain ⟨hext', hall, hbody⟩ := ih hseen hrest
      have hnobody : ¬ q.isBody = true := by
        rw [RawParameter.isBody_of_isProper hproper]
        exact Bool.false_ne_true
      rw [List.filter_cons_of_pos hproper, List.filter_cons_of_neg hnobody]
      refine ⟨hext.trans hext', .cons ⟨hfor, hsays.mono (.refl _) hext'⟩ ?_, hbody⟩
      exact hall.imp fun q p hq => ⟨hq.1, hq.2.mono hext (.refl _)⟩
    · rw [List.filter_cons_of_neg hproper]
      by_cases hbody : q.isBody = true
      · rw [readMerged_of_isBody hbody] at h
        rw [List.filter_cons_of_pos hbody, List.getLast?_cons, Option.map_some, Option.getD_some]
        obtain ⟨hext, hall, hbody'⟩ := ih hseen h
        refine ⟨hext, hall, hbody'.trans ?_⟩
        cases (qs.filter (·.isBody)).getLast? with
        | none => rfl
        | some w => rfl
      · rw [readMerged_of_left hproper hbody] at h
        rw [List.filter_cons_of_neg hbody]
        exact ih hseen h

/-! ## What an operation takes -/

theorem RawParameter.isFor_iff {q : RawParameter} {name location : String} :
    q.isFor name location = true
      ↔ q.name.scalar = .text name ∧ q.location.scalar = .text location := by
  rw [isFor, Bool.and_eq_true]
  constructor
  · rintro ⟨hname, hlocation⟩
    exact ⟨Scalar.eq_text_of_isText hname, Scalar.eq_text_of_isText hlocation⟩
  · rintro ⟨hname, hlocation⟩
    rw [hname, hlocation]
    simp [Scalar.isText]

/-- For a parameter with a name and a location, to be the same is to have them too. -/
theorem RawParameter.same_eq_isFor {q : RawParameter} {name location : String}
    (h : q.isFor name location = true) (r : RawParameter) : r.same q = r.isFor name location := by
  obtain ⟨hname, hlocation⟩ := isFor_iff.1 h
  rw [same, hname, hlocation, Scalar.same_text, Scalar.same_text, isFor]

/-- A parameter is neither a body nor a form field if its location is none of these. -/
theorem RawParameter.isProper_iff {q : RawParameter} {name location : String}
    (h : q.isFor name location = true) :
    q.isProper = true ↔ location ≠ "body" ∧ location ≠ "formData" := by
  rw [isProper, (isFor_iff.1 h).2]
  simp [Scalar.isText]

/-- The parameters and the body that come of parameters as they are written: of those with one name
in one location the last one counts, and it stands where the first one does. -/
structure Overrides (inputs : List RawParameter) (l l' : Library) (ps : List Parameter)
    (body : Value) : Prop where
  distinct : (ps.map fun p => (p.name, p.location)).Nodup
  mem_iff : ∀ name location, (name, location) ∈ ps.map (fun p => (p.name, p.location)) ↔
    location ≠ "body" ∧ location ≠ "formData" ∧ ∃ q ∈ inputs, q.isFor name location = true
  named : ∀ q ∈ inputs, q.isProper = true → ∃ p ∈ ps, q.isFor p.name p.location = true
  latest : ∀ p ∈ ps, ∃ q, (inputs.filter (·.isFor p.name p.location)).getLast? = some q
    ∧ Says l l' q.members p
  ordered : ps.Pairwise fun p p' =>
    inputs.findIdx (·.isFor p.name p.location) < inputs.findIdx (·.isFor p'.name p'.location)
  /-- The body is the last one of that body which comes first after all others. -/
  body : (∀ q ∈ inputs, q.isBody = false) ∧ body = .null
    ∨ ∃ w, w.isBody = true ∧ (inputs.filter (·.same w)).getLast? = some w
      ∧ (∀ q ∈ inputs, q.isBody = true →
        inputs.findIdx (·.same q) ≤ inputs.findIdx (·.same w))
      ∧ body = w.bodySchema

section Overriding

variable {inputs merged : List RawParameter} {l l' : Library} {ps : List Parameter}

theorem IsMerged.exists_same (h : IsMerged inputs merged) {q : RawParameter} (hq : q ∈ inputs) :
    ∃ a ∈ merged, a.same q = true := by
  obtain ⟨a, ha, hpair⟩ := List.mem_map.1 (h.covers q hq)
  exact ⟨a, ha, RawParameter.same_iff.2 hpair⟩

/-- The last body of the table. -/
theorem IsMerged.body (h : IsMerged inputs merged) :
    (∀ q ∈ inputs, q.isBody = false) ∧ (merged.filter (·.isBody)).getLast? = none
    ∨ ∃ a w, (merged.filter (·.isBody)).getLast? = some a ∧ a.bodySchema = w.bodySchema
      ∧ w.isBody = true ∧ (inputs.filter (·.same w)).getLast? = some w
      ∧ ∀ q ∈ inputs, q.isBody = true →
        inputs.findIdx (·.same q) ≤ inputs.findIdx (·.same w) := by
  have hbodies : ∀ q ∈ inputs, q.isBody = true →
      ∃ a ∈ merged.filter (·.isBody), a.same q = true := by
    intro q hq hbody
    obtain ⟨a, ha, hsame⟩ := h.exists_same hq
    exact ⟨a, List.mem_filter.2 ⟨ha, (isText_of_same hsame "body").trans hbody⟩, hsame⟩
  cases hlast : (merged.filter (·.isBody)).getLast? with
  | none =>
    refine .inl ⟨fun q hq => ?_, rfl⟩
    rw [Bool.eq_false_iff]
    intro hbody
    obtain ⟨a, ha, -⟩ := hbodies q hq hbody
    rw [List.getLast?_eq_none_iff.1 hlast] at ha
    exact List.not_mem_nil ha
  | some a =>
    obtain ⟨ha, hbody⟩ := List.mem_filter.1 (List.mem_of_getLast? hlast)
    obtain ⟨w, hw, hmembers⟩ := h.latest a ha
    have hwa : w.same a = true := (List.mem_filter.1 (List.mem_of_getLast? hw)).2
    have hsame : ∀ {q r : RawParameter}, q.same r = true →
        (fun x : RawParameter => x.same q) = fun x => x.same r :=
      fun hqr => funext (RawParameter.same_congr hqr)
    refine .inr ⟨a, w, rfl, ?_, (isText_of_same hwa "body").trans hbody, ?_, ?_⟩
    · rw [RawParameter.bodySchema, RawParameter.bodySchema, hmembers]
    · rw [hsame hwa]
      exact hw
    · intro q hq hqbody
      obtain ⟨b, hb, hbq⟩ := hbodies q hq hqbody
      rw [hsame hwa, ← hsame hbq]
      -- what stands before the last one in the table comes first before it
      have hordered := h.ordered.filter (·.isBody)
      obtain ⟨before, hbefore⟩ := List.getLast?_eq_some_iff.1 hlast
      rw [hbefore] at hordered hb
      rcases List.mem_append.1 hb with hb | hb
      · have hlt := (List.pairwise_append.1 hordered).2.2 b hb a List.mem_cons_self
        omega
      · exact Nat.le_of_eq (by rw [List.mem_singleton.1 hb])

/-- Parameters made of the proper ones of a table, each with the name and the location of its
own. -/
def MadeOfTable (merged : List RawParameter) (l l' : Library) (ps : List Parameter) : Prop :=
  List.Forall₂ (fun q p => q.isFor p.name p.location = true ∧ Says l l' q.members p)
    (merged.filter (·.isProper)) ps

theorem MadeOfTable.exists_made (h : MadeOfTable merged l l' ps) {p : Parameter} (hp : p ∈ ps) :
    ∃ a ∈ merged, a.isProper = true ∧ a.isFor p.name p.location = true
      ∧ Says l l' a.members p := by
  obtain ⟨a, ha, hfor, hsays⟩ := exists_left_of_mem h hp
  obtain ⟨ha, hproper⟩ := List.mem_filter.1 ha
  exact ⟨a, ha, hproper, hfor, hsays⟩

/-- A parameter comes first where the one in the table does that it is made of. -/
theorem MadeOfTable.ordered (h : MadeOfTable merged l l' ps) (hmerged : IsMerged inputs merged) :
    ps.Pairwise fun p p' => inputs.findIdx (·.isFor p.name p.location)
      < inputs.findIdx (·.isFor p'.name p'.location) := by
  have hplaces : (merged.filter (·.isProper)).map (fun q => inputs.findIdx (·.same q))
      = ps.map fun p => inputs.findIdx (·.isFor p.name p.location) := by
    rw [← List.forall₂_eq_eq_eq, List.forall₂_map_left_iff, List.forall₂_map_right_iff]
    refine h.imp fun q p hq => ?_
    exact congrArg (List.findIdx · inputs) (funext (RawParameter.same_eq_isFor hq.1))
  rw [← List.pairwise_map (f := fun p : Parameter => inputs.findIdx (·.isFor p.name p.location)),
    ← hplaces, List.pairwise_map]
  exact hmerged.ordered.filter _

/-- What comes first at two places is not the same. -/
theorem MadeOfTable.distinct (h : MadeOfTable merged l l' ps) (hmerged : IsMerged inputs merged) :
    (ps.map fun p => (p.name, p.location)).Nodup := by
  rw [List.Nodup, List.pairwise_map]
  refine (h.ordered hmerged).imp fun {p p'} hlt heq => ?_
  obtain ⟨hname, hlocation⟩ := Prod.mk.inj heq
  rw [hname, hlocation] at hlt
  omega

theorem MadeOfTable.exists_named (h : MadeOfTable merged l l' ps)
    (hmerged : IsMerged inputs merged) {q : RawParameter} (hq : q ∈ inputs)
    (hproper : q.isProper = true) : ∃ p ∈ ps, q.isFor p.name p.location = true := by
  obtain ⟨a, ha, hsame⟩ := hmerged.exists_same hq
  have haproper : a.isProper = true := by
    rw [RawParameter.isProper, isText_of_same hsame, isText_of_same hsame]
    exact hproper
  obtain ⟨p, hp, hfor, -⟩ := exists_right_of_mem h (List.mem_filter.2 ⟨ha, haproper⟩)
  refine ⟨p, hp, ?_⟩
  rw [← RawParameter.same_eq_isFor hfor, RawParameter.same_iff]
  exact (RawParameter.same_iff.1 hsame).symm

theorem MadeOfTable.mem_iff (h : MadeOfTable merged l l' ps) (hmerged : IsMerged inputs merged)
    (name location : String) : (name, location) ∈ ps.map (fun p => (p.name, p.location)) ↔
      location ≠ "body" ∧ location ≠ "formData" ∧ ∃ q ∈ inputs, q.isFor name location = true := by
  constructor
  · intro hmem
    obtain ⟨p, hp, heq⟩ := List.mem_map.1 hmem
    obtain ⟨rfl, rfl⟩ := Prod.mk.inj heq
    obtain ⟨a, ha, hproper, hfor, -⟩ := h.exists_made hp
    obtain ⟨hbody, hform⟩ := (RawParameter.isProper_iff hfor).1 hproper
    obtain ⟨q, hq, hsame⟩ := hmerged.exists_input ha
    exact ⟨hbody, hform, q, hq, (RawParameter.same_eq_isFor hfor q).symm.trans hsame⟩
  · rintro ⟨hbody, hform, q, hq, hfor⟩
    obtain ⟨p, hp, hfor'⟩ :=
      h.exists_named hmerged hq ((RawParameter.isProper_iff hfor).2 ⟨hbody, hform⟩)
    obtain ⟨hname, hlocation⟩ := RawParameter.isFor_iff.1 hfor
    obtain ⟨hname', hlocation'⟩ := RawParameter.isFor_iff.1 hfor'
    rw [hname, Scalar.text.injEq] at hname'
    rw [hlocation, Scalar.text.injEq] at hlocation'
    rw [hname', hlocation']
    exact List.mem_map_of_mem hp

theorem MadeOfTable.latest (h : MadeOfTable merged l l' ps) (hmerged : IsMerged inputs merged)
    {p : Parameter} (hp : p ∈ ps) :
    ∃ q, (inputs.filter (·.isFor p.name p.location)).getLast? = some q
      ∧ Says l l' q.members p := by
  obtain ⟨a, ha, -, hfor, hsays⟩ := h.exists_made hp
  obtain ⟨q, hq, hmembers⟩ := hmerged.latest a ha
  refine ⟨q, ?_, hmembers ▸ hsays⟩
  rw [← hq]
  exact congrArg (fun f => (inputs.filter f).getLast?)
    (funext fun r => (RawParameter.same_eq_isFor hfor r).symm)

theorem IsMerged.overrides (h : IsMerged inputs merged) (hps : MadeOfTable merged l l' ps) :
    Overrides inputs l l' ps
      (((merged.filter (·.isBody)).getLast?.map (·.bodySchema)).getD .null) where
  distinct := hps.distinct h
  mem_iff := hps.mem_iff h
  named := fun _ hq hproper => hps.exists_named h hq hproper
  latest := fun _ hp => hps.latest h hp
  ordered := hps.ordered h
  body := by
    rcases h.body with ⟨hnone, hlast⟩ | ⟨a, w, hlast, hschema, hbody, hw, hfirst⟩
    · rw [hlast]
      exact .inl ⟨hnone, rfl⟩
    · rw [hlast]
      exact .inr ⟨w, hbody, hw, hfirst, hschema⟩

/-- **Parameters override one another.**  In a document that is being read, whenever the parameters
of an operation are read, they and its body come of the parameters of the path and of the operation
in this order: each name and location once, at the place of the first and with the members of the
last. -/
theorem readParameters_overrides {files : Source.Files} {raw : Value} {l l' : Library}
    {pathLevel operationLevel : Option Node} {ps : List Parameter} {body : Value}
    (hl : l.Opened files raw.spreadBytes) (hpath : ∀ n ∈ pathLevel, l.Knows n)
    (hown : ∀ n ∈ operationLevel, l.Knows n)
    (h : Runs (readParameters pathLevel operationLevel) l (ps, body) l') :
    ∃ inputs l₁, Runs (writtenParameters pathLevel operationLevel) l inputs l₁
      ∧ Overrides inputs l₁ l' ps body := by
  rw [readParameters_eq] at h
  obtain ⟨inputs, l₁, hinputs, h⟩ := runs_bind_iff.1 h
  refine ⟨inputs, l₁, hinputs, ?_⟩
  obtain ⟨-, hseen⟩ :=
    isSeen_of_runs_written (Reference.spreadBytes_idem raw) hl hpath hown hinputs
  have hmerged := isMerged_foldl inputs
  -- the name and the location in the table are those of a parameter as it is written
  have htable : ∀ q ∈ inputs.foldl addParameter [], q.name.IsSeen ∧ q.location.IsSeen := by
    refine List.foldlRecOn (motive := fun acc => ∀ q ∈ acc, q.name.IsSeen ∧ q.location.IsSeen)
      inputs addParameter (fun q hq => absurd hq List.not_mem_nil) fun acc hacc p hp => ?_
    rcases addParameter_cases acc p with ⟨before, q, after, rfl, -, hadd⟩ | ⟨-, hadd⟩
    · rw [hadd]
      rw [List.forall_mem_append, List.forall_mem_cons] at hacc ⊢
      exact hacc
    · rw [hadd, List.forall_mem_append]
      exact ⟨hacc, List.forall_mem_singleton.2 (hseen p hp)⟩
  obtain ⟨-, hps, rfl⟩ := of_runs_readMerged htable h
  exact hmerged.overrides hps

end Overriding

/-- A path whose parameters are partly given again by its operation: one in another location, one
with another type, and the body. -/
def crateDocument : Value :=
  .object 0 [
    (.text "parameters", .list [
      .object 1 [(.text "name", .text "id"), (.text "in", .text "path"),
        (.text "type", .text "integer")],
      .object 2 [(.text "name", .text "limit"), (.text "in", .text "query"),
        (.text "type", .text "integer")],
      .object 3 [(.text "name", .text "crate"), (.text "in", .text "body"),
        (.text "schema", .object 4 [(.text "type", .text "string")])]]),
    (.text "get", .object 5 [(.text "parameters", .list [
      .object 6 [(.text "name", .text "limit"), (.text "in", .text "header"),
        (.text "type", .text "string")],
      .object 7 [(.text "name", .text "limit"), (.text "in", .text "query"),
        (.text "type", .text "string"), (.text "description", .text "how many")],
      .object 8 [(.text "name", .text "file"), (.text "in", .text "formData")],
      .object 9 [(.text "name", .text "crate"), (.text "in", .text "body"),
        (.text "schema", .object 10 [(.text "type", .text "boolean")])]])])]

/-- The library that the document is read in, and a node of it. -/
def crateLibrary : Library := .ofValue {} crateDocument.spreadBytes

def crateNode (place : List Nat) : Node :=
  ⟨0, place, (Reference.valueAt crateDocument.spreadBytes place).getD .null⟩

/-- What is read of it: the limit in the query stands behind the number, as in the path, and has
the type that the operation gives it. -/
def crateParameters : List Parameter := [
  { name := "id", location := "path", required := true,
    schema := .object 0 [(.text "type", .text "integer")] },
  { name := "limit", location := "query", description := some "how many",
    schema := .object 0 [(.text "type", .text "string")] },
  { name := "limit", location := "header",
    schema := .object 0 [(.text "type", .text "string")] }]

def crateBody : Value := .object 10 [(.text "type", .text "boolean")]

theorem readParameters_overrides_crate :
    ∃ inputs l₁, Runs (writtenParameters (some (crateNode [0])) (some (crateNode [0, 1])))
        crateLibrary inputs l₁
      ∧ Overrides inputs l₁ crateLibrary crateParameters crateBody := by
  have hpath : crateLibrary.Knows (crateNode [0]) := .inl ⟨_, rfl, rfl⟩
  have hown : crateLibrary.Knows (crateNode [0, 1]) := .inl ⟨_, rfl, rfl⟩
  have hopened : crateLibrary.Opened {} crateDocument.spreadBytes := .start
  refine readParameters_overrides hopened ?_ ?_ ?_
  · rintro n ⟨⟩
    exact hpath
  · rintro n ⟨⟩
    exact hown
  · show Runs (readParameters (some (crateNode [0])) (some (crateNode [0, 1]))) crateLibrary
      (crateParameters, crateBody) crateLibrary
    rfl

end Document

end OpenApiClient
