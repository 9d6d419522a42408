/-
Reading a document beside two trees of files.

A document can refer to files, so what is read of it can depend on them.  Here two trees differ in
one place, and what stands there is no JSON text.  A reference to it is followed in neither tree,
though not for the same reason: in one tree the file may be missing, and in the other one hold
something else.  So the same documents are fetched in both, and where a fault is met it is one of
following a reference in both.  In particular a reading that comes to no end in one tree comes to
none in the other, which is what counts for the way in which a run ends.

`Steady` says that of one part of the reading.  It is closed under putting parts together, so it
is enough to go through the reader once.
-/
import OpenApiClient.Proofs.Following
import OpenApiClient.Proofs.OtherFiles
import OpenApiClient.Proofs.RunEnds

set_option autoImplicit false

namespace OpenApiClient

open Source (Files Place)
open Reference (Library Shelved Node)

/-- The file at a place holds no JSON text, if there is one. -/
def Source.Files.NoJson (files : Files) (spot : Place) : Prop :=
  ∀ content text, files.at? spot = some (.file content) → Text.decode content = .ok text →
    ∀ r, Json.readFrom 0 text ≠ .ok r

/-- Two trees that agree but for one place, where no JSON text is to be found in either. -/
structure Source.Files.ReadAlike (spot : Place) (f f' : Files) : Prop where
  alike : f.AlikeBut spot f'
  noJson : f.NoJson spot
  noJson' : f'.NoJson spot

variable {spot : Place} {f f' : Files}

/-! ## Fetching a document -/

namespace Reference

theorem place_of_file {files : Files} {r : Request} {content : List UInt8}
    (hplace : files.place (.ofList (Text.Percent.unescape r.wanted)) = .ok (some spot))
    (h : r.file files = .ok content) : files.at? spot = some (.file content) := by
  unfold Request.file at h
  dsimp only at h
  split at h
  · cases h
  · obtain ⟨-, -, h⟩ := bind_eq_ok_iff.1 h
    split at h
    · have hread := mapError_eq_ok_iff.1 h
      unfold Files.read Files.entry at hread
      rw [hplace] at hread
      obtain ⟨e, hentry, hcontent⟩ := bind_eq_ok_iff.1 hread
      have hat : files.at? spot = some e := by
        obtain ⟨_, hplace, hentry⟩ := bind_eq_ok_iff.1 hentry
        cases hplace
        rw [Option.bind_some] at hentry
        split at hentry
        next hat =>
          cases hentry
          exact hat
        next => cases hentry
      cases e with
      | file old =>
        cases hcontent
        exact hat
      | directory => cases hcontent
    · cases h

/-- Nothing is fetched from a file without JSON text. -/
theorem retrieve_ne_ok {files : Files} (hnoJson : files.NoJson spot) {address : List Char}
    {r : Request} (hr : Request.ofAddress address = .ok r)
    (hscheme : String.ofList r.scheme = "file")
    (hplace : files.place (.ofList (Text.Percent.unescape r.wanted)) = .ok (some spot))
    (v : Value) :
    retrieve files address ≠ .ok v := by
  intro h
  unfold retrieve at h
  rw [hr] at h
  obtain ⟨_, hr, h⟩ := bind_eq_ok_iff.1 h
  cases hr
  obtain ⟨content, hbytes, h⟩ := bind_eq_ok_iff.1 h
  obtain ⟨text, hdecode, h⟩ := bind_eq_ok_iff.1 h
  obtain ⟨read, hread, -⟩ := bind_eq_ok_iff.1 h
  -- the request is for a file, so its bytes are those that stand at the spot
  have hfile : r.file files = .ok content := by
    unfold Request.bytes at hbytes
    simpa [hscheme] using hbytes
  exact hnoJson content text (place_of_file hplace hfile) (mapError_eq_ok_iff.1 hdecode) read
    (mapError_eq_ok_iff.1 hread)

theorem file_agrees (h : f.AlikeBut spot f') {r : Request}
    (hplace : f.place (.ofList (Text.Percent.unescape r.wanted)) ≠ .ok (some spot)) :
    Agrees (fun _ => False) Eq (r.file f) (r.file f') := by
  unfold Request.file
  dsimp only
  split
  · exact .fault Iff.rfl
  · refine ((h.entry hplace).mapError fun _ _ _ => Iff.rfl).bind fun _ _ _ => ?_
    split
    · exact (h.read hplace).mapError fun _ _ _ => Iff.rfl
    · exact .fault Iff.rfl

/-- From every address the same document is fetched beside both trees, or none. -/
theorem retrieve_agrees (h : f.ReadAlike spot f') (address : List Char) :
    Agrees (fun _ => False) Eq (retrieve f address) (retrieve f' address) := by
  cases hr : Request.ofAddress address with
  | error e =>
    unfold retrieve
    rw [hr]
    exact .fault Iff.rfl
  | ok r =>
    by_cases hspot : String.ofList r.scheme = "file"
        ∧ f.place (.ofList (Text.Percent.unescape r.wanted)) = .ok (some spot)
    · -- the trees may differ there, but in neither is it JSON text, so nothing is fetched
      obtain ⟨hscheme, hplace⟩ := hspot
      have hplace' : f'.place (.ofList (Text.Percent.unescape r.wanted)) = .ok (some spot) :=
        (h.alike.place _).eq_ok hplace
      exact Agrees.of_failed (fun _ => id) (retrieve_ne_ok h.noJson hr hscheme hplace)
        (retrieve_ne_ok h.noJson' hr hscheme hplace')
    · have hbytes : Agrees (fun _ => False) Eq (r.bytes f) (r.bytes f') := by
        unfold Request.bytes
        dsimp only
        split
        · exact Agrees.refl _
        · split
          next hscheme => exact file_agrees h.alike fun hplace => hspot ⟨hscheme, hplace⟩
          next => exact Agrees.refl _
      unfold retrieve
      rw [hr]
      refine hbytes.bind fun bytes bytes' heq => ?_
      subst heq
      exact Agrees.refl _

/-! ## Parts of a reading -/

/-- Begun with the same documents beside both trees, a computation gives the same and leaves the
same documents behind, or fails beside both, and both faults are of a special kind or none is. -/
def Steady {ε α : Type} (S : ε → Prop) (f f' : Files) (m : StateT Library (Except ε) α) : Prop :=
  ∀ documents, Agrees S (fun r r' => r.1 = r'.1
      ∧ ∃ more, r.2 = Library.mk f more ∧ r'.2 = Library.mk f' more)
    (m.run ⟨f, documents⟩) (m.run ⟨f', documents⟩)

namespace Steady

variable {ε ε' α β : Type} {S : ε → Prop} {m : StateT Library (Except ε) α}
  {k : α → StateT Library (Except ε) β}

theorem pure (a : α) : Steady S f f' (Pure.pure a) :=
  fun documents => .ok ⟨rfl, documents, rfl, rfl⟩

theorem throw (e : ε) : Steady S f f' (throw e : StateT Library (Except ε) α) :=
  fun _ => .fault Iff.rfl

theorem bind (hm : Steady S f f' m) (hk : ∀ a, Steady S f f' (k a)) :
    Steady S f f' (m >>= k) := by
  intro documents
  rw [StateT.run_bind, StateT.run_bind]
  refine (hm documents).bind fun r r' hr => ?_
  obtain ⟨a, l⟩ := r
  obtain ⟨a', l'⟩ := r'
  obtain ⟨rfl, more, rfl, rfl⟩ := hr
  exact hk a more

theorem map (hm : Steady S f f' m) (g : α → β) : Steady S f f' (g <$> m) := by
  rw [map_eq_pure_bind]
  exact hm.bind fun a => pure (g a)

/-- What is taken out of an outcome does not depend on the library. -/
theorem lift (x : Except ε α) : Steady S f f' (StateT.lift x) := by
  intro documents
  cases x with
  | error e => exact .fault Iff.rfl
  | ok a => exact .ok ⟨rfl, documents, rfl, rfl⟩

/-- Of the library only its documents are looked at. -/
theorem get_bind {k : Library → StateT Library (Except ε) α}
    (hk : ∀ documents, Steady S f f' (k ⟨f, documents⟩))
    (hsame : ∀ documents, k ⟨f, documents⟩ = k ⟨f', documents⟩) :
    Steady S f f' (get >>= k) := by
  intro documents
  have hrun := hk documents documents
  rw [StateT.run_bind, StateT.run_bind, StateT.run_get, StateT.run_get]
  change Agrees S _ ((k ⟨f, documents⟩).run ⟨f, documents⟩)
    ((k ⟨f', documents⟩).run ⟨f', documents⟩)
  rw [← hsame documents]
  exact hrun

theorem mapM {g : α → StateT Library (Except ε) β} (xs : List α)
    (hg : ∀ a, Steady S f f' (g a)) : Steady S f f' (xs.mapM g) := by
  induction xs with
  | nil => exact pure []
  | cons a xs ih =>
    rw [List.mapM_cons]
    exact (hg a).bind fun b => ih.bind fun bs => pure (b :: bs)

end Steady

/-! ## Following references -/

/-- The fault of a reference that has no end. -/
abbrev IsEndless (e : Fault) : Prop := e = .endless

theorem run_documentAt (files : Files) (documents : List Shelved) (ref : String)
    (address : List Char) :
    (documentAt ref address).run ⟨files, documents⟩
      = ((Address.normal address).mapError Fault.address >>= fun normal =>
        match documents.findIdx? fun d => d.address = normal with
        | some i => .ok (i, ⟨files, documents⟩)
        | none => (retrieve files address).mapError (.unavailable ref) >>= fun v =>
            .ok (documents.length, ⟨files, documents ++ [Shelved.mk address normal v]⟩)) := by
  unfold documentAt documentAt.liftExcept
  rw [StateT.run_bind, StateT.run_get]
  cases Address.normal address with
  | error e => rfl
  | ok normal =>
    change StateT.run (match documents.findIdx? fun d => d.address = normal with
      | some i => _
      | none => _ : Following Nat) _
      = match documents.findIdx? fun d => d.address = normal with
        | some i => _
        | none => _
    cases documents.findIdx? fun d => d.address = normal with
    | some i => rfl
    | none =>
      dsimp only
      cases retrieve files address <;> rfl

theorem steady_documentAt (h : f.ReadAlike spot f') (ref : String) (address : List Char) :
    Steady IsEndless f f' (documentAt ref address) := by
  intro documents
  rw [run_documentAt, run_documentAt]
  refine (Agrees.refl _).bind fun normal normal' heq => ?_
  subst heq
  split
  · exact .ok ⟨rfl, documents, rfl, rfl⟩
  · refine ((retrieve_agrees h address).mapError fun e e' _ => ?_).bind fun v v' heq => ?_
    · constructor <;> (intro h; cases h)
    · subst heq
      exact .ok ⟨rfl, _, rfl, rfl⟩

namespace View

/-- Going on to something that may be missing. -/
theorem steady_onward {next : Option Node} {dangling : Fault} {k : Node → Following Node}
    (hk : ∀ n, Steady IsEndless f f' (k n)) :
    Steady IsEndless f f' (match next with
      | some n => k n
      | none => throw dangling) := by
  cases next with
  | none => exact .throw dangling
  | some n => exact hk n

theorem steady_walk {settle : Node → Following Node}
    (hsettle : ∀ n, Steady IsEndless f f' (settle n))
    (self : Node) (dangling : Fault) (steps : List String) (n : Node) :
    Steady IsEndless f f' (walk settle self dangling n steps) := by
  induction steps generalizing n with
  | nil => exact .pure n
  | cons step steps ih =>
    rw [walk]
    split
    · exact steady_onward ih
    · exact (hsettle n).bind fun here => steady_onward ih

theorem steady_settleWith (h : f.ReadAlike spot f') (fuel : Nat) (n : Node) :
    Steady IsEndless f f' (settleWith fuel n) := by
  induction fuel generalizing n with
  | zero =>
    rw [settleWith]
    split
    · exact .throw _
    · exact .pure n
  | succ fuel ih =>
    rw [settleWith]
    split
    · exact .pure n
    · refine .get_bind (fun documents => ?_) fun documents => rfl
      dsimp only
      split
      · exact .throw _
      · -- the tree is looked at for the document at the address, and nowhere else
        refine (steady_documentAt h _ _).bind fun document => ?_
        refine .get_bind (fun more => ?_) fun more => rfl
        refine (steady_walk ih _ _ _ _).bind fun found => ?_
        split
        · exact .throw _
        · exact ih found

end View

end Reference

/-! ## Looking at places -/

namespace Document

open Reference (Steady)
open Validation (Checked)

/-- The fault of a document that has no end. -/
abbrev IsEndless (e : Fault) : Prop := e = .endless

theorem steady_eachShown {shown : Node → Reading (Option String)}
    (hshown : ∀ n, Steady IsEndless f f' (shown n)) (ns : List Node) :
    Steady IsEndless f f' (eachShown shown ns) := by
  induction ns with
  | nil => exact .pure _
  | cons n ns ih =>
    rw [eachShown]
    refine (hshown n).bind fun s => ?_
    split
    · exact .pure _
    · exact ih.bind fun _ => .pure _

section Reading

variable (h : f.ReadAlike spot f')
include h

theorem steady_settle (n : Node) : Steady IsEndless f f' (settle n) := by
  intro documents
  refine (Reference.View.steady_settleWith h _ n documents).mapError fun e e' hee' => ?_
  have hendless : ∀ e : Reference.Fault, Fault.ofReference e = .endless ↔ e = .endless := by
    intro e
    cases e <;> simp [Fault.ofReference]
  exact (hendless e).trans (hee'.trans (hendless e').symm)

omit h in
theorem run_settled? (n : Node) (l : Reference.Library) :
    (settled? n).run l = match (settle n).run l with
      | .ok (m, l) => .ok (some m, l)
      | .error _ => .ok (none, l) := rfl

theorem steady_settle? (n : Node) : Steady IsEndless f f' (settled? n) := by
  intro documents
  have hsettle := steady_settle h n documents
  rw [run_settled?, run_settled?]
  generalize (settle n).run ⟨f, documents⟩ = x, (settle n).run ⟨f', documents⟩ = x' at hsettle
  cases hsettle with
  | ok hr =>
    obtain ⟨hvalue, more, hl, hl'⟩ := hr
    exact .ok ⟨congrArg some hvalue, more, hl, hl'⟩
  | fault => exact .ok ⟨rfl, documents, rfl, rfl⟩

theorem steady_membersFor (name : String) (n : Node) :
    Steady IsEndless f f' (membersFor name n) := by
  refine (steady_settle h n).bind fun m => ?_
  split
  · exact .pure _
  · exact .throw _

theorem steady_membersOfOptional (name : String) (n : Option Node) :
    Steady IsEndless f f' (membersOfOptional name n) := by
  cases n with
  | none => exact .pure _
  | some n => exact steady_membersFor h name n

theorem steady_partsOf (n : Node) : Steady IsEndless f f' (partsOf n) := by
  refine (steady_settle h n).bind fun m => ?_
  split
  · exact .pure _
  · exact .throw _

theorem steady_partsOfOptional (n : Option Node) :
    Steady IsEndless f f' (partsOfOptional n) := by
  cases n with
  | none => exact .pure _
  | some n => exact steady_partsOf h n

theorem steady_isGiven (n : Node) : Steady IsEndless f f' (isGiven n) :=
  (steady_settle h n).bind fun _ => .pure _

theorem steady_isGivenOr (default : Bool) (n : Option Node) :
    Steady IsEndless f f' (isGivenOr default n) := by
  cases n with
  | none => exact .pure _
  | some n => exact steady_isGiven h n

theorem steady_holdsText (name : String) (ns : List Node) :
    Steady IsEndless f f' (holdsText name ns) := by
  induction ns with
  | nil => exact .pure _
  | cons n ns ih =>
    rw [holdsText]
    refine (steady_settle h n).bind fun m => ?_
    split
    · exact .pure _
    · exact ih

theorem steady_partNamed? (n : Node) (name : String) :
    Steady IsEndless f f' (partNamed? n name) := by
  refine (steady_settle h n).bind fun m => ?_
  split
  · exact .pure _
  · refine (steady_holdsText h name _).bind fun holds => ?_
    split
    · exact .throw _
    · exact .pure _
  · split
    · exact .throw _
    · exact .pure _
  · split
    · exact .throw _
    · exact .pure _
  · exact .throw _

/-! ### What a report shows -/

theorem steady_literalOf (fuel : Nat) (around : List Node) (n : Node) :
    Steady IsEndless f f' (literalOf fuel around n) := by
  induction fuel generalizing around n with
  | zero => exact .pure _
  | succ fuel ih =>
    rw [literalOf]
    refine (steady_settle? h n).bind fun m => ?_
    split
    · exact .pure _
    next m =>
      dsimp only
      split
      · split
        · exact .pure _
        · exact (steady_eachShown (fun n => ih _ n) _).bind fun _ => .pure _
      · split
        · exact .pure _
        · exact (steady_eachShown (fun n => ih _ n) _).bind fun _ => .pure _
      · exact .pure _

theorem steady_exhibit (n : Node) : Steady IsEndless f f' (exhibit n) :=
  (steady_literalOf h _ _ n).bind fun _ => .pure _

theorem steady_text (n : Node) : Steady IsEndless f f' (text n) := by
  unfold text
  split
  · exact (steady_literalOf h _ _ n).bind fun _ => .pure _
  · split
    · exact (steady_exhibit h n).bind fun _ => .pure _
    · exact .pure _

theorem steady_optionalText (n : Option Node) : Steady IsEndless f f' (optionalText n) := by
  cases n with
  | none => exact .pure _
  | some n =>
    rw [optionalText]
    split
    · exact .pure _
    · exact (steady_text h n).map _

/-! ## Reading a document -/

/-! ### Bodies and responses -/

theorem steady_preferredMedia (content : Node) (types : List String) :
    Steady IsEndless f f' (preferredMedia content types) := by
  induction types with
  | nil => exact .pure _
  | cons type types ih =>
    rw [preferredMedia]
    refine (steady_partNamed? h content type).bind fun media => ?_
    split
    · exact .pure _
    · exact ih

theorem steady_firstSchema (ms : List (Scalar × Node)) :
    Steady IsEndless f f' (firstSchema ms) := by
  induction ms with
  | nil => exact .pure _
  | cons m ms ih =>
    obtain ⟨key, media⟩ := m
    rw [firstSchema]
    refine (steady_partNamed? h media "schema").bind fun n => ?_
    split
    · exact .pure _
    · exact ih

theorem steady_contentSchema (content : Option Node) :
    Steady IsEndless f f' (contentSchema content) := by
  cases content with
  | none => exact .pure _
  | some n =>
    refine (steady_isGiven h n).bind fun given => ?_
    split
    · exact .pure _
    · refine (steady_preferredMedia h n _).bind fun media => ?_
      split
      · exact (steady_membersFor h _ _).bind fun _ => .pure _
      · exact (steady_membersFor h _ _).bind fun ms => steady_firstSchema h ms

theorem steady_successSchema (rs : List (Scalar × Node)) :
    Steady IsEndless f f' (successSchema rs) := by
  induction rs with
  | nil => exact .pure _
  | cons r rs ih =>
    obtain ⟨code, response⟩ := r
    rw [successSchema]
    split
    · exact ih
    · refine (steady_membersFor h _ _).bind fun ms => ?_
      refine (steady_contentSchema h _).bind fun schema => ?_
      split
      · exact .pure _
      · exact ih

theorem steady_responseSchema (responses : Option Node) :
    Steady IsEndless f f' (responseSchema responses) := by
  refine (steady_membersOfOptional h _ responses).bind fun ms => ?_
  split
  · exact .throw _
  · exact steady_successSchema h _

/-! ### Parameters -/

theorem steady_keyPart (n : Option Node) : Steady IsEndless f f' (KeyPart.ofNode n) := by
  cases n with
  | none => exact .pure _
  | some n =>
    refine (steady_settle h n).bind fun found => ?_
    split
    · exact .pure _
    · exact .throw _

theorem steady_rawParameter (n : Node) : Steady IsEndless f f' (rawParameter n) := by
  refine (steady_membersFor h _ n).bind fun ms => ?_
  refine (steady_keyPart h _).bind fun name => ?_
  exact (steady_keyPart h _).bind fun location => .pure _

theorem steady_addParameters (acc : List RawParameter) (ns : List Node) :
    Steady IsEndless f f' (addParameters acc ns) := by
  induction ns generalizing acc with
  | nil => exact .pure _
  | cons n ns ih => exact (steady_rawParameter h n).bind fun p => ih _

theorem steady_readParameter (p : RawParameter) :
    Steady IsEndless f f' (readParameter p) := by
  refine (steady_isGivenOr h _ _).bind fun required => ?_
  exact (steady_optionalText h _).bind fun description => Steady.lift _

theorem steady_readMerged (body : Value) (ps : List RawParameter) :
    Steady IsEndless f f' (readMerged body ps) := by
  induction ps generalizing body with
  | nil => exact .pure _
  | cons p ps ih =>
    rw [readMerged]
    split
    · exact ih _
    · split
      · exact ih _
      · exact (steady_readParameter h p).bind fun parameter => (ih body).bind fun rest => .pure _

theorem steady_readParameters (pathLevel operationLevel : Option Node) :
    Steady IsEndless f f' (readParameters pathLevel operationLevel) := by
  refine (steady_partsOfOptional h pathLevel).bind fun fromPath => ?_
  refine (steady_partsOfOptional h operationLevel).bind fun own => ?_
  exact (steady_addParameters h _ _).bind fun merged => steady_readMerged h _ _

/-! ### Operations -/

theorem steady_bodySchema (fromParameters : Value) (body : Option Node) :
    Steady IsEndless f f' (bodySchema fromParameters body) := by
  cases body with
  | none => exact .pure _
  | some n =>
    refine (steady_isGiven h n).bind fun given => ?_
    split
    · exact .pure _
    · refine (steady_membersFor h _ n).bind fun ms => ?_
      refine (steady_contentSchema h _).bind fun schema => ?_
      split
      · exact .pure _
      · exact .pure _

theorem steady_readOperation (verb : Verb) (path : Scalar) (pathLevel : Option Node) (spec : Node) :
    Steady IsEndless f f' (readOperation verb path pathLevel spec) := by
  refine (steady_membersFor h _ spec).bind fun ms => ?_
  refine (steady_readParameters h _ _).bind fun parameters => ?_
  refine (steady_bodySchema h _ _).bind fun body => ?_
  refine (steady_isGivenOr h _ _).bind fun deprecated => ?_
  refine (steady_partsOfOptional h _).bind fun tagNodes => ?_
  refine (steady_responseSchema h _).bind fun response => ?_
  refine (steady_optionalText h _).bind fun operationId => ?_
  refine (steady_optionalText h _).bind fun summary => ?_
  refine (steady_optionalText h _).bind fun description => ?_
  exact (Steady.mapM tagNodes (steady_text h)).bind fun tags => Steady.lift _

theorem steady_readPathItem (path : Scalar) (pathLevel : Option Node) (ms : List (Scalar × Node)) :
    Steady IsEndless f f' (readPathItem path pathLevel ms) := by
  induction ms with
  | nil => exact .pure _
  | cons m ms ih =>
    obtain ⟨key, spec⟩ := m
    unfold readPathItem
    split
    · split
      · exact (steady_readOperation h _ _ _ _).bind fun operation => ih.bind fun rest => .pure _
      · exact ih
    · exact ih

theorem steady_readPaths (paths : List (Scalar × Node)) :
    Steady IsEndless f f' (readPaths paths) := by
  induction paths with
  | nil => exact .pure _
  | cons p paths ih =>
    obtain ⟨path, item⟩ := p
    rw [readPaths]
    refine (steady_membersFor h _ item).bind fun ms => ?_
    exact (steady_readPathItem h _ _ _).bind fun operations => ih.bind fun rest => .pure _

theorem steady_readOperations : Steady IsEndless f f' readOperations := by
  refine .get_bind (fun documents => ?_) fun documents => rfl
  refine (steady_membersFor h _ _).bind fun ms => ?_
  split
  · exact (steady_membersFor h _ _).bind fun paths => steady_readPaths h paths
  · exact .pure _

/-- A document is read in the same way beside both trees. -/
theorem read_agrees (v : Value) : Agrees IsEndless Eq (read f v) (read f' v) := by
  have hparts : Agrees IsEndless Eq (readParts f v) (readParts f' v) := by
    unfold readParts
    split
    · exact .fault Iff.rfl
    · refine (steady_readOperations h _).bind fun r r' hr => ?_
      obtain ⟨operations, l⟩ := r
      obtain ⟨operations', l'⟩ := r'
      obtain ⟨rfl, -⟩ := hr
      exact Agrees.refl _
  unfold read
  split
  · split
    · exact .fault Iff.rfl
    · exact hparts
    · exact .fault Iff.rfl
  · exact .fault Iff.rfl

end Reading

end Document

/-! ## Loading a document -/

namespace Source

/-- A location is not the path of the file at a place: it is fetched over a server, or leads
elsewhere. -/
def LiesApart (spot : Place) (files : Files) (location : String) : Prop :=
  isRemote location = true ∨ files.place location ≠ .ok (some spot)

/-- A file that cannot be read is always reported. -/
theorem exists_fileText_eq_error {files : Files} {path : String} {e : FileFault}
    (h : files.read path = .error e) :
    ∃ fault, fileText files path = .error fault ∧ ¬fault.Escapes := by
  unfold fileText
  rw [h]
  cases e with
  | refused why p => cases why <;> exact ⟨_, rfl, by rintro ⟨⟩⟩
  | _ => exact ⟨_, rfl, by rintro ⟨⟩⟩

theorem fileText_agrees (h : f.AlikeBut spot f') {path : String}
    (hpath : f.place path ≠ .ok (some spot)) :
    Agrees LoadFault.Escapes Eq (fileText f path) (fileText f' path) := by
  have hread := h.read hpath
  cases hbytes : f.read path with
  | ok bytes =>
    unfold fileText
    rw [hbytes, hread.eq_ok hbytes]
    exact Agrees.refl _
  -- whatever is wrong with a file is reported, so the two faults may differ
  | error e =>
    cases hbytes' : f'.read path with
    | ok bytes' =>
      rw [hbytes, hbytes'] at hread
      cases hread
    | error e' =>
      obtain ⟨fault, hfault, hreported⟩ := exists_fileText_eq_error hbytes
      obtain ⟨fault', hfault', hreported'⟩ := exists_fileText_eq_error hbytes'
      rw [hfault, hfault']
      exact .fault (iff_of_false hreported hreported')

/-- From a location apart from the file that differs the same document is loaded beside both trees,
or the faults beside both are reported, or none is. -/
theorem load_agrees (h : f.ReadAlike spot f') (web : Web) {location : String}
    (hlocation : LiesApart spot f location) :
    Agrees LoadFault.Escapes Eq (load ⟨f, web⟩ location) (load ⟨f', web⟩ location) := by
  have htext : Agrees LoadFault.Escapes Eq (textAt ⟨f, web⟩ location)
      (textAt ⟨f', web⟩ location) := by
    unfold textAt
    split
    · exact Agrees.refl _
    next hremote =>
      exact fileText_agrees h.alike (hlocation.resolve_left hremote)
  refine htext.bind fun text text' heq => ?_
  subst heq
  refine (Agrees.refl _).bind fun v v' heq => ?_
  subst heq
  refine (Document.read_agrees h v).mapError fun e e' hee' => ?_
  -- of the faults of a document only one escapes, and it does not depend on the files
  have hescapes : ∀ e : Document.Fault, LoadFault.Escapes (.document e) ↔ e = .endless := by
    intro e
    constructor
    · rintro ⟨⟩
      rfl
    · rintro rfl
      exact .endless
  exact (hescapes e).trans (hee'.trans (hescapes e').symm)

end Source

end OpenApiClient
