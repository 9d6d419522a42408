/-
Which faults of a document are not reported.

A document of JSON in which a value of the wrong kind stands somewhere ends in a fault about its
location, with one exception.  The table of named schemas may be given as a list of pairs, and an
item of that list with one part, or with three, ends the reading with a fault that names no
location at all.  An item that has no parts is reported, and so is a table that is no list.

So there are three classes: faults that are reported, faults of following a reference, and items
of the wrong length.  `Mispaired` says when the last one arises, and that is an equivalence: the
operations, which are read first, must be in order, and so must be the items before.  For a
document whose references are well-behaved nothing else is left.
-/
import OpenApiClient.Proofs.Indirection
import OpenApiClient.Proofs.ReaderFaults

set_option autoImplicit false

namespace OpenApiClient.Document

open Reference (Library Node)

/-! ## A table that is given as pairs -/

/-- A value can be taken for a key and its value: it has two parts, and the first is a scalar. -/
def IsPair (v : Value) : Prop := ∃ k w, v.parts? = some [.scalar k, w]

/-- A table is no object, but it can be gone through; the items before position `i` are pairs, and
the one at `i` has `n` parts, which are not two. -/
def MisfitAt (table : Value) (i n : Nat) : Prop :=
  table.isObject = false ∧ ∃ vs, table.parts? = some vs ∧ (∀ j < i, ∃ v ∈ vs[j]?, IsPair v)
    ∧ ∃ v ∈ vs[i]?, ∃ parts, v.parts? = some parts ∧ parts.length = n ∧ n ≠ 2

theorem exists_schemaPair_iff {i : Nat} {v : Value} :
    (∃ p, schemaPair i v = .ok p) ↔ IsPair v := by
  constructor
  · rintro ⟨p, h⟩
    unfold schemaPair at h
    split at h
    · cases h
    next k w hparts => exact ⟨k, w, hparts⟩
    · cases h
    · cases h
  · rintro ⟨k, w, hparts⟩
    refine ⟨(k, w), ?_⟩
    simp only [schemaPair, hparts]

/-- An item that is no pair is reported, unless it has a wrong number of parts. -/
theorem schemaPair_error {i : Nat} {v : Value} {f : Fault} (h : schemaPair i v = .error f) :
    f.IsReported ∨ ∃ parts, v.parts? = some parts ∧ parts.length ≠ 2
      ∧ f = .badPair i parts.length := by
  unfold schemaPair at h
  split at h
  · cases h
    exact .inl rfl
  · cases h
  · cases h
    exact .inl rfl
  next parts hscalar hpair hparts =>
    cases h
    refine .inr ⟨parts, hparts, ?_, rfl⟩
    intro hlength
    obtain ⟨k, w, rfl⟩ := List.length_eq_two.1 hlength
    exact hpair k w rfl

theorem schemaPair_of_length {i : Nat} {v : Value} {parts : List Value}
    (hparts : v.parts? = some parts) (hlength : parts.length ≠ 2) :
    schemaPair i v = .error (.badPair i parts.length) := by
  unfold schemaPair
  rw [hparts]
  split
  next heq => cases heq
  next heq =>
    cases heq
    exact (hlength rfl).elim
  next heq =>
    cases heq
    exact (hlength rfl).elim
  next heq =>
    cases heq
    rfl

/-- What is wrong with a table is reported, unless an item has a wrong number of parts. -/
theorem tableMembers_error {table : Value} {f : Fault} (h : tableMembers table = .error f) :
    f.IsReported ∨ ∃ i n, f = .badPair i n ∧ MisfitAt table i n := by
  unfold tableMembers at h
  split at h
  · cases h
  next hobject =>
    split at h
    next vs hparts =>
      rcases bind_eq_error_iff.1 h with h | ⟨ps, -, hpure⟩
      · -- the entry at fault is the first one, so all before it are pairs
        obtain ⟨i, ⟨v, position⟩, hv, hfails, hbefore⟩ := mapM_eq_error_iff.1 h
        rw [List.getElem?_zipIdx, Option.map_eq_some_iff] at hv
        obtain ⟨v, hv, heq⟩ := hv
        cases heq
        rw [Nat.zero_add] at hfails
        rcases schemaPair_error hfails with hreported | ⟨parts, hv', hlength, rfl⟩
        · exact .inl hreported
        · refine .inr ⟨i, parts.length, rfl, ?_, vs, hparts, ?_, v, hv, parts, hv', rfl, hlength⟩
          · cases table with
            | object k ms => exact (hobject k ms rfl).elim
            | _ => rfl
          · intro j hj
            obtain ⟨⟨w, position⟩, p, hw, hp⟩ := hbefore j hj
            rw [List.getElem?_zipIdx, Option.map_eq_some_iff] at hw
            obtain ⟨w, hw, heq⟩ := hw
            cases heq
            exact ⟨w, hw, exists_schemaPair_iff.1 ⟨p, hp⟩⟩
      · cases hpure
    next =>
      cases h
      exact .inl rfl

theorem tableMembers_of_misfit {table : Value} {i n : Nat} (h : MisfitAt table i n) :
    tableMembers table = .error (.badPair i n) := by
  obtain ⟨hobject, vs, hparts, hbefore, v, hv, parts, hv', rfl, hlength⟩ := h
  unfold tableMembers
  split
  · cases hobject
  · rw [hparts]
    apply bind_eq_error_iff.2
    left
    apply mapM_eq_error_iff.2
    refine ⟨i, (v, i), ?_, schemaPair_of_length hv' hlength, ?_⟩
    · rw [List.getElem?_zipIdx, hv, Nat.zero_add]
      rfl
    · intro j hj
      obtain ⟨w, hw, hpair⟩ := hbefore j hj
      obtain ⟨p, hp⟩ := exists_schemaPair_iff.2 hpair
      refine ⟨(w, j), p, ?_, hp⟩
      rw [List.getElem?_zipIdx, hw, Nat.zero_add]
      rfl

/-! ## The head of a document -/

section Head

variable {raw : Value}

theorem objectMembers_error {v : Value} {f : Fault} (h : objectMembers v = .error f) :
    f.IsReported := by
  cases v with
  | object k ms => cases h
  | _ =>
    cases h
    rfl

theorem rawSchemas_error {f : Fault} (h : rawSchemas raw = .error f) : f.IsReported := by
  unfold rawSchemas at h
  extract_lets given rest at h
  have hrest : ∀ components, rest components ≠ .error f := by
    intro components hfails
    cases hfails
  split at h
  · exact (hrest [] h).elim
  · rcases bind_eq_error_iff.1 h with h | ⟨components, -, h⟩
    · exact objectMembers_error h
    · exact (hrest components h).elim

theorem readInfo_error {f : Fault} (h : readInfo raw = .error f) : f.IsReported := by
  unfold readInfo at h
  split at h
  · cases h
  · exact objectMembers_error h

/-- A decoded value can be written out as a text. -/
theorem displayed_of_decoded {v : Value} (h : v.Decoded) : displayed v = .ok v.display := by
  rw [displayed, if_pos h.isWritable]

theorem exists_formatVersion_of_decoded (hraw : raw.Decoded) :
    ∃ version, formatVersion raw = .ok version := by
  unfold formatVersion
  split
  next v hfound =>
    obtain ⟨key, -, hv⟩ := List.exists_of_findSome?_eq_some hfound
    have hmember : raw.member? key = some v := (Option.filter_eq_some_iff.1 hv).1
    exact ⟨v.display, displayed_of_decoded (hraw.member? hmember)⟩
  next => exact ⟨"3.0.0", rfl⟩

/-- The version in the head of a document can be written out. -/
theorem decoded_infoVersion (hraw : raw.Decoded) {info : Members} (h : readInfo raw = .ok info)
    {v : Value} (hv : Members.getText? info "version" = some v) : v.Decoded := by
  unfold readInfo at h
  split at h
  · cases h
    cases hv
  next head hhead =>
    have hmember : raw.member? "info" = some head := (Option.filter_eq_some_iff.1 hhead).1
    have hdecoded := hraw.member? hmember
    cases head with
    | object k fields =>
      cases h
      exact hdecoded.member? hv
    | _ => cases h

/-- The head of a document is in order up to its table of schemas, which has an item at position
`i` with `n` parts instead of two. -/
def HeadMispaired (raw : Value) (i n : Nat) : Prop :=
  ∃ table info, rawSchemas raw = .ok table ∧ readInfo raw = .ok info ∧ MisfitAt table i n

theorem readHead_error (hraw : raw.Decoded) {operations : List Operation} {f : Fault}
    (h : readHead raw operations = .error f) :
    f.IsReported ∨ ∃ i n, f = .badPair i n ∧ HeadMispaired raw i n := by
  unfold readHead at h
  rcases bind_eq_error_iff.1 h with h | ⟨table, htable, h⟩
  · exact .inl (rawSchemas_error h)
  obtain ⟨format, hformat⟩ := exists_formatVersion_of_decoded hraw
  rw [hformat] at h
  rcases bind_eq_error_iff.1 h with h | ⟨_, -, h⟩
  · cases h
  rcases bind_eq_error_iff.1 h with h | ⟨info, hinfo, h⟩
  · exact .inl (readInfo_error h)
  extract_lets description rest at h
  -- whatever the version is, the table is what is looked at next
  have hrest : ∀ version, rest version = .error f →
      f.IsReported ∨ ∃ i n, f = .badPair i n ∧ HeadMispaired raw i n := by
    intro version hfails
    rcases bind_eq_error_iff.1 hfails with hfails | ⟨members, -, hfails⟩
    · rcases tableMembers_error hfails with hreported | ⟨i, n, rfl, hmisfit⟩
      · exact .inl hreported
      · exact .inr ⟨i, n, rfl, table, info, htable, hinfo, hmisfit⟩
    · exact .inl (isReported_of_check hfails)
  split at h
  next v hv =>
    rw [displayed_of_decoded (decoded_infoVersion hraw hinfo hv)] at h
    exact hrest v.display h
  next => exact hrest "" h

theorem readHead_of_mispaired (hraw : raw.Decoded) (operations : List Operation) {i n : Nat}
    (h : HeadMispaired raw i n) : readHead raw operations = .error (.badPair i n) := by
  obtain ⟨table, info, htable, hinfo, hmisfit⟩ := h
  obtain ⟨format, hformat⟩ := exists_formatVersion_of_decoded hraw
  unfold readHead
  refine bind_eq_error_iff.2 (.inr ⟨table, htable, ?_⟩)
  refine bind_eq_error_iff.2 (.inr ⟨format, hformat, ?_⟩)
  refine bind_eq_error_iff.2 (.inr ⟨info, hinfo, ?_⟩)
  extract_lets description rest
  have hrest : ∀ version, rest version = .error (.badPair i n) := fun version =>
    bind_eq_error_iff.2 (.inl (tableMembers_of_misfit hmisfit))
  split
  next v hv =>
    rw [displayed_of_decoded (decoded_infoVersion hraw hinfo hv)]
    exact hrest v.display
  next => exact hrest ""

end Head

/-! ## Whole documents -/

/-- The paths of a document and its operations are in order, and so are its schemas up to an item
at position `i`, which has `n` parts instead of two. -/
def Mispaired (files : Source.Files) (raw : Value) (i n : Nat) : Prop :=
  (∃ k ms, raw.member? "paths" = some (.object k ms)) ∧ raw.isTooDeep = false
    ∧ (∃ operations l, Runs readOperations (Library.ofValue files raw) operations l)
    ∧ HeadMispaired raw i n

variable {files : Source.Files} {raw : Value}

theorem readParts_error (hraw : raw.Decoded) {f : Fault} (h : readParts files raw = .error f)
    {k : Nat} {ms : Members} (hpaths : raw.member? "paths" = some (.object k ms)) :
    Answered files raw f ∨ ∃ i n, f = .badPair i n ∧ Mispaired files raw i n := by
  unfold readParts at h
  rw [hraw.holdsLoop, hraw.spreadBytes, Bool.false_or] at h
  by_cases hdeep : raw.isTooDeep = true
  · rw [if_pos hdeep] at h
    cases h
    exact .inl (.inr (.inl ⟨hdeep, rfl⟩))
  · rw [if_neg hdeep] at h
    -- the operations are read before the head
    rcases bind_eq_error_iff.1 h with h | ⟨⟨operations, l⟩, hrun, h⟩
    · exact .inl ((careful_readOperations hraw .start).1 f h)
    rcases bind_eq_error_iff.1 h with h | ⟨d, -, h⟩
    · rcases readHead_error hraw h with hreported | ⟨i, n, rfl, hhead⟩
      · exact .inl (.inl hreported)
      · exact .inr ⟨i, n, rfl, ⟨k, ms, hpaths⟩, Bool.eq_false_iff.2 hdeep,
          ⟨operations, l, hrun⟩, hhead⟩
    · cases h

/-- Every fault of a document of JSON belongs to one of the three classes. -/
theorem read_error (hraw : raw.Decoded) {f : Fault} (h : read files raw = .error f) :
    Answered files raw f ∨ ∃ i n, f = .badPair i n ∧ Mispaired files raw i n := by
  by_cases hpaths : ∃ k ms, raw.member? "paths" = some (.object k ms)
  · obtain ⟨k, ms, hpaths⟩ := hpaths
    rw [read_eq_readParts hpaths] at h
    exact readParts_error hraw h hpaths
  · -- without an object of paths the reading stops at once, and that is reported
    refine .inl (.inl ?_)
    unfold read at h
    split at h
    next fields =>
      split at h
      · cases h
        rfl
      next k ms hobject => exact (hpaths ⟨k, ms, hobject⟩).elim
      · cases h
        rfl
    · cases h
      rfl

/-- No reference fails as an item of the wrong length does. -/
theorem not_blamed_badPair (i n : Nat) : ¬ Blamed files raw (.badPair i n) := by
  rintro (⟨-, h⟩ | ⟨l, m, -, -, -, h⟩)
  · cases h
  · obtain ⟨f, -, hf⟩ := mapError_eq_error_iff.1 h
    cases f <;> cases hf

/-- An item of the wrong length is what reading ends with when all before it is in order. -/
theorem read_eq_badPair_iff (hraw : raw.Decoded) {i n : Nat} :
    read files raw = .error (.badPair i n) ↔ Mispaired files raw i n := by
  constructor
  · intro h
    rcases read_error hraw h with (hreported | hblamed) | ⟨i', n', heq, hmispaired⟩
    · cases hreported
    · exact (not_blamed_badPair i n hblamed).elim
    · cases heq
      exact hmispaired
  · rintro ⟨⟨k, ms, hpaths⟩, hdeep, ⟨operations, l, hrun⟩, hhead⟩
    rw [read_eq_readParts hpaths]
    unfold readParts
    rw [hraw.holdsLoop, hraw.spreadBytes, hdeep]
    apply bind_eq_error_iff.2 (.inr ⟨(operations, l), hrun, ?_⟩)
    exact bind_eq_error_iff.2 (.inl (readHead_of_mispaired hraw operations hhead))

/-! ## What is said about the location -/

/-- A fault is reported as one about a location: its message begins with it. -/
def Fault.IsAbout (f : Fault) (location : String) : Prop :=
  f.IsReported ∧ (Source.LoadFault.document f).message location = location ++ ": " ++ f.message

theorem Fault.isAbout_iff {f : Fault} {location : String} :
    f.IsAbout location ↔ f.IsReported := by
  constructor
  · exact And.left
  · intro h
    refine ⟨h, ?_⟩
    have habout : (Source.LoadFault.document f).isAboutLocation = true := h
    rw [Source.LoadFault.message, if_pos habout, String.append_assoc]
    rfl

/-- References fail only with the faults of references, wherever they stand in the document or in
one that it leads to, and the document is not nested too deeply for them to be found. -/
def ReferencesReported (files : Source.Files) (raw : Value) : Prop :=
  raw.isTooDeep = false ∧ ∀ l n f, l.Opened files raw → l.Holds n →
    (settle n).run l = .error f → ∃ f', f = .reference f'

/-- A document is read, or its fault is reported as one about the location. -/
def ReadOrReported (files : Source.Files) (location : String) (raw : Value) : Prop :=
  (∃ d, read files raw = .ok d) ∨ ∃ f, read files raw = .error f ∧ f.IsAbout location

theorem ReferencesReported.isReported (h : ReferencesReported files raw) {f : Fault}
    (hf : Answered files raw f) : f.IsReported := by
  obtain ⟨hdeep, hfollowed⟩ := h
  rcases hf with hf | ⟨hdeep', -⟩ | ⟨l, n, hl, hn, -, hfails⟩
  · exact hf
  · rw [hdeep] at hdeep'
    cases hdeep'
  · obtain ⟨f', rfl⟩ := hfollowed l n f hl hn hfails
    rfl

/-- A fault that reading a document of JSON ends with is about the location, or it is that of
following a reference, or the table of schemas has an item of a wrong length; and the last one
happens exactly if all before that item is in order.  So if references fail only as references do,
a document is read or reported exactly if there is no such item. -/
theorem structure_faults_classified (files : Source.Files) (location : String) {text : String}
    {raw : Value} (h : Json.read text = .ok raw) :
    (∀ f, read files raw = .error f → f.IsAbout location ∨ Blamed files raw f
        ∨ ∃ i n, f = .badPair i n ∧ Mispaired files raw i n)
      ∧ (∀ i n, read files raw = .error (.badPair i n) ↔ Mispaired files raw i n)
      ∧ (ReferencesReported files raw →
        (ReadOrReported files location raw ↔ ∀ i n, ¬ Mispaired files raw i n)) := by
  have hraw : raw.Decoded := Json.decoded_read h
  refine ⟨?_, ?_, ?_⟩
  · intro f hf
    rcases read_error hraw hf with (hreported | hblamed) | hmispaired
    · exact .inl (Fault.isAbout_iff.2 hreported)
    · exact .inr (.inl hblamed)
    · exact .inr (.inr hmispaired)
  · intro i n
    exact read_eq_badPair_iff hraw
  · intro hreferences
    constructor
    · intro hread i n hmispaired
      -- the fault of an entry is none that is reported
      have hfails := (read_eq_badPair_iff hraw).2 hmispaired
      rcases hread with ⟨d, hd⟩ | ⟨f, hf, habout⟩
      · rw [hd] at hfails
        cases hfails
      · rw [hf] at hfails
        cases hfails
        cases habout.1
    · intro hnone
      cases hread : read files raw with
      | ok d => exact .inl ⟨d, hread⟩
      | error f =>
        rcases read_error hraw hread with hanswered | ⟨i, n, -, hmispaired⟩
        · exact .inr ⟨f, hread, Fault.isAbout_iff.2 (hreferences.isReported hanswered)⟩
        · exact (hnone i n hmispaired).elim

/-! ## A document without references -/

/-- Where no reference stands none is followed, so no other document is opened. -/
theorem eq_ofValue_of_plain {l : Library}
    (hplain : ∀ place v, Reference.valueAt raw place = some v → v.reference? = none)
    (h : l.Opened files raw) : l = .ofValue files raw ∧
      ∀ n, l.Holds n → n.value.reference? = none := by
  have hheld : ∀ n, (Library.ofValue files raw).Holds n → n.value.reference? = none := by
    rintro n ⟨d, hd, hn⟩
    have hroot : d.root = raw := by
      rw [List.mem_singleton.1 (List.mem_of_getElem? hd)]
    rw [Node.StandsIn, hroot] at hn
    exact hplain _ _ hn
  induction h with
  | start => exact ⟨rfl, hheld⟩
  | follow _ hn hrun ih =>
    obtain ⟨rfl, hvalues⟩ := ih
    obtain ⟨-, rfl⟩ := (Reference.runs_settleWith_of_plain (hvalues _ hn)).1 hrun
    exact ⟨rfl, hheld⟩

/-- A document in which no reference stands, and which is not nested too deeply, has none that
could fail. -/
theorem referencesReported_of_plain (hdeep : raw.isTooDeep = false)
    (hplain : ∀ place v, Reference.valueAt raw place = some v → v.reference? = none) :
    ReferencesReported files raw := by
  refine ⟨hdeep, ?_⟩
  intro l n f hl hn hf
  rw [run_settle_of_plain ((eq_ofValue_of_plain hplain hl).2 n hn)] at hf
  cases hf

/-- A document whose table of schemas is a list, and has a text of three characters in it. -/
def misfitDocument : Value :=
  .object 1 [(.text "paths", .object 0 []), (.text "definitions", .list [.text "abc"])]

theorem json_misfitDocument :
    Json.read "\x7b\"paths\":\x7b\x7d,\"definitions\":[\"abc\"]\x7d" = .ok misfitDocument := by
  cbv

theorem plain_misfitDocument (place : List Nat) (v : Value)
    (h : Reference.valueAt misfitDocument place = some v) : v.reference? = none := by
  -- whatever stands in it is itself, one of its two members, or a text
  have hvalues : v = misfitDocument ∨ v = .object 0 [] ∨ v = .list [.text "abc"]
      ∨ ∃ s, v = .scalar s := by
    refine Reference.of_valueAt (P := fun v => v = misfitDocument ∨ v = .object 0 []
      ∨ v = .list [.text "abc"] ∨ ∃ s, v = .scalar s) (.inl rfl) ?_ h
    intro v i slot w hv hpart
    rcases hv with rfl | rfl | rfl | ⟨s, rfl⟩
    · obtain ⟨m, hm, heq⟩ := Option.map_eq_some_iff.1 hpart
      cases heq
      have hmember := List.mem_of_getElem? hm
      simp only [List.mem_cons, List.not_mem_nil, or_false] at hmember
      rcases hmember with rfl | rfl
      · exact .inr (.inl rfl)
      · exact .inr (.inr (.inl rfl))
    · cases hpart
    · obtain ⟨item, hitem, heq⟩ := Option.map_eq_some_iff.1 hpart
      cases heq
      exact .inr (.inr (.inr ⟨_, List.mem_singleton.1 (List.mem_of_getElem? hitem)⟩))
    · rcases Reference.part?_cases hpart with ⟨k, ms, m, heq, -⟩ | ⟨items, heq, -⟩
        | ⟨t, c, -, -, -, hc⟩ | ⟨k, u, heq, -⟩
      · cases heq
      · cases heq
      · exact .inr (.inr (.inr ⟨_, hc⟩))
      · cases heq
  rcases hvalues with rfl | rfl | rfl | ⟨s, rfl⟩
  · rfl
  · rfl
  · rfl
  · rfl

/-- A table with an item of three parts ends the reading, and nothing before it does. -/
theorem structure_faults_classified_misfit :
    Json.read "\x7b\"paths\":\x7b\x7d,\"definitions\":[\"abc\"]\x7d" = .ok misfitDocument
      ∧ Mispaired [] misfitDocument 0 3 ∧ ReferencesReported [] misfitDocument
      ∧ ¬ ReadOrReported [] "doc.json" misfitDocument := by
  have hreferences : ReferencesReported [] misfitDocument :=
    referencesReported_of_plain (by decide) plain_misfitDocument
  obtain ⟨-, hpairs, hreported⟩ := structure_faults_classified [] "doc.json" json_misfitDocument
  have hmispaired : Mispaired [] misfitDocument 0 3 := (hpairs 0 3).1 rfl
  refine ⟨json_misfitDocument, hmispaired, hreferences, ?_⟩
  intro hread
  exact (hreported hreferences).1 hread 0 3 hmispaired

/-- Not every document of JSON in which a value of the wrong kind stands is read or reported, even
if no reference stands in it. -/
theorem structure_faults_not_all_reported :
    ¬ ∀ (files : Source.Files) (location text : String) (raw : Value), Json.read text = .ok raw →
      ReferencesReported files raw → ReadOrReported files location raw := by
  intro h
  have hread : ReadOrReported [] "doc.json" misfitDocument :=
    h [] "doc.json" _ misfitDocument json_misfitDocument
      (referencesReported_of_plain (by decide) plain_misfitDocument)
  have hfails : read [] misfitDocument = .error (.badPair 0 3) := rfl
  rcases hread with ⟨d, hd⟩ | ⟨f, hf, habout, -⟩
  · rw [hfails] at hd
    cases hd
  · rw [hfails] at hf
    cases hf
    cases habout

end OpenApiClient.Document
