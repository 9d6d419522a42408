/-
Values that a JSON text stands for.

Of all values only some are ever read from JSON: the keys of an object are texts, and there are no
bytes, no dates, no sets and no aliases.  Integers are bounded too, because a text with too many
digits is refused by the reader itself, so whatever it gives can be written out again.

`Value.Decoded` says all that.  It is an induction over the calls of the reader that gets it, so
it has to be said of the members and the items read so far as well; the only arithmetic in it is
the bound on a run of digits.
-/
import OpenApiClient.Proofs.Replaced

set_option autoImplicit false

namespace OpenApiClient

/-! ## Decoded values -/

/-- A scalar that JSON can hold, which is an integer only if it can be written out. -/
def Scalar.Decoded : Scalar → Prop
  | .null | .bool _ | .float _ | .text _ => True
  | .int n => (Scalar.int n).isWritable = true
  | _ => False

/-- A value that JSON can hold. -/
inductive Value.Decoded : Value → Prop
  | scalar {s : Scalar} : s.Decoded → Decoded (.scalar s)
  | list {items : List Value} : (∀ v ∈ items, Decoded v) → Decoded (.list items)
  | object {n : Nat} {ms : Members} : (∀ m ∈ ms, ∃ s, m.1 = .text s) → (∀ m ∈ ms, Decoded m.2)
    → Decoded (.object n ms)

/-- Members as JSON can hold them. -/
def Members.Decoded (ms : Members) : Prop := ∀ m ∈ ms, (∃ s, m.1 = .text s) ∧ m.2.Decoded

theorem Members.Decoded.object {ms : Members} (h : ms.Decoded) (n : Nat) :
    (Value.object n ms).Decoded := .object (fun m hm => (h m hm).1) fun m hm => (h m hm).2

theorem Members.Decoded.cons {ms : Members} (h : ms.Decoded) (s : String) {v : Value}
    (hv : v.Decoded) : Members.Decoded ((.text s, v) :: ms) := by
  intro m hm
  rcases List.mem_cons.1 hm with rfl | hm
  · exact ⟨⟨s, rfl⟩, hv⟩
  · exact h m hm

theorem Members.Decoded.insert {ms : Members} (h : ms.Decoded) {k : Scalar} (hk : ∃ s, k = .text s)
    {v : Value} (hv : v.Decoded) : (ms.insert k v).Decoded := by
  induction ms with
  | nil =>
    intro m hm
    rw [Members.insert, List.mem_singleton] at hm
    rw [hm]
    exact ⟨hk, hv⟩
  | cons first rest ih =>
    obtain ⟨hfirst, hrest⟩ := List.forall_mem_cons.1 h
    rw [Members.insert]
    split
    · exact List.forall_mem_cons.2 ⟨⟨hfirst.1, hv⟩, hrest⟩
    · exact List.forall_mem_cons.2 ⟨hfirst, ih hrest⟩

/-- A name that stands twice takes nothing away from that. -/
theorem Members.Decoded.ofList {ms : Members} (h : ms.Decoded) : (Members.ofList ms).Decoded := by
  unfold Members.ofList
  refine List.foldlRecOn (motive := Members.Decoded) ms _ (fun m hm => by cases hm) ?_
  intro acc hacc m hm
  exact hacc.insert (h m hm).1 (h m hm).2

/-! ## What they are like -/

theorem Scalar.Decoded.isWritable {s : Scalar} (h : s.Decoded) : s.isWritable = true := by
  cases s with
  | int n => exact h
  | bytes _ | date _ | moment _ | time _ => exact h.elim
  | _ => rfl

theorem Value.areWritable_iff {vs : List Value} :
    areWritable vs = true ↔ ∀ v ∈ vs, v.isWritable = true := by
  induction vs with
  | nil => simp [areWritable]
  | cons v vs ih => simp [areWritable, ih]

theorem Value.membersAreWritable_iff {ms : Members} :
    membersAreWritable ms = true ↔ ∀ m ∈ ms, m.1.isWritable = true ∧ m.2.isWritable = true := by
  induction ms with
  | nil => simp [membersAreWritable]
  | cons m ms ih => simp [membersAreWritable, ih]

namespace Value.Decoded

theorem isWritable {v : Value} (h : v.Decoded) : v.isWritable = true := by
  induction h with
  | scalar hs => exact hs.isWritable
  | list _ ih => exact areWritable_iff.2 ih
  | object hkeys _ ih =>
    refine membersAreWritable_iff.2 fun m hm => ⟨?_, ih m hm⟩
    obtain ⟨s, hs⟩ := hkeys m hm
    rw [hs]
    rfl

theorem holdsLoop {v : Value} (h : v.Decoded) : v.holdsLoop = false := by
  induction h with
  | scalar => rfl
  | list _ ih => exact Reference.itemsHoldLoop_eq_false_iff.2 ih
  | object _ _ ih => exact Reference.membersHoldLoop_eq_false_iff.2 ih

/-- There are no bytes to be spread. -/
theorem spreadBytes {v : Value} (h : v.Decoded) : v.spreadBytes = v := by
  induction h with
  | @scalar s hs =>
    cases s with
    | bytes _ => exact hs.elim
    | _ => rfl
  | @list items _ ih =>
    rw [Value.spreadBytes, Reference.spreadItems_eq, List.map_congr_left ih, List.map_id']
  | @object n ms _ _ ih =>
    rw [Value.spreadBytes, Reference.spreadMembers_eq,
      List.map_congr_left fun m hm => by rw [ih m hm], List.map_id']

/-- Whatever stands in a decoded value is one. -/
theorem part {v w : Value} (h : v.Decoded) {i : Nat} {slot : Reference.Slot}
    (hpart : Reference.part? v i = some (slot, w)) : w.Decoded := by
  rcases Reference.part?_cases hpart with ⟨n, ms, m, rfl, hm, -, rfl⟩ | ⟨items, rfl, hw, -⟩
    | ⟨s, c, -, -, -, rfl⟩ | ⟨k, u, rfl, -⟩
  · cases h with
    | object _ hms => exact hms m (List.mem_of_getElem? hm)
  · cases h with
    | list hitems => exact hitems w (List.mem_of_getElem? hw)
  · exact .scalar trivial
  · cases h

theorem member? {v w : Value} (h : v.Decoded) {key : String} (hmember : v.member? key = some w) :
    w.Decoded := by
  unfold Value.member? at hmember
  split at hmember
  next ms =>
    cases h with
    | object _ hms =>
      obtain ⟨m, hm, rfl⟩ := Option.map_eq_some_iff.1 hmember
      exact hms m (List.mem_of_find?_eq_some hm)
  next => cases hmember

end Value.Decoded

/-! ## Reading -/

namespace Json

/-- A run of digits is a number with at most as many digits. -/
theorem digitsValue_lt {s : List Char} (h : ∀ c ∈ s, c.isDigit = true) :
    digitsValue s < Nat.pow 10 s.length := by
  -- in the induction the digits that have been read are a number `n` by themselves
  have hfold : ∀ (s : List Char) (n : Nat), (∀ c ∈ s, c.isDigit = true) →
      s.foldl (fun n c => n * 10 + (c.toNat - '0'.toNat)) n < (n + 1) * 10 ^ s.length := by
    intro s
    induction s with
    | nil =>
      intro n _
      simp
    | cons c s ih =>
      intro n hs
      obtain ⟨hc, hs⟩ := List.forall_mem_cons.1 hs
      have hdigit : c.toNat - '0'.toNat ≤ 9 := by
        have hle : c.toNat ≤ '9'.toNat := by
          rw [Char.isDigit, Bool.and_eq_true] at hc
          exact UInt32.le_iff_toNat_le.1 (of_decide_eq_true hc.2)
        have hzero : '0'.toNat = 48 := rfl
        have hnine : '9'.toNat = 57 := rfl
        omega
      calc (c :: s).foldl (fun n c => n * 10 + (c.toNat - '0'.toNat)) n
          < (n * 10 + (c.toNat - '0'.toNat) + 1) * 10 ^ s.length := ih _ hs
        _ ≤ ((n + 1) * 10) * 10 ^ s.length := Nat.mul_le_mul_right _ (by omega)
        _ = (n + 1) * 10 ^ (c :: s).length := by
          rw [List.length_cons, Nat.pow_succ, Nat.mul_assoc, Nat.mul_comm 10]
  have hzero := hfold s 0 h
  rw [Nat.zero_add, Nat.one_mul] at hzero
  exact hzero

theorem isDigit_of_mem_leadingDigits {s : List Char} {c : Char} (h : c ∈ leadingDigits s) :
    c.isDigit = true := List.all_eq_true.1 List.all_takeWhile c h

/-- An integer that is read can be written. -/
theorem decoded_int {whole : List Char} (hdigits : ∀ c ∈ whole, c.isDigit = true)
    (hlength : ¬ Text.maxDigits < whole.length) (negative : Bool) :
    (Value.int (if negative then -(digitsValue whole : Int) else digitsValue whole)).Decoded := by
  have hlt : digitsValue whole < Scalar.writtenEnd := by
    unfold Scalar.writtenEnd
    generalize Text.maxDigits = limit at hlength
    exact Nat.lt_of_lt_of_le (digitsValue_lt hdigits)
      (Nat.pow_le_pow_right (by decide) (Nat.le_of_not_lt hlength))
  have habs : (if negative then -(digitsValue whole : Int) else digitsValue whole).natAbs
      = digitsValue whole := by
    cases negative with
    | true => exact Int.natAbs_neg _
    | false => rfl
  apply Value.Decoded.scalar
  rw [Scalar.Decoded, Scalar.isWritable, habs]
  exact decide_eq_true hlt

theorem decoded_readNumber {c c' : Cursor} {v : Value} (h : readNumber c = .ok (v, c')) :
    v.Decoded := by
  unfold readNumber at h
  split at h
  next negative body signSize _ =>
  extract_lets whole at h
  split at h
  · cases h
  · split at h
    · split at h
      · cases h
      next hlength =>
        cases h
        refine decoded_int ?_ hlength _
        intro d hd
        -- a leading zero is the whole number, and otherwise all digits belong to it
        simp only [whole] at hd
        split at hd
        · rw [List.mem_singleton.1 hd]
          rfl
        · exact isDigit_of_mem_leadingDigits hd
    · cases h
      exact .scalar trivial

theorem decoded_readPlain {c c' : Cursor} {v : Value} (h : readPlain c = .ok (v, c')) :
    v.Decoded := by
  unfold readPlain at h
  split at h
  next w v hfind =>
    cases h
    have hwords : ∀ w ∈ words, w.2.Decoded := by
      intro w hw
      rw [words] at hw
      simp only [List.mem_cons, List.not_mem_nil, or_false] at hw
      rcases hw with rfl | rfl | rfl | rfl | rfl | rfl <;> exact .scalar trivial
    exact hwords _ (List.mem_of_find?_eq_some hfind)
  next => exact decoded_readNumber h

/-- The three readers that call one another, all with so much fuel, give decoded values. -/
def Decodes (fuel : Nat) : Prop :=
  (∀ c v c', readValue fuel c = .ok (v, c') → v.Decoded)
    ∧ (∀ c (acc : Members) ms c', readMembers fuel c acc = .ok (ms, c') → acc.Decoded
      → Members.Decoded ms)
    ∧ ∀ c acc vs c', readItems fuel c acc = .ok (vs, c') → (∀ v ∈ acc, v.Decoded)
      → ∀ v ∈ vs, v.Decoded

theorem decoded_readValue_succ {fuel : Nat} (ih : Decodes fuel) {c c' : Cursor} {v : Value}
    (h : readValue (fuel + 1) c = .ok (v, c')) : v.Decoded := by
  obtain ⟨-, hmembers, hitems⟩ := ih
  rw [readValue] at h
  split at h
  · obtain ⟨⟨s, r', p⟩, -, h⟩ := bind_eq_ok_iff.1 h
    cases h
    exact .scalar trivial
  · obtain ⟨c₁, -, h⟩ := bind_eq_ok_iff.1 h
    split at h
    · cases h
      exact .object (fun m hm => by cases hm) fun m hm => by cases hm
    · obtain ⟨⟨ms, c₂⟩, hms, h⟩ := bind_eq_ok_iff.1 h
      cases h
      have hdecoded := hmembers _ _ _ _ hms fun m hm => by cases hm
      refine Members.Decoded.object (Members.Decoded.ofList ?_) _
      intro m hm
      exact hdecoded m (List.mem_reverse.1 hm)
  · obtain ⟨c₁, -, h⟩ := bind_eq_ok_iff.1 h
    split at h
    · cases h
      exact .list fun v hv => by cases hv
    · obtain ⟨⟨vs, c₂⟩, hvs, h⟩ := bind_eq_ok_iff.1 h
      cases h
      have hdecoded := hitems _ _ _ _ hvs fun v hv => by cases hv
      exact .list fun v hv => hdecoded v (List.mem_reverse.1 hv)
  · exact decoded_readPlain h

theorem decoded_readMembers_succ {fuel : Nat} (ih : Decodes fuel) {c c' : Cursor}
    {acc ms : Members} (h : readMembers (fuel + 1) c acc = .ok (ms, c')) (hacc : acc.Decoded) :
    ms.Decoded := by
  obtain ⟨hvalue, hmembers, -⟩ := ih
  rw [readMembers] at h
  split at h
  · obtain ⟨⟨name, r', p⟩, -, h⟩ := bind_eq_ok_iff.1 h
    dsimp only at h
    split at h
    · obtain ⟨⟨v, c₁⟩, hv, h⟩ := bind_eq_ok_iff.1 h
      have hnext := hacc.cons name (hvalue _ _ _ hv)
      dsimp only at h
      split at h
      · cases h
        exact hnext
      · exact hmembers _ _ _ _ h hnext
      · cases h
    · cases h
  · cases h

theorem decoded_readItems_succ {fuel : Nat} (ih : Decodes fuel) {c c' : Cursor}
    {acc vs : List Value} (h : readItems (fuel + 1) c acc = .ok (vs, c'))
    (hacc : ∀ v ∈ acc, v.Decoded) : ∀ v ∈ vs, v.Decoded := by
  obtain ⟨hvalue, -, hitems⟩ := ih
  rw [readItems] at h
  obtain ⟨⟨v, c₁⟩, hv, h⟩ := bind_eq_ok_iff.1 h
  have hnext : ∀ w ∈ v :: acc, w.Decoded := List.forall_mem_cons.2 ⟨hvalue _ _ _ hv, hacc⟩
  dsimp only at h
  split at h
  · cases h
    exact hnext
  · exact hitems _ _ _ _ h hnext
  · cases h

theorem decodes (fuel : Nat) : Decodes fuel := by
  induction fuel with
  | zero =>
    refine ⟨?_, ?_, ?_⟩
    · intro c v c' h
      cases h
    · intro c acc ms c' h
      cases h
    · intro c acc vs c' h
      cases h
  | succ fuel ih =>
    refine ⟨?_, ?_, ?_⟩
    · intro c v c' h
      exact decoded_readValue_succ ih h
    · intro c acc ms c' h hacc
      exact decoded_readMembers_succ ih h hacc
    · intro c acc vs c' h hacc
      exact decoded_readItems_succ ih h hacc

theorem decoded_readFrom {next : Nat} {text : List Char} {v : Value} {c : Cursor}
    (h : readFrom next text = .ok (v, c)) : v.Decoded := by
  unfold readFrom at h
  split at h
  · cases h
  · obtain ⟨⟨w, c₁⟩, hw, h⟩ := bind_eq_ok_iff.1 h
    dsimp only at h
    split at h
    · cases h
      exact (decodes _).1 _ _ _ hw
    · cases h

/-- What is read from a JSON text is a value that JSON can hold. -/
theorem decoded_read {text : String} {v : Value} (h : read text = .ok v) : v.Decoded := by
  obtain ⟨⟨w, c⟩, hw, rfl⟩ := map_eq_ok_iff.1 h
  exact decoded_readFrom hw

end Json

/-- What is fetched by a reference is one, too. -/
theorem Reference.decoded_retrieve {files : Source.Files} {address : List Char} {v : Value}
    (h : retrieve files address = .ok v) : v.Decoded := by
  unfold retrieve at h
  obtain ⟨request, -, h⟩ := bind_eq_ok_iff.1 h
  obtain ⟨bytes, -, h⟩ := bind_eq_ok_iff.1 h
  obtain ⟨text, -, h⟩ := bind_eq_ok_iff.1 h
  obtain ⟨⟨w, c⟩, hw, h⟩ := bind_eq_ok_iff.1 h
  cases h
  exact Json.decoded_readFrom (mapError_eq_ok_iff.1 hw)

end OpenApiClient
