/-
Escapes of names in pointers, written and read again.

A name that stands in a pointer is escaped twice: the characters that mean something in a pointer
by a tilde and a digit, and then the characters that cannot stand in an address by their bytes.
The reader undoes this in the other order.  It undoes the escapes of bytes in the whole pointer at
once, and it works on bytes there, so the thing to check is that the bytes of a text are seen
through its escapes one by one (`unescapeBytes_escape`), whatever stands behind them.  A tilde
stands for itself in no escaped name, and therefore it does not matter that the reader takes the
text through two passes (`unescapeStep_escapeStep`).
-/
import OpenApiClient.Proofs.Encoding
import OpenApiClient.Proofs.Outcomes
import OpenApiClient.Reference.Pointer

set_option autoImplicit false

namespace OpenApiClient

namespace Text

/-- With at least as many steps as there are bytes, a text is read back, however bytes that stand
for no character are read. -/
theorem decodeReplacingFrom_encoded (s : List Char) {fuel : Nat}
    (h : (s.flatMap String.utf8EncodeChar).length ≤ fuel) :
    decodeReplacingFrom fuel (s.flatMap String.utf8EncodeChar) = s := by
  induction s generalizing fuel with
  | nil =>
    rw [List.flatMap_nil]
    cases fuel <;> rfl
  | cons c s ih =>
    rw [List.flatMap_cons] at h ⊢
    obtain ⟨a, bytes, hbytes, hfirst⟩ := firstChar_encodeChar c (s.flatMap String.utf8EncodeChar)
    rw [hbytes, List.cons_append] at h ⊢
    rw [List.length_cons, List.length_append] at h
    cases fuel with
    | zero => omega
    | succ fuel =>
      rw [decodeReplacingFrom, hfirst]
      dsimp only
      rw [Nat.add_sub_cancel, List.drop_left, ih (by omega)]

namespace Percent

/-! ## Escapes of bytes -/

theorem unescapeBytes_cons {p : UInt8} (hp : p ≠ percentByte) (r : List UInt8) :
    unescapeBytes (p :: r) = p :: unescapeBytes r := by
  match r with
  | [] => rw [unescapeBytes, unescapeBytes] <;> simp
  | [a] => rw [unescapeBytes, unescapeBytes] <;> simp
  | a :: b :: r =>
    rw [unescapeBytes, if_neg hp]

/-- A digit of an escape. -/
def escapeDigit (d : Nat) : Char := d.digitChar.toUpper

theorem escapeDigit_spec : ∀ d < 16, 0x20 < (escapeDigit d).toNat ∧ (escapeDigit d).toNat < 0x80
    ∧ hexByte? (.ofNat (escapeDigit d).toNat) = some d := by
  decide +kernel

theorem hex_two {n : Nat} (h : n < 256) : hex 2 n = [(n / 16).digitChar, (n % 16).digitChar] := by
  unfold hex
  by_cases hsmall : n < 16
  · rw [Nat.toDigits_of_lt_base hsmall, Nat.div_eq_of_lt hsmall, Nat.mod_eq_of_lt hsmall]
    rfl
  · rw [Nat.toDigits_of_base_le (by decide) (Nat.le_of_not_lt hsmall),
      Nat.toDigits_of_lt_base (by omega)]
    rfl

/-- The escape of a byte: a percent sign, and the digits of the two halves of the byte. -/
theorem escapeByte_eq (b : UInt8) :
    escapeByte b = ['%', escapeDigit (b.toNat / 16), escapeDigit (b.toNat % 16)] := by
  rw [escapeByte, hex_two b.toNat_lt]
  rfl

theorem mem_escapeByte (b : UInt8) : ∀ c ∈ escapeByte b, 0x20 < c.toNat ∧ c.toNat < 0x80 := by
  have hb := b.toNat_lt
  obtain ⟨hlow, hhigh, -⟩ := escapeDigit_spec (b.toNat / 16) (by omega)
  obtain ⟨hlow', hhigh', -⟩ := escapeDigit_spec (b.toNat % 16) (by omega)
  rw [escapeByte_eq, List.forall_mem_cons, List.forall_mem_cons, List.forall_mem_singleton]
  exact ⟨⟨by decide, by decide⟩, ⟨hlow, hhigh⟩, hlow', hhigh'⟩

theorem encodeChar_ascii {c : Char} (h : c.toNat < 0x80) :
    String.utf8EncodeChar c = [UInt8.ofNat c.toNat] := by
  unfold String.utf8EncodeChar
  have hle : c.val.toNat ≤ 127 := Nat.le_of_lt_succ h
  dsimp only
  rw [if_pos hle]
  rfl

theorem unescapeBytes_escapeByte (b : UInt8) (r : List UInt8) :
    unescapeBytes ((escapeByte b).flatMap String.utf8EncodeChar ++ r) = b :: unescapeBytes r := by
  have hb := b.toNat_lt
  obtain ⟨-, hascii, hread⟩ := escapeDigit_spec (b.toNat / 16) (by omega)
  obtain ⟨-, hascii', hread'⟩ := escapeDigit_spec (b.toNat % 16) (by omega)
  have hvalue : UInt8.ofNat (b.toNat / 16 * 16 + b.toNat % 16) = b := by
    rw [Nat.div_add_mod', UInt8.ofNat_toNat]
  have hpercent : UInt8.ofNat ('%' : Char).toNat = percentByte := rfl
  rw [escapeByte_eq, List.flatMap_cons, List.flatMap_cons, List.flatMap_singleton,
    encodeChar_ascii (by decide), encodeChar_ascii hascii, encodeChar_ascii hascii', hpercent]
  change unescapeBytes (percentByte :: .ofNat _ :: .ofNat _ :: r) = _
  rw [unescapeBytes, if_pos rfl, hread, hread']
  dsimp only
  rw [hvalue]

/-- The bytes that are given by escapes are read as they are, whatever stands behind them. -/
theorem unescapeBytes_escaped (bytes r : List UInt8) :
    unescapeBytes ((bytes.flatMap escapeByte).flatMap String.utf8EncodeChar ++ r)
      = bytes ++ unescapeBytes r := by
  induction bytes with
  | nil => rfl
  | cons b bytes ih =>
    rw [List.flatMap_cons, List.flatMap_append, List.append_assoc, unescapeBytes_escapeByte, ih,
      List.cons_append]

/-! ## Escapes in a text -/

/-- The characters that are written as they are: none of them is a percent sign or has more than
one byte. -/
def ArePlain (isSafe : Char → Bool) : Prop := ∀ c, isSafe c → c.toNat < 0x80 ∧ c ≠ '%'

/-- What is written for a character. -/
def escapeChar (isSafe : Char → Bool) (c : Char) : List Char :=
  if isSafe c then [c] else (String.utf8EncodeChar c).flatMap escapeByte

variable {isSafe : Char → Bool}

theorem escape_cons {c : Char} {s e : List Char} (h : escape isSafe (c :: s) = .ok e) :
    ∃ e', escape isSafe s = .ok e' ∧ e = escapeChar isSafe c ++ e' := by
  rw [escape] at h
  unfold escapeChar
  by_cases hc : isSafe c
  · rw [if_pos hc] at h ⊢
    obtain ⟨e', he', h⟩ := bind_eq_ok_iff.1 h
    exact ⟨e', he', (pure_eq_ok_iff.1 h).symm⟩
  · rw [if_neg hc] at h ⊢
    cases hfault : encodeFault? .utf8 [c] with
    | some f =>
      rw [hfault] at h
      cases h
    | none =>
      rw [hfault] at h
      obtain ⟨e', he', h⟩ := bind_eq_ok_iff.1 h
      refine ⟨e', he', (pure_eq_ok_iff.1 h).symm.trans ?_⟩
      rw [toUTF8_eq, String.toList_singleton, List.flatMap_singleton]

theorem escape_append {pre s e : List Char} (hpre : ∀ c ∈ pre, isSafe c)
    (h : escape isSafe s = .ok e) : escape isSafe (pre ++ s) = .ok (pre ++ e) := by
  induction pre with
  | nil => exact h
  | cons c pre ih =>
    obtain ⟨hc, hpre⟩ := List.forall_mem_cons.1 hpre
    rw [List.cons_append, escape, if_pos hc, ih hpre]
    rfl

/-- A text is seen through its escapes, byte for byte. -/
theorem unescapeBytes_escape (hplain : ArePlain isSafe) {s e : List Char}
    (h : escape isSafe s = .ok e) (r : List UInt8) :
    unescapeBytes (e.flatMap String.utf8EncodeChar ++ r)
      = s.flatMap String.utf8EncodeChar ++ unescapeBytes r := by
  induction s generalizing e with
  | nil =>
    cases h
    rfl
  | cons c s ih =>
    obtain ⟨e', he', rfl⟩ := escape_cons h
    rw [List.flatMap_append, List.append_assoc, List.flatMap_cons, List.append_assoc, ← ih he']
    unfold escapeChar
    by_cases hc : isSafe c
    · -- a character that is written as it is has one byte, which is not the one of an escape
      obtain ⟨hascii, hpercent⟩ := hplain c hc
      have hne : UInt8.ofNat c.toNat ≠ percentByte := by
        intro heq
        have hnat := congrArg UInt8.toNat heq
        rw [toNat_byte (by omega)] at hnat
        exact hpercent (Char.toNat_inj.1 hnat)
      rw [if_pos hc, List.flatMap_singleton, encodeChar_ascii hascii]
      exact unescapeBytes_cons hne _
    · rw [if_neg hc, unescapeBytes_escaped]

/-- What holds of the characters that are written as they are, and of those of all escapes, holds of
every character that is written. -/
theorem forall_mem_escape {P : Char → Prop} (hsafe : ∀ c, isSafe c → P c)
    (hbyte : ∀ b, ∀ c ∈ escapeByte b, P c) {s e : List Char} (h : escape isSafe s = .ok e) :
    ∀ c ∈ e, P c := by
  induction s generalizing e with
  | nil =>
    cases h
    exact fun c hc => absurd hc List.not_mem_nil
  | cons c s ih =>
    obtain ⟨e', he', rfl⟩ := escape_cons h
    refine List.forall_mem_append.2 ⟨?_, ih he'⟩
    unfold escapeChar
    split
    · rename_i hc
      exact List.forall_mem_singleton.2 (hsafe c hc)
    · intro d hd
      obtain ⟨b, -, hd⟩ := List.mem_flatMap.1 hd
      exact hbyte b d hd

theorem unescapeFrom_ascii (run : List Char) {s : List Char} (h : ∀ c ∈ s, c.toNat < 0x80) :
    unescapeFrom run s = unescapeRun (run.reverse ++ s) := by
  induction s generalizing run with
  | nil => rw [unescapeFrom, List.append_nil]
  | cons c s ih =>
    obtain ⟨hc, hs⟩ := List.forall_mem_cons.1 h
    rw [unescapeFrom, if_pos hc, ih (c :: run) hs, List.reverse_cons, List.append_assoc,
      List.singleton_append]

/-- What is escaped is read as it was. -/
theorem unescape_escape (hplain : ArePlain isSafe) {s e : List Char}
    (h : escape isSafe s = .ok e) : unescape e = s := by
  have hbytes := unescapeBytes_escape hplain h []
  have hnil : unescapeBytes [] = [] := by rw [unescapeBytes]; simp
  rw [List.append_nil, hnil, List.append_nil] at hbytes
  have hascii := forall_mem_escape (fun c hc => (hplain c hc).1)
    (fun b c hc => (mem_escapeByte b c hc).2) h
  rw [unescape, unescapeFrom_ascii [] hascii, List.reverse_nil, List.nil_append, unescapeRun,
    bytesOf, toUTF8_eq, String.toList_ofList, hbytes, decodeReplacing]
  exact decodeReplacingFrom_encoded s le_rfl

/-! ### Texts without escapes -/

theorem length_escapeByte (b : UInt8) : (escapeByte b).length = 3 := by
  rw [escapeByte_eq]
  rfl

theorem one_lt_length_escapeChar {c : Char} (h : ¬ isSafe c) :
    1 < (escapeChar isSafe c).length := by
  obtain ⟨b, bytes, hbytes, -⟩ := firstChar_encodeChar c []
  rw [escapeChar, if_neg h, hbytes, List.flatMap_cons, List.length_append, length_escapeByte]
  omega

/-- A text gets no shorter by escapes, and longer if there are any. -/
theorem length_escape {s e : List Char} (h : escape isSafe s = .ok e) :
    s.length ≤ e.length ∧ (e.length = s.length → ∀ c ∈ s, isSafe c) := by
  induction s generalizing e with
  | nil => exact ⟨Nat.zero_le _, fun _ c hc => absurd hc List.not_mem_nil⟩
  | cons c s ih =>
    obtain ⟨e', he', rfl⟩ := escape_cons h
    obtain ⟨hle, hsafe⟩ := ih he'
    rw [List.length_cons, List.length_append, List.forall_mem_cons]
    by_cases hc : isSafe c
    · have hone : (escapeChar isSafe c).length = 1 := by rw [escapeChar, if_pos hc]; rfl
      exact ⟨by omega, fun heq => ⟨hc, hsafe (by omega)⟩⟩
    · have hmany := one_lt_length_escapeChar hc
      exact ⟨by omega, fun heq => absurd heq (by omega)⟩

end Percent

end Text

namespace Reference

/-! ## Escapes of steps -/

/-- What stands in a step of a pointer for a character of a name. -/
def escapeMark (c : Char) : List Char :=
  if c = '~' then ['~', '0'] else if c = '/' then ['~', '1'] else [c]

/-- A name as a step of a pointer. -/
def escapeStep (s : List Char) : List Char := s.flatMap escapeMark

/-- A name in which the tildes are escaped only. -/
def escapeTildes (s : List Char) : List Char :=
  s.flatMap fun c => if c = '~' then ['~', '0'] else [c]

theorem unescapeTilde_cons {digit c x : Char} (hx : x ≠ '~') (r : List Char) :
    unescapeTilde digit c (x :: r) = x :: unescapeTilde digit c r := by
  rw [unescapeTilde.eq_def]
  split
  · rename_i d r' heq
    exact absurd (List.cons_eq_cons.1 heq).1 hx
  · rename_i heq
    obtain ⟨rfl, rfl⟩ := List.cons_eq_cons.1 heq
    rfl
  · rename_i heq
    cases heq

theorem unescapeTilde_pair {digit c d : Char} (r : List Char) :
    unescapeTilde digit c ('~' :: d :: r)
      = if d = digit then c :: unescapeTilde digit c r
        else '~' :: unescapeTilde digit c (d :: r) := by
  rw [unescapeTilde]

/-- The first pass leaves the tildes that stand for tildes. -/
theorem unescapeTilde_escapeStep (s : List Char) :
    unescapeTilde '1' '/' (escapeStep s) = escapeTildes s := by
  unfold escapeStep escapeTildes
  induction s with
  | nil => rw [List.flatMap_nil, List.flatMap_nil, unescapeTilde]
  | cons c s ih =>
    rw [List.flatMap_cons, List.flatMap_cons, ← ih]
    unfold escapeMark
    by_cases htilde : c = '~'
    · rw [if_pos htilde, if_pos htilde, List.cons_append, List.singleton_append, unescapeTilde_pair,
        if_neg (by decide), unescapeTilde_cons (by decide)]
      rfl
    · rw [if_neg htilde, if_neg htilde]
      by_cases hslash : c = '/'
      · rw [if_pos hslash, List.cons_append, List.singleton_append, unescapeTilde_pair,
          if_pos rfl, hslash]
        rfl
      · rw [if_neg hslash, List.singleton_append, unescapeTilde_cons htilde]
        rfl

/-- The second pass makes them tildes. -/
theorem unescapeTilde_escapeTildes (s : List Char) :
    unescapeTilde '0' '~' (escapeTildes s) = s := by
  unfold escapeTildes
  induction s with
  | nil => rw [List.flatMap_nil, unescapeTilde]
  | cons c s ih =>
    rw [List.flatMap_cons]
    by_cases htilde : c = '~'
    · rw [if_pos htilde, List.cons_append, List.singleton_append, unescapeTilde_pair, if_pos rfl,
        ih, htilde]
    · rw [if_neg htilde, List.singleton_append, unescapeTilde_cons htilde, ih]

/-- A name that is escaped as a step is read as it was. -/
theorem unescapeStep_escapeStep (s : List Char) : unescapeStep (escapeStep s) = s := by
  rw [unescapeStep, unescapeTilde_escapeStep, unescapeTilde_escapeTildes]

theorem slash_not_mem_escapeStep (s : List Char) : '/' ∉ escapeStep s := by
  intro hmem
  obtain ⟨c, -, hc⟩ := List.mem_flatMap.1 hmem
  unfold escapeMark at hc
  split at hc
  · revert hc
    decide
  · split at hc
    · revert hc
      decide
    · rename_i hslash
      exact hslash (List.mem_singleton.1 hc).symm

/-- A name gets no shorter as a step, and longer if there is a mark in it. -/
theorem length_escapeStep (s : List Char) :
    s.length ≤ (escapeStep s).length
      ∧ ((escapeStep s).length = s.length → escapeStep s = s ∧ ∀ c ∈ s, c ≠ '~' ∧ c ≠ '/') := by
  induction s with
  | nil => exact ⟨Nat.le_refl _, fun _ => ⟨rfl, fun c hc => absurd hc List.not_mem_nil⟩⟩
  | cons c s ih =>
    obtain ⟨hle, hself⟩ := ih
    have hcons : escapeStep (c :: s) = escapeMark c ++ escapeStep s := List.flatMap_cons
    rw [hcons, List.length_append, List.length_cons, List.forall_mem_cons]
    by_cases hmark : c = '~' ∨ c = '/'
    · have htwo : (escapeMark c).length = 2 := by
        rcases hmark with rfl | rfl <;> rfl
      exact ⟨by omega, fun heq => absurd heq (by omega)⟩
    · have hone : escapeMark c = [c] := by
        rw [not_or] at hmark
        rw [escapeMark, if_neg hmark.1, if_neg hmark.2]
      rw [hone, List.length_singleton]
      refine ⟨by omega, fun heq => ?_⟩
      obtain ⟨hs, hmarks⟩ := hself (by omega)
      exact ⟨by rw [hs]; rfl, not_or.1 hmark, hmarks⟩

end Reference

end OpenApiClient
