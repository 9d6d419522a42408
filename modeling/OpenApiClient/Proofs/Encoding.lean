/-
Text as bytes, and back.

The bytes of a text are decoded to the text.  Every character has a form of one to four bytes, and
each form is recognised by its first byte: so a character is read back from its own bytes, whatever
stands behind them, and a text character by character.
-/
import OpenApiClient.Text.Utf8
import Mathlib.Data.Nat.Basic

set_option autoImplicit false

namespace OpenApiClient.Text

/-! ## One character -/

theorem toNat_byte {n : Nat} (h : n < 256) : (UInt8.ofNat n).toNat = n :=
  UInt8.toNat_ofNat_of_lt h

theorem isContinuation_byte (n : Nat) : isContinuation (UInt8.ofNat (n % 64 + 128)) = true := by
  have hbyte : n % 64 + 128 < 256 := by omega
  simp only [isContinuation, toNat_byte hbyte, decide_eq_true_eq]
  omega

theorem low6_byte (n : Nat) : low6 (UInt8.ofNat (n % 64 + 128)) = n % 64 := by
  have hbyte : n % 64 + 128 < 256 := by omega
  simp only [low6, toNat_byte hbyte]
  omega

/-- The second byte fits the first one, if the number is not too small for its form, no half of a
pair, and not too large. -/
theorem fitsSecond_byte {a n : Nat} (ha : a < 256) (hE0 : a = 0xE0 → 0x20 ≤ n % 64)
    (hED : a = 0xED → n % 64 < 0x20) (hF0 : a = 0xF0 → 0x10 ≤ n % 64)
    (hF4 : a = 0xF4 → n % 64 < 0x10) :
    fitsSecond (UInt8.ofNat a) (UInt8.ofNat (n % 64 + 128)) = true := by
  have hbyte : n % 64 + 128 < 256 := by omega
  unfold fitsSecond
  rw [isContinuation_byte, Bool.true_and, toNat_byte ha, toNat_byte hbyte]
  split <;> simp only [decide_eq_true_eq] <;> omega

/-! ### The four forms -/

theorem firstChar_one {v : Nat} (hv : v ≤ 0x7F) (r : List UInt8) :
    firstChar (UInt8.ofNat v) r = .ok (Char.ofNat v, 1) := by
  have hbyte : v < 256 := by omega
  have hone : v < 0x80 := by omega
  unfold firstChar
  simp only [toNat_byte hbyte, if_pos hone]

theorem firstChar_two {v : Nat} (hleast : 0x7F < v) (hv : v ≤ 0x7FF) (r : List UInt8) :
    firstChar (UInt8.ofNat (v / 64 % 32 + 192)) (UInt8.ofNat (v % 64 + 128) :: r)
      = .ok (Char.ofNat v, 2) := by
  have hbyte : v / 64 % 32 + 192 < 256 := by omega
  have hsum : (v / 64 % 32 + 192) % 0x20 * 0x40 + v % 64 = v := by omega
  unfold firstChar
  simp only [toNat_byte hbyte, isContinuation_byte, low6_byte, hsum]
  rw [if_neg (by omega), if_neg (by omega), if_pos (by omega), if_pos True.intro]

/-- No half of a pair is a character, so the second byte fits. -/
theorem firstChar_three {v : Nat} (hleast : 0x7FF < v) (hv : v ≤ 0xFFFF)
    (hvalid : v < 0xD800 ∨ 0xDFFF < v) (r : List UInt8) :
    firstChar (UInt8.ofNat (v / 4096 % 16 + 224))
        (UInt8.ofNat (v / 64 % 64 + 128) :: UInt8.ofNat (v % 64 + 128) :: r)
      = .ok (Char.ofNat v, 3) := by
  have hbyte : v / 4096 % 16 + 224 < 256 := by omega
  have hsum : ((v / 4096 % 16 + 224) % 0x10 * 0x40 + v / 64 % 64) * 0x40 + v % 64 = v := by omega
  have hfits : fitsSecond (UInt8.ofNat (v / 4096 % 16 + 224)) (UInt8.ofNat (v / 64 % 64 + 128))
      = true := fitsSecond_byte hbyte (by omega) (by omega) (by omega) (by omega)
  unfold firstChar
  simp only [toNat_byte hbyte, isContinuation_byte, low6_byte, hsum, hfits]
  rw [if_neg (by omega), if_neg (by omega), if_neg (by omega), if_pos (by omega)]
  rfl

theorem firstChar_four {v : Nat} (hleast : 0xFFFF < v) (hv : v < 0x110000) (r : List UInt8) :
    firstChar (UInt8.ofNat (v / 262144 % 8 + 240))
        (UInt8.ofNat (v / 4096 % 64 + 128) :: UInt8.ofNat (v / 64 % 64 + 128)
          :: UInt8.ofNat (v % 64 + 128) :: r)
      = .ok (Char.ofNat v, 4) := by
  have hbyte : v / 262144 % 8 + 240 < 256 := by omega
  have hsum : (((v / 262144 % 8 + 240) % 8 * 0x40 + v / 4096 % 64) * 0x40 + v / 64 % 64) * 0x40
      + v % 64 = v := by omega
  have hfits : fitsSecond (UInt8.ofNat (v / 262144 % 8 + 240))
      (UInt8.ofNat (v / 4096 % 64 + 128)) = true :=
    fitsSecond_byte hbyte (by omega) (by omega) (by omega) (by omega)
  unfold firstChar
  simp only [toNat_byte hbyte, isContinuation_byte, low6_byte, hsum, hfits]
  rw [if_neg (by omega), if_neg (by omega), if_neg (by omega), if_neg (by omega),
    if_pos (by omega)]
  rfl

/-- A character is read back from its own bytes. -/
theorem firstChar_encodeChar (c : Char) (r : List UInt8) :
    ∃ a bytes, String.utf8EncodeChar c = a :: bytes
      ∧ firstChar a (bytes ++ r) = .ok (c, bytes.length + 1) := by
  have hchar : Char.ofNat c.val.toNat = c := Char.ofNat_toNat c
  have hvalid : c.val.toNat < 0xD800 ∨ 0xDFFF < c.val.toNat ∧ c.val.toNat < 0x110000 := c.valid
  generalize hv : c.val.toNat = v at hchar hvalid
  unfold String.utf8EncodeChar
  dsimp only
  rw [hv, ← hchar]
  -- one case for each length that an encoded character can have
  by_cases h1 : v ≤ 127
  · rw [if_pos h1]
    exact ⟨_, _, rfl, firstChar_one h1 r⟩
  rw [if_neg h1]
  by_cases h2 : v ≤ 2047
  · rw [if_pos h2]
    exact ⟨_, _, rfl, firstChar_two (by omega) h2 r⟩
  rw [if_neg h2]
  by_cases h3 : v ≤ 65535
  · rw [if_pos h3]
    exact ⟨_, _, rfl, firstChar_three (by omega) h3 (by omega) r⟩
  · rw [if_neg h3]
    exact ⟨_, _, rfl, firstChar_four (by omega) (by omega) r⟩

/-! ## A text -/

/-- With at least as many steps as there are bytes, a text is read back. -/
theorem decodeFrom_encoded (s : List Char) {fuel : Nat}
    (h : (s.flatMap String.utf8EncodeChar).length ≤ fuel) (p : Nat) (acc : List Char) :
    decodeFrom fuel p (s.flatMap String.utf8EncodeChar) acc = .ok (acc.reverse ++ s) := by
  induction s generalizing fuel p acc with
  | nil =>
    rw [List.flatMap_nil, List.append_nil]
    cases fuel <;> rfl
  | cons c s ih =>
    rw [List.flatMap_cons] at h ⊢
    obtain ⟨a, bytes, hbytes, hfirst⟩ := firstChar_encodeChar c (s.flatMap String.utf8EncodeChar)
    rw [hbytes, List.cons_append] at h ⊢
    rw [List.length_cons, List.length_append] at h
    cases fuel with
    | zero => omega
    | succ fuel =>
      rw [decodeFrom, hfirst]
      dsimp only
      rw [Nat.add_sub_cancel, List.drop_left, ih (by omega), List.reverse_cons, List.append_assoc]
      rfl

theorem toList_loop (bytes : ByteArray) (i : Nat) (acc : List UInt8) :
    ByteArray.toList.loop bytes i acc = acc.reverse ++ bytes.data.toList.drop i := by
  induction hn : bytes.size - i generalizing i acc with
  | zero =>
    have hi : ¬ i < bytes.size := by omega
    have hdrop : bytes.data.toList.drop i = [] := by
      rw [List.drop_eq_nil_iff, Array.length_toList]
      exact Nat.le_of_not_lt hi
    rw [ByteArray.toList.loop, if_neg hi, hdrop, List.append_nil]
  | succ n ih =>
    have hi : i < bytes.size := by omega
    have hlength : i < bytes.data.toList.length := hi
    have hget : bytes.get! i = bytes.data.toList[i] := getElem!_pos bytes.data i hi
    rw [ByteArray.toList.loop, if_pos hi, ih (i + 1) _ (by omega), List.reverse_cons,
      List.append_assoc, List.drop_eq_getElem_cons hlength, hget]
    rfl

/-- The bytes of a text, character by character. -/
theorem toUTF8_eq (text : String) :
    text.toUTF8.toList = text.toList.flatMap String.utf8EncodeChar := by
  have hloop : text.toUTF8.toList = text.toUTF8.data.toList := toList_loop text.toUTF8 0 []
  rw [hloop, String.toUTF8, ← String.utf8Encode_toList, List.utf8Encode,
    List.toList_data_toByteArray]

/-- The bytes of a text are decoded to the text. -/
theorem decode_toUTF8 (text : String) : decode text.toUTF8.toList = .ok text.toList := by
  rw [toUTF8_eq]
  exact decodeFrom_encoded text.toList le_rfl 0 []

end OpenApiClient.Text
