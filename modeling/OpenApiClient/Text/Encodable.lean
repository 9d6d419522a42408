/-
Text that has no form in bytes.

An encoding has bytes for some characters only.  Where a text has a character without bytes,
the message names the first such character, or the place of the whole run if several of them
stand side by side.
-/

import OpenApiClient.Text.Quoted

set_option autoImplicit false

namespace OpenApiClient.Text

/-- The encodings that a message can speak of. -/
inductive Encoding where
  | ascii
  | latin1
  | utf8
  deriving DecidableEq, Repr

namespace Encoding

/-- The name of an encoding. -/
def name : Encoding → String
  | .ascii => "ascii"
  | .latin1 => "latin-1"
  | .utf8 => "utf-8"

/-- Why an encoding has no bytes for a character. -/
def reason : Encoding → String
  | .ascii => "ordinal not in range(128)"
  | .latin1 => "ordinal not in range(256)"
  | .utf8 => "surrogates not allowed"

/-- Whether an encoding has bytes for a character. -/
def hasBytes : Encoding → Char → Bool
  | .ascii, c => c.toNat < 0x80
  | .latin1, c => c.toNat < 0x100
  | .utf8, c => !isHalf c

end Encoding

/-- A run of characters for which an encoding has no bytes: where it begins, its length, and
its first character. -/
structure EncodeFault where
  encoding : Encoding
  position : Nat
  length : Nat
  first : Char
  deriving DecidableEq, Repr

/-- The first run of characters for which an encoding has no bytes. -/
def encodeFault? (encoding : Encoding) (s : List Char) : Option EncodeFault :=
  let before := s.takeWhile encoding.hasBytes
  match s.dropWhile encoding.hasBytes with
  | [] => none
  | c :: r =>
    some ⟨encoding, before.length, 1 + (r.takeWhile (!encoding.hasBytes ·)).length, c⟩

/-- A character by its number. -/
def numbered (c : Char) : String :=
  let n := codePoint c
  .ofList (if n < 0x100 then '\\' :: 'x' :: hex 2 n
    else if n < 0x10000 then '\\' :: 'u' :: hex 4 n
    else '\\' :: 'U' :: hex 8 n)

/-- What a fault says. -/
def EncodeFault.message (f : EncodeFault) : String :=
  let place :=
    if f.length = 1 then s!"character '{numbered f.first}' in position {f.position}"
    else s!"characters in position {f.position}-{f.position + f.length - 1}"
  s!"'{f.encoding.name}' codec can't encode " ++ place ++ ": " ++ f.encoding.reason

end OpenApiClient.Text
