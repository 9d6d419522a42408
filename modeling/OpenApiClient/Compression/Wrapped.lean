/-
Deflated data with a header and a check.

There are two wrappings.  The short one begins with two bytes and ends with a sum over the
bytes; the long one begins with ten bytes or more, which can hold the name of a file, and
ends with the remainder of a division and with the size.  What stands after the end is not
looked at.
-/

import OpenApiClient.Compression.Deflate

set_option autoImplicit false

namespace OpenApiClient.Compression

open Reader

/-! ## Checks -/

/-- The sum over some bytes: the sum of the bytes and the sum of these sums. -/
def checkSum (data : Array UInt8) : Nat :=
  let (a, b) := data.foldl (fun (a, b) x =>
    let a := (a + x.toNat) % 65521
    (a, (b + a) % 65521)) (1, 0)
  b * 0x10000 + a

/-- One step of the division: the remainder after one more bit. -/
def shiftOut (n : UInt32) : UInt32 := if n &&& 1 = 1 then (n >>> 1) ^^^ 0xEDB88320 else n >>> 1

/-- The remainder for some bytes. -/
def checkRemainder (data : Array UInt8) : Nat :=
  let step (n : UInt32) (x : UInt8) : UInt32 :=
    (List.range 8).foldl (fun n _ => shiftOut n) (n ^^^ x.toUInt32)
  ((data.foldl step 0xFFFFFFFF) ^^^ 0xFFFFFFFF).toNat

/-- A number with its bytes the other way round. -/
def swapBytes (n : Nat) : Nat :=
  n % 0x100 * 0x1000000 + n / 0x100 % 0x100 * 0x10000 + n / 0x10000 % 0x100 * 0x100 + n / 0x1000000

/-! ## The short wrapping -/

/-- Unpacks data in the short wrapping. -/
def shortWrapped : Reader Unit := do
  let method ← number 8
  let flags ← number 8
  require ((method * 0x100 + flags) % 31 = 0) .header
  require (method % 16 = 8) .method
  require (method / 16 ≤ 7) .window
  if flags / 32 % 2 = 1 then
    let _ ← number 32
    fail .dictionary
  deflated
  align
  let check ← number 32
  require (swapBytes check = checkSum (← get).output) .dataCheck

/-! ## The long wrapping -/

/-- Reads a name up to the zero after it; every byte has a bit, so the bits bound the steps. -/
def name : Nat → Reader (List UInt8)
  | 0 => throw .short
  | fuel + 1 => do
    let b ← number 8
    if b = 0 then return [0] else return b.toUInt8 :: (← name fuel)

/-- Whether a flag of a header is set. -/
def isSet (flags bit : Nat) : Bool := flags.testBit bit

/-- Reads a part of a header if its flag is set. -/
def optional (flags bit : Nat) (part : Reader (List UInt8)) : Reader (List UInt8) :=
  if isSet flags bit then part else pure []

/-- A part of a header that begins with its length. -/
def extraPart : Reader (List UInt8) := do
  let size ← bytes 2
  return size ++ (← bytes (size.foldr (fun b n => n * 0x100 + b.toNat) 0))

/-- Unpacks data in the long wrapping. -/
def longWrapped : Reader Unit := do
  let mark ← bytes 2
  require (mark = [0x1F, 0x8B]) .header
  let methodAndFlags ← bytes 2
  let flags := (methodAndFlags.getD 1 0).toNat
  require (methodAndFlags.head? = some 8) .method
  require (flags / 32 = 0) .headerFlags
  let times ← bytes 6
  let extra ← optional flags 2 extraPart
  let size := (← get).bits.length
  let names ← optional flags 3 (name size)
  let comment ← optional flags 4 (name size)
  if isSet flags 1 then
    let header := mark ++ methodAndFlags ++ times ++ extra ++ names ++ comment
    let check ← number 16
    require (check = checkRemainder header.toArray % 0x10000) .headerCheck
  deflated
  align
  let check ← number 32
  let output := (← get).output
  require (check = checkRemainder output) .dataCheck
  let size ← number 32
  require (size = output.size % 0x100000000) .sizeCheck

end OpenApiClient.Compression
