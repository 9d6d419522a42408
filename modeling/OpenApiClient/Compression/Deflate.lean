/-
Unpacking deflated data.

Deflated data is a sequence of blocks.  A block holds its bytes as they are, or it holds
words of a code, which stand for bytes and for stretches of what came before.  There is a
fixed code, or the block begins with the lengths of the words of its own code; these lengths
are written as words of a third code, whose lengths come first.

The end of the data can come anywhere, and it is no fault.
-/

import OpenApiClient.Compression.Code

set_option autoImplicit false

namespace OpenApiClient.Compression

open Reader

/-! ## Stretches -/

/-- The lengths of stretches: for each symbol the shortest, and how many bits are added. -/
def lengthTable : Array (Nat × Nat) := #[
  (3, 0), (4, 0), (5, 0), (6, 0), (7, 0), (8, 0), (9, 0), (10, 0), (11, 1), (13, 1), (15, 1),
  (17, 1), (19, 2), (23, 2), (27, 2), (31, 2), (35, 3), (43, 3), (51, 3), (59, 3), (67, 4),
  (83, 4), (99, 4), (115, 4), (131, 5), (163, 5), (195, 5), (227, 5), (258, 0)]

/-- The distances of stretches, in the same way. -/
def distanceTable : Array (Nat × Nat) := #[
  (1, 0), (2, 0), (3, 0), (4, 0), (5, 1), (7, 1), (9, 2), (13, 2), (17, 3), (25, 3), (33, 4),
  (49, 4), (65, 5), (97, 5), (129, 6), (193, 6), (257, 7), (385, 7), (513, 8), (769, 8),
  (1025, 9), (1537, 9), (2049, 10), (3073, 10), (4097, 11), (6145, 11), (8193, 12),
  (12289, 12), (16385, 13), (24577, 13)]

/-- The number for a symbol of a table. -/
def entry (table : Array (Nat × Nat)) (symbol : Nat) (f : Fault) : Reader Nat :=
  match table[symbol]? with
  | some (base, bits) => do return base + (← number bits)
  | none => fail f

/-! ## Codes of a block -/

/-- The code of the bytes and the lengths, and the code of the distances. -/
abbrev Codes := Code × Code

/-- The codes of a block that does not bring its own. -/
def fixedCodes : Codes :=
  (.ofLengths (List.replicate 144 8 ++ List.replicate 112 9 ++ List.replicate 24 7
    ++ List.replicate 8 8), .ofLengths (List.replicate 30 5 ++ [5, 5]))

/-- The symbols of the code of lengths, in the order in which their own lengths come. -/
def lengthOrder : List Nat := [16, 17, 18, 0, 8, 7, 9, 6, 10, 5, 11, 4, 12, 3, 13, 2, 14, 1, 15]

/-- Reads numbers of three bits. -/
def shortNumbers : Nat → Reader (List Nat)
  | 0 => return []
  | n + 1 => do return (← number 3) :: (← shortNumbers n)

/-- Reads lengths of words until there are `n`; those before are in `acc`, last first.  Every
symbol brings at least one, so `n` bounds the steps. -/
def codeLengths (code : Code) (n : Nat) : Nat → List Nat → Reader (List Nat)
  | 0, acc => return acc.reverse
  | fuel + 1, acc => do
    if n ≤ acc.length then return acc.reverse
    let symbol := (← code.symbol?).getD 0
    if symbol < 16 then codeLengths code n fuel (symbol :: acc)
    else
      let (length, count) ←
        if symbol = 16 then do
          let more ← number 2
          match acc with
          | last :: _ => pure (last, 3 + more)
          | [] => fail .lengthRepeat
        else if symbol = 17 then do pure (0, 3 + (← number 3))
        else do pure (0, 11 + (← number 7))
      require (acc.length + count ≤ n) .lengthRepeat
      codeLengths code n fuel (List.replicate count length ++ acc)

/-- A code that fits, or a fault. -/
def fitting (code : Option Code) (f : Fault) : Reader Code :=
  match code with
  | some c => pure c
  | none => fail f

/-- Reads the codes of a block that brings its own. -/
def ownCodes : Reader Codes := do
  let sizes ← number 14
  let literals := sizes % 32 + 257
  let distances := sizes / 32 % 32 + 1
  require (literals ≤ 286 && distances ≤ 30) .tooManySymbols
  let given ← shortNumbers (sizes / 1024 + 4)
  let lengths := (List.range 19).map fun s => ((lengthOrder.zip given).lookup s).getD 0
  let code ← fitting (Code.ofLengths? false lengths) .lengthCode
  let all ← codeLengths code (literals + distances) (literals + distances) []
  require (all.getD 256 0 ≠ 0) .noEnd
  let forLiterals ← fitting (Code.ofLengths? true (all.take literals)) .literalCode
  return (forLiterals, ← fitting (Code.ofLengths? true (all.drop literals)) .distanceCode)

/-! ## Blocks -/

/-- Unpacks the words of a block up to its end; every word has a bit, so the bits bound the
steps. -/
def words (codes : Codes) : Nat → Reader Unit
  | 0 => throw .short
  | fuel + 1 => do
    match ← codes.1.symbol? with
    | none => fail .literal
    | some symbol =>
      if symbol < 256 then
        emit symbol.toUInt8
        words codes fuel
      else if symbol = 256 then return
      else
        let length ← entry lengthTable (symbol - 257) .literal
        match ← codes.2.symbol? with
        | none => fail .distance
        | some far =>
          emitAgain (← entry distanceTable far .distance) length
          words codes fuel

/-- Unpacks a block of bytes as they are. -/
def storedBytes : Reader Unit := do
  align
  let lengths ← number 32
  require (lengths % 0x10000 + lengths / 0x10000 = 0xFFFF) .storedLengths
  emitBytes (lengths % 0x10000)

/-- Unpacks a block of a type. -/
def block (type : Nat) : Reader Unit := do
  let bits := (← get).bits.length
  match type with
  | 0 => storedBytes
  | 1 => words fixedCodes bits
  | 2 => do words (← ownCodes) bits
  | _ => fail .blockType

/-- Unpacks blocks up to the last one; every block has three bits, so the bits bound the
steps. -/
def blocks : Nat → Reader Unit
  | 0 => throw .short
  | fuel + 1 => do
    let start ← number 3
    block (start / 2)
    if start % 2 = 1 then return
    blocks fuel

/-- Unpacks deflated data. -/
def deflated : Reader Unit := do blocks (← get).bits.length

/-- What a reader makes of data. -/
def Reader.unpack (r : Reader Unit) (data : List UInt8) : Except Fault (List UInt8) :=
  match r.run ⟨bitsOf data, #[]⟩ with
  | .error (.fault f) _ => .error f
  | .error .short s | .ok _ s => .ok s.output.toList

end OpenApiClient.Compression
