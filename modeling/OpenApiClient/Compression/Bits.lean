/-
Reading packed data bit by bit.

Packed data is a sequence of bits: every byte gives its lowest bit first, and so does every
number that is made of bits.  What was unpacked so far has to be at hand all the time, because
packed data refers back to it.  So a reader has both as its state, and its state outlives a
halt: data that ends too early still gives what came before its end.
-/

set_option autoImplicit false

namespace OpenApiClient.Compression

/-! ## Halts -/

/-- What is wrong with packed data. -/
inductive Fault where
  | header
  | method
  | window
  | dictionary
  | headerFlags
  | headerCheck
  | blockType
  | storedLengths
  | tooManySymbols
  | lengthCode
  | lengthRepeat
  | noEnd
  | literalCode
  | distanceCode
  | literal
  | distance
  | farDistance
  | dataCheck
  | sizeCheck
  deriving DecidableEq, Repr

/-- What a fault says. -/
def Fault.message : Fault → String
  | .header => "incorrect header check"
  | .method => "unknown compression method"
  | .window => "invalid window size"
  | .dictionary => "need dictionary"
  | .headerFlags => "unknown header flags set"
  | .headerCheck => "header crc mismatch"
  | .blockType => "invalid block type"
  | .storedLengths => "invalid stored block lengths"
  | .tooManySymbols => "too many length or distance symbols"
  | .lengthCode => "invalid code lengths set"
  | .lengthRepeat => "invalid bit length repeat"
  | .noEnd => "invalid code -- missing end-of-block"
  | .literalCode => "invalid literal/lengths set"
  | .distanceCode => "invalid distances set"
  | .literal => "invalid literal/length code"
  | .distance => "invalid distance code"
  | .farDistance => "invalid distance too far back"
  | .dataCheck => "incorrect data check"
  | .sizeCheck => "incorrect length check"

/-- Why a reader goes no further. -/
inductive Halt where
  /-- The data ends here. -/
  | short
  | fault (fault : Fault)
  deriving DecidableEq, Repr

/-! ## Bits -/

/-- The bits of a byte. -/
def bitsOfByte (b : UInt8) : List Bool := (List.range 8).map fun i => b.toNat.testBit i

/-- The bits of some bytes. -/
def bitsOf (data : List UInt8) : List Bool := data.flatMap bitsOfByte

/-- The number that bits are. -/
def valueOf (bits : List Bool) : Nat := bits.foldr (fun b n => 2 * n + b.toNat) 0

theorem length_bitsOf (data : List UInt8) : (bitsOf data).length = 8 * data.length := by
  induction data with
  | nil => rfl
  | cons b r ih =>
    have h : bitsOf (b :: r) = bitsOfByte b ++ bitsOf r := rfl
    simp only [h, bitsOfByte, List.length_append, List.length_map, List.length_range, ih,
      List.length_cons]
    omega

/-! ## Readers -/

/-- The bits that are left, and the bytes that came of those before. -/
structure Progress where
  bits : List Bool
  output : Array UInt8 := #[]

/-- A reader of packed data. -/
abbrev Reader := EStateM Halt Progress

namespace Reader

/-- Stops at a fault. -/
def fail {α : Type} (f : Fault) : Reader α := throw (.fault f)

/-- Stops at a fault unless something holds. -/
def require (holds : Bool) (f : Fault) : Reader Unit := if holds then pure () else fail f

/-- The number that the next `n` bits are. -/
def number (n : Nat) : Reader Nat := do
  let s ← get
  let bits := s.bits.take n
  if bits.length < n then throw .short
  set { s with bits := s.bits.drop n }
  return valueOf bits

/-- The next `n` bytes. -/
def bytes : Nat → Reader (List UInt8)
  | 0 => return []
  | n + 1 => do
    let b ← number 8
    return b.toUInt8 :: (← bytes n)

/-- Goes on to the start of a byte. -/
def align : Reader Unit := modify fun s => { s with bits := s.bits.drop (s.bits.length % 8) }

/-- Gives out a byte. -/
def emit (b : UInt8) : Reader Unit := modify fun s => { s with output := s.output.push b }

/-- Gives out the next `n` bytes as they are. -/
def emitBytes : Nat → Reader Unit
  | 0 => return
  | n + 1 => do
    emit (← number 8).toUInt8
    emitBytes n

/-- Bytes with `n` more, of which each is the one `distance` places before it. -/
def repeated (distance : Nat) : Nat → Array UInt8 → Array UInt8
  | 0, output => output
  | n + 1, output => repeated distance n (output.push (output.getD (output.size - distance) 0))

/-- Gives out `n` bytes again, from `distance` places before. -/
def emitAgain (distance n : Nat) : Reader Unit := do
  let s ← get
  require (distance ≤ s.output.size) .farDistance
  set { s with output := repeated distance n s.output }

end Reader

end OpenApiClient.Compression
