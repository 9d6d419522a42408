/-
Bytes as text.

Files and binary scalars are bytes, and a document is text.  `decode` follows the
table of well-formed sequences: it refuses overlong forms, halves of surrogate pairs and
numbers past the last character.  A fault says which bytes are to blame, from the first
byte of the sequence up to the last one that could still belong to it.
-/

set_option autoImplicit false

namespace OpenApiClient.Text

/-- Why a sequence of bytes stands for no character. -/
inductive Utf8Reason where
  | badStart
  | badContinuation
  | endOfData
  deriving DecidableEq, Repr

/-- A sequence that stands for no character: its position, its length, its first byte,
and the reason. -/
structure Utf8Fault where
  position : Nat
  length : Nat
  first : UInt8
  reason : Utf8Reason
  deriving DecidableEq, Repr

/-- The character that stands for bytes that stand for no character. -/
def replacementChar : Char := '\uFFFD'

/-- Whether a byte continues a sequence. -/
def isContinuation (b : UInt8) : Bool := b.toNat / 0x40 = 2

/-- Whether `b` may follow the first byte `a` of a longer sequence. -/
def fitsSecond (a b : UInt8) : Bool :=
  isContinuation b && match a.toNat with
    | 0xE0 => 0xA0 ≤ b.toNat
    | 0xED => b.toNat < 0xA0
    | 0xF0 => 0x90 ≤ b.toNat
    | 0xF4 => b.toNat < 0x90
    | _ => true

/-- The low six bits of a byte. -/
def low6 (b : UInt8) : Nat := b.toNat % 0x40

/-- The first character of some bytes, and how many bytes it takes. -/
def firstChar (a : UInt8) (r : List UInt8) : Except (Nat × Utf8Reason) (Char × Nat) :=
  let n := a.toNat
  if n < 0x80 then .ok (Char.ofNat n, 1)
  else if n < 0xC2 then .error (1, .badStart)
  else if n < 0xE0 then
    match r with
    | [] => .error (1, .endOfData)
    | b :: _ =>
      if isContinuation b then .ok (Char.ofNat (n % 0x20 * 0x40 + low6 b), 2)
      else .error (1, .badContinuation)
  else if n < 0xF0 then
    match r with
    | [] => .error (1, .endOfData)
    | b :: r' =>
      if !fitsSecond a b then .error (1, .badContinuation)
      else match r' with
        | [] => .error (2, .endOfData)
        | c :: _ =>
          if isContinuation c then
            .ok (Char.ofNat ((n % 0x10 * 0x40 + low6 b) * 0x40 + low6 c), 3)
          else .error (2, .badContinuation)
  else if n < 0xF5 then
    match r with
    | [] => .error (1, .endOfData)
    | b :: r' =>
      if !fitsSecond a b then .error (1, .badContinuation)
      else match r' with
        | [] => .error (2, .endOfData)
        | c :: r'' =>
          if !isContinuation c then .error (2, .badContinuation)
          else match r'' with
            | [] => .error (3, .endOfData)
            | d :: _ =>
              if isContinuation d then
                .ok (Char.ofNat (((n % 8 * 0x40 + low6 b) * 0x40 + low6 c) * 0x40 + low6 d), 4)
              else .error (3, .badContinuation)
  else .error (1, .badStart)

/-- Decodes bytes from a position on; every character takes at least one byte, so the
number of bytes bounds the steps. -/
def decodeFrom : Nat → Nat → List UInt8 → List Char → Except Utf8Fault (List Char)
  | 0, _, _, acc => .ok acc.reverse
  | _, _, [], acc => .ok acc.reverse
  | fuel + 1, p, a :: r, acc =>
    match firstChar a r with
    | .error (n, reason) => .error ⟨p, n, a, reason⟩
    | .ok (c, n) => decodeFrom fuel (p + n) (r.drop (n - 1)) (c :: acc)

/-- The text that bytes stand for. -/
def decode (data : List UInt8) : Except Utf8Fault (List Char) :=
  decodeFrom data.length 0 data []

/-- Decodes bytes, however they are formed; every character takes at least one byte, so the
number of bytes bounds the steps. -/
def decodeReplacingFrom : Nat → List UInt8 → List Char
  | 0, _ => []
  | _, [] => []
  | fuel + 1, a :: r =>
    match firstChar a r with
    | .ok (c, n) => c :: decodeReplacingFrom fuel (r.drop (n - 1))
    | .error (n, _) => replacementChar :: decodeReplacingFrom fuel (r.drop (n - 1))

/-- The text that bytes stand for; every sequence that stands for no character becomes one
replacement character. -/
def decodeReplacing (data : List UInt8) : List Char := decodeReplacingFrom data.length data

/-- What a reason says. -/
def Utf8Reason.message : Utf8Reason → String
  | .badStart => "invalid start byte"
  | .badContinuation => "invalid continuation byte"
  | .endOfData => "unexpected end of data"

/-- What a fault says. -/
def Utf8Fault.message (f : Utf8Fault) : String :=
  if f.length = 1 then
    let digits := Nat.toDigits 16 f.first.toNat
    s!"'utf-8' codec can't decode byte 0x{String.ofList digits} in position {f.position}: "
      ++ f.reason.message
  else
    s!"'utf-8' codec can't decode bytes in position {f.position}-{f.position + f.length - 1}: "
      ++ f.reason.message

/-- Every line end of a text file as a line feed. -/
def normalizeLineEnds : List Char → List Char
  | [] => []
  | '\r' :: '\n' :: r => '\n' :: normalizeLineEnds r
  | c :: r => (if c = '\r' then '\n' else c) :: normalizeLineEnds r

end OpenApiClient.Text
