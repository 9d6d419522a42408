/-
The decimal text of a floating-point number.

A document's version, an enumeration value in a message and a number that is shown back
are written with the fewest digits that read back as the same number, and among those
with the digits nearest to it.  Nothing here rounds: a finite number is `m · 2 ^ q` with
natural `m`, the reals that read back as it form an interval around it, and both ends of
that interval and every candidate are fractions of natural numbers.

`Decimal` is the result of that search, and `display` chooses between the positional and
the scientific form.
-/

set_option autoImplicit false

namespace OpenApiClient.Number

/-! ## Powers -/

/-- A power of two. -/
def twoTo (n : Nat) : Nat := Nat.pow 2 n

/-- A power of ten. -/
def tenTo (n : Nat) : Nat := Nat.pow 10 n

/-! ## A decimal -/

/-- The number `digits · 10 ^ exponent`. -/
structure Decimal where
  digits : Nat
  exponent : Int
  deriving DecidableEq, Repr

/-- Moves the zeros at the end of the digits into the exponent, at most `fuel` of them. -/
def Decimal.stripZeros : Nat → Decimal → Decimal
  | 0, d => d
  | fuel + 1, d =>
    if d.digits ≠ 0 ∧ d.digits % 10 = 0 then
      stripZeros fuel ⟨d.digits / 10, d.exponent + 1⟩
    else d

/-! ## A binary fraction -/

/-- The number `mantissa · 2 ^ exponent`.  `closeBelow` says that the number is the
smallest of its binade, so that its neighbour below is only half as far away as its
neighbour above. -/
structure Binary where
  mantissa : Nat
  exponent : Int
  closeBelow : Bool
  deriving DecidableEq, Repr

/-- The magnitude of a finite number. -/
def Binary.ofFloat (x : Float) : Binary :=
  let bits := x.toBits.toNat
  let fraction : Nat := bits % twoTo 52
  let biased : Nat := (bits / twoTo 52) % twoTo 11
  if biased = 0 then ⟨fraction, -1074, false⟩
  else ⟨fraction + twoTo 52, (biased : Int) - 1075, fraction = 0 && 1 < biased⟩

/-- A fraction of natural numbers. -/
structure Ratio where
  num : Nat
  den : Nat

/-- `n · 2 ^ q` as a fraction. -/
def Ratio.scaled (n : Nat) (q : Int) : Ratio :=
  if 0 ≤ q then ⟨n * twoTo q.toNat, 1⟩ else ⟨n, twoTo (-q).toNat⟩

/-- Whether one fraction is below another. -/
def Ratio.lt (a b : Ratio) : Bool := a.num * b.den < b.num * a.den

/-- `n · 10 ^ e` as a fraction. -/
def Ratio.decimal (n : Nat) (e : Int) : Ratio :=
  if 0 ≤ e then ⟨n * tenTo e.toNat, 1⟩ else ⟨n, tenTo (-e).toNat⟩

/-- The reals that read back as a number: an interval, with its ends if the mantissa is
even. -/
structure Neighbourhood where
  low : Ratio
  high : Ratio
  closed : Bool

/-- The neighbourhood of a binary fraction, half way to its two neighbours. -/
def Binary.neighbourhood (b : Binary) : Neighbourhood :=
  let low :=
    if b.closeBelow then Ratio.scaled (4 * b.mantissa - 1) (b.exponent - 2)
    else Ratio.scaled (2 * b.mantissa - 1) (b.exponent - 1)
  ⟨low, Ratio.scaled (2 * b.mantissa + 1) (b.exponent - 1), b.mantissa % 2 == 0⟩

/-- Whether a fraction lies in a neighbourhood. -/
def Neighbourhood.contains (n : Neighbourhood) (r : Ratio) : Bool :=
  if n.closed then !r.lt n.low && !n.high.lt r else n.low.lt r && r.lt n.high

/-! ## The search -/

/-- The place of a positive fraction: the least `p` with `r < 10 ^ p`, searched upward
from a lower bound for at most `fuel` steps. -/
def placeFrom (r : Ratio) : Nat → Int → Int
  | 0, p => p
  | fuel + 1, p => if r.lt (Ratio.decimal 1 p) then p else placeFrom r fuel (p + 1)

/-- The place of a positive fraction.  The binary logarithms bound it from below to
within a few powers of ten. -/
def place (r : Ratio) : Int :=
  let bits : Int := (r.num.log2 : Int) - (r.den.log2 : Int)
  placeFrom r 8 ((bits * 30103).fdiv 100000 - 2)

/-- The best decimal with `count` digits that lies in the neighbourhood of `r`, if there
is one: the nearer of the two on either side of `r`. -/
def candidate (r : Ratio) (n : Neighbourhood) (p : Int) (count : Nat) : Option Decimal :=
  let e := p - count
  let unit := Ratio.decimal 1 e
  let below := (r.num * unit.den) / (r.den * unit.num)
  let lowOk := below ≠ 0 && n.contains (Ratio.decimal below e)
  let highOk := n.contains (Ratio.decimal (below + 1) e)
  -- twice `r` against the sum of the two neighbours on the grid
  let mid := Ratio.decimal (2 * below + 1) e
  let twice : Ratio := ⟨2 * r.num, r.den⟩
  if lowOk && highOk then
    if twice.lt mid then some ⟨below, e⟩
    else if mid.lt twice then some ⟨below + 1, e⟩
    else some (if below % 2 = 0 then ⟨below, e⟩ else ⟨below + 1, e⟩)
  else if lowOk then some ⟨below, e⟩
  else if highOk then some ⟨below + 1, e⟩
  else none

/-- The shortest decimal that reads back as a positive finite number.  Seventeen digits
always suffice. -/
def shortest (b : Binary) : Decimal :=
  let r := Ratio.scaled b.mantissa b.exponent
  let n := b.neighbourhood
  let p := place r
  let found := (List.range 17).findSome? fun i => candidate r n p (i + 1)
  (found.getD ⟨0, 0⟩).stripZeros 17

/-! ## Text -/

/-- A run of zeros. -/
def zeros (n : Nat) : String := String.ofList (List.replicate n '0')

/-- A decimal in positional form while its point stands within sixteen digits to the
right of the first digit or three zeros to the left of it, else in scientific form with
a signed exponent of at least two digits.  The positional form always has a digit on
each side of the point. -/
def Decimal.display (d : Decimal) : String :=
  let text := toString d.digits
  let count := text.length
  let point : Int := count + d.exponent
  if -4 < point ∧ point ≤ 16 then
    if point ≤ 0 then "0." ++ zeros (-point).toNat ++ text
    else if (count : Int) ≤ point then text ++ zeros (point - count).toNat ++ ".0"
    else
      let cs := text.toList
      String.ofList (cs.take point.toNat) ++ "." ++ String.ofList (cs.drop point.toNat)
  else
    let cs := text.toList
    let fraction := if count = 1 then "" else "." ++ String.ofList (cs.drop 1)
    let e := point - 1
    let size := toString e.natAbs
    String.ofList (cs.take 1) ++ fraction ++ "e" ++ (if e < 0 then "-" else "+")
      ++ (if size.length = 1 then "0" else "") ++ size

/-- The text of a floating-point number. -/
def display (x : Float) : String :=
  let negative := x.toBits.toNat / twoTo 63 = 1
  if x.isNaN then "nan"
  else if x.isInf then (if negative then "-inf" else "inf")
  else
    let b := Binary.ofFloat x
    let body := if b.mantissa = 0 then "0.0" else (shortest b).display
    if negative then "-" ++ body else body

/-! ## Reading -/

/-- The number nearest to `digits · 10 ^ exponent`.  Exponents far outside the range of
the type are settled first, so that no power of ten of their size is computed. -/
def ofDecimal (digits : Nat) (exponent : Int) : Float :=
  if digits = 0 then 0.0
  else
    let top : Int := (toString digits).length + exponent
    if 400 < top then 1.0 / 0.0
    else if top < -400 then 0.0
    else if 0 ≤ exponent then Float.ofScientific digits false exponent.toNat
    else Float.ofScientific digits true (-exponent).toNat

/-- A finite number that has no fraction, as an integer. -/
def toInt? (x : Float) : Option Int :=
  if x.isNaN || x.isInf then none
  else
    let b := Binary.ofFloat x
    let sign : Int := if x.toBits.toNat / twoTo 63 = 1 then -1 else 1
    if 0 ≤ b.exponent then some (sign * (b.mantissa * twoTo b.exponent.toNat : Nat))
    else
      let unit := twoTo (-b.exponent).toNat
      if b.mantissa % unit = 0 then some (sign * (b.mantissa / unit : Nat)) else none

end OpenApiClient.Number
