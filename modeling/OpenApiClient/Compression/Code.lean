/-
Codes of bits.

A code gives every symbol a word of bits such that no word begins another one.  It is enough
to know how long the words are: among words of one length the symbols are in order, and short
words come before long ones.  So a word is read by counting, for one length after the other,
how many words of that length there are.

The lengths have to fit.  They must leave room for all words, and they must leave no room
empty, unless there is a single word of one bit.
-/

import OpenApiClient.Compression.Bits

set_option autoImplicit false

namespace OpenApiClient.Compression

/-- A code: how many words there are of each length from one on, and the symbols in the order
of their words. -/
structure Code where
  counts : List Nat
  symbols : Array Nat
  deriving Repr

namespace Code

/-- The longest word that there can be. -/
def maxLength : Nat := 15

/-- The room that is left for longer words after words of some lengths, counted in words of
the last length; none if there is too little. -/
def room? (counts : List Nat) : Option Nat :=
  counts.foldl (fun room n => room.bind fun r => if 2 * r < n then none else some (2 * r - n))
    (some 1)

/-- The code whose symbols have words of some lengths, where none has a word of no length.  A
code without words has one length all the same, so that a bit is read before it fails. -/
def ofLengths (lengths : List Nat) : Code :=
  let longest := lengths.foldl Nat.max 1
  let ofLength (n : Nat) : List Nat :=
    (lengths.zipIdx.filter fun p => p.1 = n).map (·.2)
  let groups := ((List.range longest).map (· + 1)).map ofLength
  ⟨groups.map List.length, groups.flatten.toArray⟩

/-- The code whose symbols have words of some lengths, unless these do not fit.  `isLoose`
says that a single word of one bit is enough. -/
def ofLengths? (isLoose : Bool) (lengths : List Nat) : Option Code :=
  let code := ofLengths lengths
  if code.symbols.isEmpty then some code
  else match room? code.counts with
    | none => none
    | some 0 => some code
    | some _ => if isLoose && code.counts.length = 1 then some code else none

/-- Reads a word: `word` is the number that its bits so far are, `first` that of the first
word of the same length, and `before` the number of shorter words.  There is no symbol for
bits that are no word. -/
def symbolFrom (symbols : Array Nat) : List Nat → Nat → Nat → Nat → Reader (Option Nat)
  | [], _, _, _ => return none
  | count :: counts, word, first, before => do
    let word := 2 * word + (← Reader.number 1)
    let first := 2 * first
    if word < first + count then return symbols[before + (word - first)]?
    symbolFrom symbols counts word (first + count) (before + count)

/-- Reads a word. -/
def symbol? (code : Code) : Reader (Option Nat) := symbolFrom code.symbols code.counts 0 0 0

end Code

end OpenApiClient.Compression
