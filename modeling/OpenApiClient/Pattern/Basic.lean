/-
Search patterns.

Operations and imports are filtered by patterns: literal characters, classes, repetition,
alternatives, groups, assertions and references to groups.  A pattern is a tree; the
flags that stood in its text are already folded into the nodes that they concern, so a
node needs nothing but the text to be matched.
-/

import OpenApiClient.Text.Blank
import OpenApiClient.Text.Digit
import OpenApiClient.Text.LetterCase
import OpenApiClient.Text.WordChar

set_option autoImplicit false

namespace OpenApiClient

/-! ## Character classes -/

/-- One part of a character class. -/
inductive CharSet where
  | range (low high : Nat)
  | digit (negated ascii : Bool)
  | blank (negated ascii : Bool)
  | word (negated ascii : Bool)
  deriving DecidableEq, Repr, Inhabited

/-- Whether a character belongs to a part of a class. -/
def CharSet.contains (s : CharSet) (c : Char) : Bool :=
  let n := Text.codePoint c
  match s with
  | .range low high => low ≤ n && n ≤ high
  | .digit negated ascii => negated != ((Text.digitValue? c).isSome && (!ascii || n < 0x80))
  | .blank negated ascii =>
    negated != (Text.isBlank c && (!ascii || (n < 0x80 && !(0x1C ≤ n && n ≤ 0x1F))))
  | .word negated ascii => negated != (Text.isWordChar c && (!ascii || n < 0x80))

/-- The class of one character. -/
def CharSet.single (c : Char) : CharSet := .range (Text.codePoint c) (Text.codePoint c)

/-! ## Cases -/

/-- How a pattern takes the cases of letters. -/
inductive Casing where
  /-- A capital is another character than the small letter. -/
  | exact
  /-- The two cases of the letters of ASCII are one. -/
  | ascii
  /-- The two cases of all letters are one. -/
  | all
  deriving DecidableEq, Repr, Inhabited

/-- The form of a character in which it is compared. -/
def Casing.fold (casing : Casing) (n : Nat) : Nat :=
  match casing with
  | .exact => n
  | .ascii => Text.smallAscii n
  | .all => Text.small n

/-- The characters that count as one with a character. -/
def Casing.same (casing : Casing) (n : Nat) : List Nat :=
  match casing with
  | .exact => [n]
  | .ascii => let s := Text.smallAscii n; if 0x61 ≤ s && s ≤ 0x7A then [s, s - 0x20] else [n]
  | .all => Text.sameLetter n

/-- The last number of the basic plane. -/
def lastBasic : Nat := 0xFFFF

/-- Whether a character belongs to a part of a class.  Among other parts, a single letter beyond
the basic plane is compared as it is written with the small form. -/
def CharSet.containsIn (s : CharSet) (casing : Casing) (isAlone : Bool) (c : Char) : Bool :=
  let n := Text.codePoint c
  match s with
  | .range low high =>
    if casing = .all && low = high && lastBasic < low && !isAlone then Text.small n = low
    else (casing.same n).any fun m => low ≤ m && m ≤ high
  | s => s.contains c

/-! ## Patterns -/

/-- How a repetition chooses its length. -/
inductive Greed where
  /-- As long as possible first. -/
  | greedy
  /-- As short as possible first. -/
  | lazy
  /-- As long as possible, for good. -/
  | possessive
  deriving DecidableEq, Repr, Inhabited

/-- A pattern. -/
inductive Pattern where
  /-- Matches the empty text. -/
  | empty
  /-- Matches nothing. -/
  | never
  /-- Any character; line feeds only if `lineFeeds` says so. -/
  | any (lineFeeds : Bool)
  /-- A character of a class, or one outside it. -/
  | set (negated : Bool) (parts : List CharSet) (casing : Casing)
  /-- The start of the text, or of any line. -/
  | start (everyLine : Bool)
  /-- The end of the text or before the line feed at its end, or of any line. -/
  | finish (everyLine : Bool)
  /-- The very end of the text. -/
  | textEnd
  /-- A place where a word starts or ends, or a place where none does. -/
  | wordEdge (negated ascii : Bool)
  | seq (first second : Pattern)
  | alt (first second : Pattern)
  /-- A group whose text can be referred to. -/
  | group (number : Nat) (body : Pattern)
  /-- The text of a group once more, with the least and the greatest length of the group. -/
  | back (number : Nat) (casing : Casing) (least : Nat) (most : Option Nat)
  | times (body : Pattern) (least : Nat) (most : Option Nat) (greed : Greed)
  /-- A body that is matched in its first way only. -/
  | atomic (body : Pattern)
  /-- What follows does, or does not, match. -/
  | ahead (negated : Bool) (body : Pattern)
  /-- What stands before, of the given length, does, or does not, match. -/
  | behind (negated : Bool) (length : Nat) (body : Pattern)
  /-- One of two bodies, depending on whether a group has matched. -/
  | ifGroup (number : Nat) (yes no : Pattern)
  deriving Repr, Inhabited

namespace Pattern

/-- A pattern whose one item is this character. -/
def char (c : Char) (casing : Casing) : Pattern := .set false [.single c] casing

/-- The least and the greatest length of what a pattern matches; no greatest one if it
has no bound. -/
def width : Pattern → Nat × Option Nat
  | .empty | .never | .start _ | .finish _ | .textEnd | .wordEdge _ _ => (0, some 0)
  | .ahead _ _ | .behind _ _ _ => (0, some 0)
  | .any _ | .set _ _ _ => (1, some 1)
  | .seq a b =>
    let (la, ha) := a.width
    let (lb, hb) := b.width
    (la + lb, ha.bind fun x => hb.map (x + ·))
  | .alt a b =>
    let (la, ha) := a.width
    let (lb, hb) := b.width
    (min la lb, ha.bind fun x => hb.map (max x ·))
  | .group _ p | .atomic p => p.width
  | .back _ _ least most => (least, most)
  | .times p least most _ =>
    let (l, h) := p.width
    (l * least, if most = some 0 then some 0
      else h.bind fun x => if x = 0 then some 0 else most.map (x * ·))
  | .ifGroup _ a b =>
    let (la, ha) := a.width
    let (lb, hb) := b.width
    (min la lb, ha.bind fun x => hb.map (max x ·))

/-- Whether every look back of a pattern is over one length only. -/
def looksBack : Pattern → Bool
  | .behind _ length p => p.width = (length, some length) && p.looksBack
  | .seq a b | .alt a b | .ifGroup _ a b => a.looksBack && b.looksBack
  | .group _ p | .atomic p | .times p _ _ _ | .ahead _ p => p.looksBack
  | _ => true

/-- Whether a pattern has a repetition. -/
def repeats : Pattern → Bool
  | .times _ _ _ _ => true
  | .seq a b | .alt a b | .ifGroup _ a b => a.repeats || b.repeats
  | .group _ p | .atomic p | .behind _ _ p | .ahead _ p => p.repeats
  | _ => false

end Pattern

end OpenApiClient
