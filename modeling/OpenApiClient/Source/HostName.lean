/-
Names of hosts in all scripts.

The name of a host is made of labels between points, and only ASCII travels.  A label in
another script is therefore written as ASCII behind a mark of four characters.  Not every text
can be a label: there are rules about its characters, about hyphens and marks, and about text
that runs from right to left.  A label that is written as ASCII already has to keep them too,
and so has the text behind the mark.
-/

import OpenApiClient.Text.Composed
import OpenApiClient.Text.LabelChar
import OpenApiClient.Text.Punycode
import OpenApiClient.Text.Split

set_option autoImplicit false

namespace OpenApiClient.Source.HostName

open Text

/-! ## Small letters -/

/-- Whether a character is not looked at in the search for the letters around it. -/
def isPassedOver (c : Char) : Bool :=
  isMark c || ['\'', '.', ':', '^', '`', '·', '’', '\xad', '¨', '¯', '´', '¸'].contains c

/-- Whether the first character that counts is a letter in one of two cases. -/
def beginsCased (s : List Char) : Bool :=
  match s.dropWhile isPassedOver with
  | c :: _ => small c.toNat ≠ c.toNat || !(capitals c.toNat).isEmpty
  | [] => false

/-- The small form of a character between others, those before it last first. -/
def smallBetween (before : List Char) (c : Char) (after : List Char) : List Char :=
  if c = 'İ' then ['i', '\u0307']
  else if c = 'Σ' then [if beginsCased before && !beginsCased after then 'ς' else 'σ']
  else [.ofNat (small c.toNat)]

/-- A text in small letters; the characters before are in `before`, last first. -/
def smallFrom (before : List Char) : List Char → List Char
  | [] => []
  | c :: r => smallBetween before c r ++ smallFrom (c :: before) r

/-! ## Rules for labels -/

/-- Whether there is a hyphen where none may be: at an end, or both in the third and in the
fourth place. -/
def hasBadHyphen (label : List Char) : Bool :=
  label.head? = some '-' || label.getLast? = some '-' || (label.drop 2).take 2 = ['-', '-']

/-- Whether the letters around are joined, and only marks stand between; the characters before
come last first. -/
def isBetweenJoined (before after : List Char) : Bool :=
  (before.dropWhile isMark).head?.any (inRanges joinsAfterRanges)
    && (after.dropWhile isMark).head?.any (inRanges joinsBeforeRanges)

/-- Whether a character has the neighbours that it needs. -/
def fitsBetween (label before : List Char) (c : Char) (after : List Char) : Bool :=
  let followsVowelStop : Bool := before.head?.any fun b => markClass b = 9
  let first (ranges : List (Nat × Nat)) (s : List Char) : Bool :=
    s.head?.any (inRanges ranges)
  match c with
  | '\u200c' => followsVowelStop || isBetweenJoined before after
  | '\u200d' => followsVowelStop
  | '·' => before.head? = some 'l' && after.head? = some 'l'
  | '͵' => first greekRanges after
  | '\u05f3' | '\u05f4' => first hebrewRanges before
  | '・' => label.any (inRanges eastRanges)
  | _ =>
    if 0x660 ≤ c.toNat && c.toNat ≤ 0x669 then !label.any (inRanges [(0x6F0, 0x6F9)])
    else if 0x6F0 ≤ c.toNat && c.toNat ≤ 0x6F9 then !label.any (inRanges [(0x660, 0x669)])
    else false

/-- Whether all characters can stand where they do; those before are in `before`, last
first. -/
def fitFrom (label before : List Char) : List Char → Bool
  | [] => true
  | c :: r => (isLabelChar c || fitsBetween label before c r) && fitFrom label (c :: before) r

/-- Whether a character is a mark without a direction of its own. -/
def isStill (c : Char) : Bool := isMark c && !inRanges rightwardRanges c

/-- Whether a character is a letter that runs from right to left, or a digit. -/
def isStrong (c : Char) : Bool :=
  !isMark c && inRanges (leftwardRanges ++ eastDigitRanges ++ digitRanges) c

/-- Whether the directions of the characters go together.  A label with letters that run from
right to left begins with one, has no others, has digits of one kind, and ends with a letter
or a digit, but for marks. -/
def fitDirections (label : List Char) : Bool :=
  let isEastDigit := inRanges eastDigitRanges
  if !label.any fun c => !isMark c && inRanges (leftwardRanges ++ eastDigitRanges) c then true
  else
    label.head?.any (inRanges leftwardRanges)
      && label.all (fun c => isStill c || isStrong c || inRanges neutralRanges c)
      && !(label.any isEastDigit && label.any (inRanges digitRanges))
      && (label.reverse.dropWhile isStill).head?.any isStrong

/-- Whether a text can be a label. -/
def isLabel (label : List Char) : Bool :=
  !label.isEmpty && isComposed label && !hasBadHyphen label
    && !label.head?.any isMark && fitFrom label [] label && fitDirections label

/-! ## Names -/

/-- The mark in front of a label that is written as ASCII. -/
def asciiMark : List Char := ['x', 'n', '-', '-']

/-- Whether a text can be what stands behind the mark. -/
def isWritten (s : List Char) : Bool :=
  let (ascii, numbers) := Punycode.cutLast s
  let reading := Punycode.read ascii numbers
  !s.isEmpty && s.getLast? ≠ some '-' && reading.isSound && isLabel reading.text

/-- A label as ASCII, if it is one. -/
def writeLabel? (label : List Char) : Option (List Char) :=
  let lower := label.map Char.toLower
  let written :=
    if label.all fun c => c.toNat < 0x80 then
      if if asciiMark.isPrefixOf lower then isWritten (lower.drop 4) else isLabel lower
      then some label else none
    else if isLabel label then some (asciiMark ++ Punycode.write label) else none
  written.filter fun s => s.length ≤ 63

/-- Whether a character stands between labels. -/
def isPoint (c : Char) : Bool := ['.', '。', '．', '｡'].contains c

/-- The name of a host as ASCII, if it is one.  A point may stand at its end. -/
def write? (host : List Char) : Option (List Char) := do
  let labels := splitOn '.' ((smallFrom [] host).map fun c => if isPoint c then '.' else c)
  let isEnded := labels.getLast? = some []
  let written ← (if isEnded then labels.dropLast else labels).mapM writeLabel?
  let name := joinWith ['.'] written ++ (if isEnded then ['.'] else [])
  if labels.length < 2 && isEnded || 253 + (if isEnded then 1 else 0) < name.length then none
  else some name

end OpenApiClient.Source.HostName
