/-
Finding a pattern in a text.

A match is tried at every place of the text, and at each place the ways of matching are
tried in a fixed order: the first of two alternatives first, the longer repetition first
unless it is lazy.  `run` takes what has to match afterwards as a continuation, so that a
failure there sends it on to its next way.

A repetition may match nothing in one turn, which then is its last.  A turn that is wanted
anyway can match nothing at any time.  So beyond the turns that are wanted there are at most
as many as characters are left, and one more.
-/

import OpenApiClient.Pattern.Basic

set_option autoImplicit false

namespace OpenApiClient.Pattern

/-! ## Where a match stands -/

/-- What is known of a group: what follows its beginning, and how many characters followed its
end when it was matched. -/
structure Mark where
  start : List Char
  finish : Option Nat
  deriving Repr

/-- The text of a group.  A group that has begun again behind its old end has none. -/
def Mark.text? (m : Mark) : Option (List Char) :=
  match m.finish with
  | some n => if n ≤ m.start.length then some (m.start.take (m.start.length - n)) else none
  | none => none

/-- A place in a text: what stands before it, last character first, what stands after it,
and the groups so far. -/
structure Place where
  before : List Char
  after : List Char
  groups : List (Nat × Mark) := []

/-- The text of a group, if it has matched. -/
def Place.group? (s : Place) (number : Nat) : Option (List Char) :=
  (s.groups.lookup number).bind Mark.text?

/-- Begins a group; its old end is still there. -/
def Place.openGroup (s : Place) (number : Nat) : Place :=
  let finish := (s.groups.lookup number).bind (·.finish)
  { s with groups := (number, ⟨s.after, finish⟩) :: s.groups.filter (·.1 ≠ number) }

/-- Ends a group. -/
def Place.closeGroup (s : Place) (number : Nat) : Place :=
  let start := ((s.groups.lookup number).map (·.start)).getD s.after
  { s with groups := (number, ⟨start, some s.after.length⟩) :: s.groups.filter (·.1 ≠ number) }

/-- Moves over one character. -/
def Place.advance (s : Place) (c : Char) (r : List Char) : Place :=
  { s with before := c :: s.before, after := r }

/-- Whether a place is at a word's edge, or at no word's edge: a word character stands on one
side only, or on both or none.  An empty text has no such place. -/
def Place.atWordEdge (s : Place) (negated ascii : Bool) : Bool :=
  let isWord (c : Option Char) := c.any (CharSet.word false ascii).contains
  !(s.before.isEmpty && s.after.isEmpty)
    && negated != (isWord s.before.head? != isWord s.after.head?)

/-- Whether a character belongs to a class. -/
def inSet (negated : Bool) (parts : List CharSet) (casing : Casing) (c : Char) : Bool :=
  negated != parts.any (·.containsIn casing (parts.length = 1) c)

/-! ## Matching -/

/-- What has to match afterwards. -/
abbrev Next := Place → Option Place

/-- The turns of a repetition; `turn` matches the body once, `bound` limits the turns, and
`last` says how many characters were left at the beginning of the last turn that was not
wanted. -/
def turns (turn : Next → Next) (least : Nat) (most : Option Nat) (isLazy : Bool) :
    Nat → Nat → Option Nat → Next → Next
  | 0, _, _, k, s => k s
  | bound + 1, count, last, k, s =>
    if count < least then turn (turns turn least most isLazy bound (count + 1) last k) s
    else
      let left := s.after.length
      let again : Next := fun s =>
        if most.any (· ≤ count) || last = some left then none
        else turn (turns turn least most isLazy bound (count + 1) (some left) k) s
      if isLazy then k s <|> again s else again s <|> k s

/-- The turns of a repetition that keeps what it has; each turn is matched in its first way. -/
def turnsForGood (turn : Next → Next) (least : Nat) (most : Option Nat) :
    Nat → Nat → Option Nat → Next
  | 0, _, _, s => some s
  | bound + 1, count, last, s =>
    if count < least then (turn some s).bind (turnsForGood turn least most bound (count + 1) last)
    else
      let left := s.after.length
      if most.any (· ≤ count) || last = some left then some s
      else match turn some s with
        | some s' => turnsForGood turn least most bound (count + 1) (some left) s'
        | none => some s

/-- Matches a text literally. -/
def literal (casing : Casing) : List Char → Next → Next
  | [], k, s => k s
  | c :: cs, k, s =>
    match s.after with
    | d :: r =>
      if casing.fold (Text.codePoint c) = casing.fold (Text.codePoint d) then
        literal casing cs k (s.advance d r)
      else none
    | [] => none

/-- Matches a pattern at a place, and what has to match afterwards. -/
def run : Pattern → Next → Next
  | .empty, k, s => k s
  | .never, _, _ => none
  | .any lineFeeds, k, s =>
    match s.after with
    | c :: r => if c = '\n' && !lineFeeds then none else k (s.advance c r)
    | [] => none
  | .set negated parts casing, k, s =>
    match s.after with
    | c :: r => if inSet negated parts casing c then k (s.advance c r) else none
    | [] => none
  | .start everyLine, k, s =>
    if s.before.isEmpty || (everyLine && s.before.head? = some '\n') then k s else none
  | .finish everyLine, k, s =>
    if s.after.isEmpty || s.after = ['\n'] || (everyLine && s.after.head? = some '\n') then k s
    else none
  | .textEnd, k, s => if s.after.isEmpty then k s else none
  | .wordEdge negated ascii, k, s => if s.atWordEdge negated ascii then k s else none
  | .seq a b, k, s => run a (run b k) s
  | .alt a b, k, s => run a k s <|> run b k s
  | .group number p, k, s => run p (fun s' => k (s'.closeGroup number)) (s.openGroup number)
  | .back number casing _ _, k, s =>
    match s.group? number with
    | some cs => literal casing cs k s
    | none => none
  | .times p least most greed, k, s =>
    let bound := least + s.after.length + 2
    match greed with
    | .greedy => turns (run p) least most false bound 0 none k s
    | .lazy => turns (run p) least most true bound 0 none k s
    | .possessive => (turnsForGood (run p) least most bound 0 none s).bind k
  | .atomic p, k, s => (run p some s).bind k
  | .ahead negated p, k, s =>
    match run p some s with
    | some s' => if negated then none else k { s with groups := s'.groups }
    | none => if negated then k s else none
  | .behind negated length p, k, s =>
    let found := if s.before.length < length then none
      else run p some
        { s with
          before := s.before.drop length
          after := (s.before.take length).reverse ++ s.after }
    match found with
    | some s' => if negated then none else k { s with groups := s'.groups }
    | none => if negated then k s else none
  | .ifGroup number a b, k, s => if (s.group? number).isSome then run a k s else run b k s

/-- Whether a pattern matches at a place or at one further on. -/
def matchesFrom (p : Pattern) : List Char → List Char → Bool
  | before, [] => (run p some ⟨before, [], []⟩).isSome
  | before, c :: r =>
    (run p some ⟨before, c :: r, []⟩).isSome || matchesFrom p (c :: before) r

/-- Whether a pattern occurs in a text. -/
def occursIn (p : Pattern) (text : String) : Bool := matchesFrom p [] text.toList

end OpenApiClient.Pattern
