/-
Reading search patterns.

A pattern's text is read by descent: alternatives of sequences of items, each item with
an optional repetition.  The reader carries the flags that are in force, folds them into
the nodes it makes, and knows which groups are closed, because a reference to an open group
is a fault.  Each call reads at least one token before it calls another, so the number of
tokens bounds the depth, and `read` supplies that bound.
-/

import OpenApiClient.Pattern.Escape
import OpenApiClient.Pattern.Search
import OpenApiClient.Text.NameChar
import OpenApiClient.Text.Split

set_option autoImplicit false

namespace OpenApiClient.Pattern

/-! ## State -/

/-- A group that is closed: its number, and the least and the greatest length of what it
matches. -/
structure ClosedGroup where
  number : Nat
  least : Nat
  most : Option Nat
  deriving Repr

/-- Where the reader stands: the tokens that are left, the flags of the whole pattern, the
number of groups so far, the groups that are closed, the names of groups, the groups whose
match has been asked for, and, in a look back, the number of groups before it. -/
structure Reading where
  rest : List Token
  flags : Flags := {}
  count : Nat := 0
  closed : List ClosedGroup := []
  names : List (String × Nat) := []
  asked : List Nat := []
  behind : Option Nat := none

/-- An item of a sequence.  Only some items can be repeated. -/
inductive Item where
  | plain (p : Pattern)
  /-- An anchor cannot be repeated. -/
  | anchor (p : Pattern)
  /-- A repetition cannot be repeated. -/
  | repeated (p : Pattern)

/-- The pattern of an item. -/
def Item.pattern : Item → Pattern
  | .plain p | .anchor p | .repeated p => p

/-- The sequence of some items, given last first. -/
def sequence (items : List Item) : Pattern :=
  items.foldl (fun p i => match p with
    | .empty => i.pattern
    | _ => .seq i.pattern p) .empty

/-- The parts of a class that takes cases in one way. -/
def classParts? (casing : Casing) : Pattern → Option (List CharSet)
  | .set false parts casing' => if casing = casing' then some parts else none
  | _ => none

/-- Alternatives as one pattern.  If all of them are classes they are one class, so that a
letter is among the parts of the others. -/
def alternatives (casing : Casing) (ps : List Pattern) : Pattern :=
  match ps, ps.mapM (classParts? casing) with
  | [p], _ => p
  | _, some parts => .set false parts.flatten.eraseDups casing
  | _, none => ps.foldr (fun p q => if let .never := q then p else .alt p q) .never

/-! ## Groups -/

/-- Checks that a group may be asked for here. -/
def checkLookBehind (st : Reading) (number : Nat) : Except Fault Unit :=
  match st.behind with
  | none => .ok ()
  | some before =>
    if !st.closed.any (·.number = number) then .error .referenceToOpenGroup
    else if before < number then .error .referenceIntoLookBehind
    else .ok ()

/-- A reference to a group. -/
def reference (flags : Flags) (st : Reading) (number : Nat) : Except Fault Pattern := do
  if st.count < number then throw .unknownGroup
  match st.closed.find? (·.number = number) with
  | none => throw .referenceToOpenGroup
  | some g =>
    checkLookBehind st number
    return .back number flags.casing g.least g.most

/-- Reads a name up to its closing mark. -/
def readName (close : Char) (s : List Token) : Except Fault (List Char × List Token) :=
  match untilChar close s with
  | some (name, r) => if name.isEmpty then .error .badGroupName else .ok (name, r)
  | none => .error .badGroupName

/-- The group that a name or a number asks for.  A group with a number can still follow. -/
def askedGroup (st : Reading) (name : List Char) : Except Fault (Nat × Reading) :=
  if Text.isName name then
    match st.names.lookup (.ofList name) with
    | some n => .ok (n, st)
    | none => .error .unknownGroup
  else
    match Text.readInt 10 name with
    | .ok n =>
      if n ≤ 0 then .error .unknownGroup
      else .ok (n.toNat, { st with asked := n.toNat :: st.asked })
    | .error _ => .error .badGroupName

/-! ## Classes -/

/-- One end of a range or a single part of a class. -/
def classPart (flags : Flags) : List Token → Except Fault (CharSet × List Token)
  | [] => .error .openClass
  | .loose :: _ => .error .badEscape
  | .escape c :: r => classEscape flags c r
  | .char c :: r => .ok (.single c, r)

/-- The number of the character that a part of a class is, if it is a single one. -/
def CharSet.single? : CharSet → Option Nat
  | .range low high => if low = high then some low else none
  | _ => none

/-- Reads the parts of a class up to its end. -/
def readClass (flags : Flags) : Nat → List Token → List CharSet →
    Except Fault (List CharSet × List Token)
  | 0, _, _ => .error .openClass
  | fuel + 1, s, acc => do
    match s, acc with
    | .char ']' :: r, _ :: _ => return (acc.reverse, r)
    | _, _ =>
      let (a, r) ← classPart flags s
      match r with
      | .char '-' :: .char ']' :: r' => return ((.single '-' :: a :: acc).reverse, r')
      | .char '-' :: r' =>
        let (b, r'') ← classPart flags r'
        match CharSet.single? a, CharSet.single? b with
        | some low, some high =>
          if high < low then throw .badRange
          readClass flags fuel r'' (.range low high :: acc)
        | _, _ => throw .badRange
      | _ => readClass flags fuel r (a :: acc)

/-! ## Repetitions -/

/-- The least number of turns that nobody can ask for. -/
def maxTurns : Nat := 4294967295

/-- Reads the number of turns that digits stand for; none if there are none. -/
def turnCount (digits : List Char) : Except Fault (Option Nat) :=
  if digits.isEmpty then .ok none
  else if Text.maxDigits < digits.length then .error (.longNumber digits.length)
  else
    let n := digitsIn 10 digits
    if maxTurns ≤ n then .error .numberTooLarge else .ok (some n)

/-- Reads the bounds of a repetition in braces, after the opening brace; none if the brace
stands for itself. -/
def readBounds (s : List Token) : Except Fault (Option (Nat × Option Nat × List Token)) :=
  let (low, r) := takeChars Char.isDigit s
  let (high, r') := match r with
    | .char ',' :: r' => takeChars Char.isDigit r'
    | _ => (low, r)
  match s, r' with
  | .char '\x7d' :: _, _ => .ok none
  | _, .char '\x7d' :: .loose :: _ => .error .badEscape
  | _, .char '\x7d' :: r'' => do
    let least := (← turnCount low).getD 0
    let most ← turnCount high
    if most.any (· < least) then throw .leastAboveMost
    return some (least, most, r'')
  | _, _ => .ok none

/-- Repeats the last item. -/
def repeatLast (items : List Item) (least : Nat) (most : Option Nat) (greed : Greed) :
    Except Fault (List Item) :=
  match items with
  | .plain p :: more => .ok (.repeated (.times p least most greed) :: more)
  | .repeated _ :: _ => .error .multipleRepeat
  | _ => .error .nothingToRepeat

/-- The mark after a repetition that chooses its greed. -/
def readGreed : List Token → Greed × List Token
  | .char '?' :: r => (.lazy, r)
  | .char '+' :: r => (.possessive, r)
  | r => (.greedy, r)

/-! ## Flags -/

/-- Switches a flag. -/
def Flags.switch (flags : Flags) (on : Bool) : Char → Flags
  | 'i' => { flags with eitherCase := on }
  | 's' => { flags with lineFeeds := on }
  | 'm' => { flags with everyLine := on }
  | 'x' => { flags with spaced := on }
  | 'a' => { flags with ascii := on }
  | 'u' => { flags with everyScript := on }
  | 't' => { flags with isTemplate := on }
  | _ => flags

/-- Whether a character is the letter of a flag. -/
def isFlag (c : Char) : Bool := "aimstux".toList.contains c

/-- Reads the letters of flags, of which at least one has to be there. -/
def flagLetters (s : List Token) : Except Fault (List Char × List Token) :=
  match takeChars isFlag s with
  | ([], _) => .error .badFlags
  | (letters, r) => .ok (letters, r)

/-- The flags that letters switch on and off in a part of a pattern.  The two that are about
scripts exclude each other. -/
def Flags.inPart (flags : Flags) (on off : List Char) : Flags :=
  let flags := on.foldl (fun f c => f.switch true c) flags
  let flags := if on.contains 'u' then { flags with ascii := false } else flags
  off.foldl (fun f c => f.switch false c) flags

/-- Reads a group of flags: the letters that are switched on, those that are switched off, and
whether a part of the pattern follows to which alone they apply. -/
def readFlags (s : List Token) : Except Fault (List Char × List Char × Bool × List Token) := do
  let (on, r) ← match s with
    | .char '-' :: _ => pure ([], s)
    | _ => flagLetters s
  if on.contains 'a' && on.contains 'u' then throw .badFlags
  match r with
  | .char ')' :: r' => return (on, [], false, r')
  | .char ':' :: r' =>
    if on.contains 't' then throw .badFlags
    return (on, [], true, r')
  | .char '-' :: r' =>
    let (off, r'') ← flagLetters r'
    if on.contains 't' || off.any fun c => "aut".toList.contains c || on.contains c then
      throw .badFlags
    match r'' with
    | .char ':' :: r''' => return (on, off, true, r''')
    | _ => throw .badFlags
  | _ => throw .badFlags

/-! ## Alternatives, sequences and groups -/

/-- Whether a blank is passed over where a pattern can be spaced out. -/
def isSpace (c : Char) : Bool := [' ', '\t', '\n', '\r', '\x0b', '\x0c'].contains c

/-- What follows a comment that goes up to the end of its line. -/
def afterComment : List Token → List Token
  | [] => []
  | .loose :: r => .loose :: r
  | t :: r => if t = .char '\n' then r else afterComment r

mutual

/-- Reads alternatives up to a closing parenthesis or the end. -/
def readAlternatives : Nat → Bool → Flags → Reading →
    Except Fault (List Pattern × Flags × Reading)
  | 0, _, _, _ => .error .unexpectedEnd
  | fuel + 1, isFirst, flags, st => do
    let (p, st') ← readSequence fuel isFirst flags st []
    let flags := if isFirst then st'.flags else flags
    match st'.rest with
    | .char '|' :: r =>
      let (ps, _, st'') ← readAlternatives fuel false flags { st' with rest := r }
      return (p :: ps, flags, st'')
    | _ => return ([p], flags, st')

/-- Reads a sequence; the items before are in `items`, last first.  `isFirst` says that
nothing of the whole pattern stands before the sequence. -/
def readSequence : Nat → Bool → Flags → Reading → List Item → Except Fault (Pattern × Reading)
  | 0, _, _, _, _ => .error .unexpectedEnd
  | fuel + 1, isFirst, flags, st, items => do
    let flags := if isFirst then st.flags else flags
    let continueWith (st : Reading) (items : List Item) :=
      readSequence fuel isFirst flags st items
    let repeated (r : List Token) (least : Nat) (most : Option Nat) := do
      let (greed, r') := readGreed r
      continueWith { st with rest := r' } (← repeatLast items least most greed)
    match st.rest with
    | [] => return (sequence items, st)
    | .loose :: _ => throw .badEscape
    | .escape e :: r => do
      let (escaped, r') ← readEscape flags e r
      let next := { st with rest := r' }
      match escaped with
      | .char c => continueWith next (.plain (.char c flags.casing) :: items)
      | .set s => continueWith next (.plain (.set false [s] flags.casing) :: items)
      | .place p => continueWith next (.anchor p :: items)
      | .group n => continueWith next (.plain (← reference flags st n) :: items)
    | .char c :: r =>
      let next := { st with rest := r }
      if c = '|' || c = ')' then return (sequence items, st)
      else if flags.spaced && isSpace c then continueWith next items
      else if flags.spaced && c = '#' then continueWith { st with rest := afterComment r } items
      else match c with
      | '[' =>
        let (negated, body) := match r with
          | .char '^' :: r' => (true, r')
          | _ => (false, r)
        let (parts, r') ← readClass flags (body.length + 1) body []
        continueWith { st with rest := r' }
          (.plain (.set negated parts.eraseDups flags.casing) :: items)
      | '*' => repeated r 0 none
      | '+' => repeated r 1 none
      | '?' => repeated r 0 (some 1)
      | '\x7b' => do
        match ← readBounds r with
        | none => continueWith next (.plain (.char c flags.casing) :: items)
        | some (least, most, r') => repeated r' least most
      | '.' => continueWith next (.plain (.any flags.lineFeeds) :: items)
      | '^' => continueWith next (.anchor (.start flags.everyLine) :: items)
      | '$' => continueWith next (.anchor (.finish flags.everyLine) :: items)
      | '(' =>
        let (item, st') ← readGroup fuel (isFirst && items.isEmpty) flags next
        match item with
        | some p => continueWith st' (.plain p :: items)
        | none => continueWith st' items
      | _ => continueWith next (.plain (.char c flags.casing) :: items)

/-- Reads a group after its opening parenthesis.  Comments and flags for the whole
pattern give no item. -/
def readGroup : Nat → Bool → Flags → Reading → Except Fault (Option Pattern × Reading)
  | 0, _, _, _ => .error .unexpectedEnd
  | fuel + 1, isFirst, flags, st => do
    let body (flags : Flags) (st : Reading) : Except Fault (Pattern × Reading) := do
      let (ps, _, st') ← readAlternatives fuel false flags st
      match st'.rest with
      | .char ')' :: r => return (alternatives flags.casing ps, { st' with rest := r })
      | _ => throw .openGroup
    let capture (name : Option String) (st : Reading) :
        Except Fault (Option Pattern × Reading) := do
      let number := st.count + 1
      let names := match name with
        | some n => (n, number) :: st.names
        | none => st.names
      let (p, st') ← body flags { st with count := number, names := names }
      let (least, most) := p.width
      return (some (.group number p), { st' with closed := ⟨number, least, most⟩ :: st'.closed })
    let before (isNegated : Bool) (st : Reading) : Except Fault (Option Pattern × Reading) := do
      let (p, st') ← body flags { st with behind := some (st.behind.getD st.count) }
      let st' := { st' with behind := st.behind }
      return (some (.behind isNegated p.width.1 p), st')
    match st.rest with
    | .char '?' :: r =>
      match r with
      | .char 'P' :: .char '<' :: r => do
        let (name, r') ← readName '>' r
        if !Text.isName name then throw .badGroupName
        if (st.names.lookup (.ofList name)).isSome then throw .badGroupName
        capture (some (.ofList name)) { st with rest := r' }
      | .char 'P' :: .char '=' :: r => do
        let (name, r') ← readName ')' r
        if !Text.isName name then throw .badGroupName
        match st.names.lookup (.ofList name) with
        | some n => return (some (← reference flags st n), { st with rest := r' })
        | none => throw .unknownGroup
      | .char ':' :: r => do
        let (p, st') ← body flags { st with rest := r }
        return (some p, st')
      | .char '>' :: r => do
        let (p, st') ← body flags { st with rest := r }
        return (some (.atomic p), st')
      | .char '#' :: r =>
        match untilChar ')' r with
        | some (_, r') => return (none, { st with rest := r' })
        | none => throw .openComment
      | .char '=' :: r => do
        let (p, st') ← body flags { st with rest := r }
        return (some (.ahead false p), st')
      | .char '!' :: r => do
        let (p, st') ← body flags { st with rest := r }
        return (some (.ahead true p), st')
      | .char '<' :: .char '=' :: r => before false { st with rest := r }
      | .char '<' :: .char '!' :: r => before true { st with rest := r }
      | .char '(' :: r => do
        let (name, r') ← readName ')' r
        let (n, st) ← askedGroup st name
        checkLookBehind st n
        let (p, st') ← readSequence fuel false flags { st with rest := r' } []
        match st'.rest with
        | .char ')' :: r'' => return (some (.ifGroup n p .empty), { st' with rest := r'' })
        | .char '|' :: r'' =>
          let (q, st'') ← readSequence fuel false flags { st' with rest := r'' } []
          match st''.rest with
          | .char ')' :: r''' => return (some (.ifGroup n p q), { st'' with rest := r''' })
          | .char '|' :: _ => throw .tooManyBranches
          | _ => throw .openGroup
        | _ => throw .openGroup
      | .char c :: _ =>
        if !isFlag c && c ≠ '-' then throw .unknownExtension
        let (on, off, isPart, r') ← readFlags r
        if isPart then
          let (p, st') ← body (flags.inPart on off) { st with rest := r' }
          return (some p, st')
        else if isFirst then
          return (none,
            { st with rest := r', flags := on.foldl (fun f c => f.switch true c) st.flags })
        else throw .lateFlags
      | _ => throw .unexpectedEnd
    | _ => capture none st

end

/-- Reads a pattern. -/
def read (text : String) : Except Fault Pattern := do
  let ts := tokens text.toList
  let (ps, flags, st) ← readAlternatives (4 * ts.length + 4) true {} { rest := ts }
  if st.flags.ascii && st.flags.everyScript then throw .flagsClash
  if !st.rest.isEmpty then throw .unbalanced
  if st.asked.any (st.count < ·) then throw .unknownGroup
  let p := alternatives flags.casing ps
  if !p.looksBack then throw .lookBehindWidth
  if flags.isTemplate && p.repeats then throw .badFlags
  return p

/-- Reads several patterns; the first fault decides. -/
def readAll (texts : List String) : Except Fault (List Pattern) := texts.mapM read

end OpenApiClient.Pattern
