/-
Nodes from tokens.

The grammar is that of the tokens, so it knows nothing of columns: a node is an alias, or
an anchor and a tag in either order and then a scalar, a collection, or nothing at all,
which is the absent value.  Block collections hold nodes of both styles, flow collections
only nodes of their own.  An anchor names the node from its beginning on, also inside it.

Every function here reads at least one token before it calls itself again, or calls one
that does, so the number of tokens bounds the depth of the calls.
-/

import OpenApiClient.Yaml.Node
import OpenApiClient.Yaml.Token

set_option autoImplicit false

namespace OpenApiClient.Yaml

/-! ## What is known while nodes are read -/

/-- What an anchor names. -/
inductive Anchored where
  /-- A collection that is still being read. -/
  | unfinished (number : Nat) (mark : Mark) (isList : Bool)
  | finished (node : Node)
  deriving Repr

/-- The place where the node of an anchor begins. -/
def Anchored.mark : Anchored → Mark
  | .unfinished _ m _ => m
  | .finished n => n.mark

/-- The tokens that are left, the number of the next collection, the anchors so far, and
what the handles of tags stand for. -/
structure Composer where
  tokens : List Token
  next : Nat := 0
  anchors : List (String × Anchored) := []
  handles : List (String × String) := []

/-- A step of reading nodes. -/
abbrev Compose := StateT Composer (Except Fault)

/-- The next token.  A list of tokens has an end of the stream or a fault at its end. -/
def peek : Compose Token := do
  match (← get).tokens with
  | ⟨.broken f, _, _⟩ :: _ => throw f
  | t :: _ => return t
  | [] => return .here .streamEnd .start

/-- Moves over the next token. -/
def take : Compose Token := do
  let t ← peek
  modify fun s => { s with tokens := s.tokens.drop 1 }
  return t

/-- Whether the next token is one of the given ones, none of which carries anything. -/
def nextIn (ls : List Lexeme) : Compose Bool := do return ls.contains (← peek).lexeme

/-- The absent value where nothing is written. -/
def emptyNode (m : Mark) : Node := .scalar m .null ""

/-! ## Properties of nodes -/

/-- The anchor of a node, the name of its tag, and where the first of both begins. -/
structure Properties where
  anchor : Option String := none
  tag : Option String := none
  start : Option Mark := none

/-- The name of a tag; its handle has to be known. -/
def tagName (start : Mark) (t : Token) (handle : Option String) (rest : String) :
    Compose String := do
  match handle with
  | none => return rest
  | some h =>
    match (← get).handles.lookup h with
    | some stem => return stem ++ rest
    | none => failDuring .node start (.unknownHandle h) t.start

/-- Reads an anchor, if it is next. -/
def anchorProperty : Compose (Option (String × Mark)) := do
  let t ← peek
  match t.lexeme with
  | .anchor name => let _ ← take; return some (name, t.start)
  | _ => return none

/-- Reads a tag, if it is next, without asking what its handle stands for. -/
def tagProperty : Compose (Option (Token × Option String × String)) := do
  let t ← peek
  match t.lexeme with
  | .tag handle rest => let _ ← take; return some (t, handle, rest)
  | _ => return none

/-- Reads the properties of a node. -/
def properties : Compose Properties := do
  let before ← anchorProperty
  let tag ← tagProperty
  let anchor ← if before.isNone && tag.isSome then anchorProperty else pure before
  let start := (before.map (·.2)).orElse fun _ => tag.map (·.1.start)
  let name ← match tag with
    | some (t, handle, rest) => some <$> tagName (start.getD t.start) t handle rest
    | none => pure none
  return ⟨anchor.map (·.1), name, start⟩

/-- The tag of a collection. -/
def Properties.tagOr (p : Properties) (default : Tag) : Tag :=
  match p.tag with
  | none => default
  | some "!" => default
  | some name => .ofName name

/-- The tag of a scalar; without one, or with the tag that says nothing, a plain scalar gets
it by its spelling. -/
def Properties.scalarTag (p : Properties) (text : String) (isPlain : Bool) : Tag :=
  match p.tag with
  | none => if isPlain then .ofPlain text else .text
  | some "!" => .ofPlain text
  | some name => .ofName name

/-- Checks that the anchor of a node that begins at `m` is new. -/
def checkAnchor (p : Properties) (m : Mark) : Compose Unit := do
  match p.anchor with
  | none => return
  | some name =>
    match (← get).anchors.lookup name with
    | some a => failDuring (.firstAnchor name) a.mark .secondAnchor m
    | none => return

/-- Lets the anchor of a node name something. -/
def setAnchor (p : Properties) (a : Anchored) : Compose Unit :=
  match p.anchor with
  | none => return
  | some name => modify fun s => { s with anchors := (name, a) :: s.anchors }

/-- Begins a collection: its anchor is new, and it gets a number. -/
def beginCollection (p : Properties) (m : Mark) (isList : Bool) : Compose Nat := do
  checkAnchor p m
  let number := (← get).next
  modify fun s => { s with next := number + 1 }
  setAnchor p (.unfinished number m isList)
  return number

/-- Ends a node. -/
def finishNode (p : Properties) (n : Node) : Compose Node := do
  setAnchor p (.finished n)
  return n

/-- The node that an alias stands for. -/
def aliasNode (name : String) (m : Mark) : Compose Node := do
  match (← get).anchors.lookup name with
  | some (.finished n) => return n
  | some (.unfinished number start isList) => return .again number start isList
  | none => failAt (.unknownAlias name) m

/-! ## The grammar -/

/-- What ends the key or the value of a block mapping that is not written. -/
def blockPairEnds : List Lexeme := [.key, .value, .blockEnd]

mutual

/-- Reads a node; `isBlock` says whether block collections may begin here, and `compact`
whether a sequence may begin at the column of the mapping around it. -/
def node (isBlock compact : Bool) : Nat → Compose Node
  | 0 => do failAt .endOfText (← peek).start
  | fuel + 1 => do
    let t ← peek
    if let .alias name := t.lexeme then
      let _ ← take
      return ← aliasNode name t.start
    let p ← properties
    let t ← peek
    let start := p.start.getD t.start
    match t.lexeme, isBlock, compact with
    | .blockEntry, _, true =>
      let number ← beginCollection p start true
      finishNode p (.sequence number start (p.tagOr .list) (← compactItems fuel []))
    | .scalar text isPlain, _, _ =>
      let _ ← take
      checkAnchor p start
      finishNode p (.scalar start (p.scalarTag text isPlain) text)
    | .flowSequenceStart, _, _ =>
      let number ← beginCollection p start true
      let _ ← take
      finishNode p (.sequence number start (p.tagOr .list) (← flowItems t.start true fuel []))
    | .flowMappingStart, _, _ =>
      let number ← beginCollection p start false
      let _ ← take
      finishNode p (.mapping number start (p.tagOr .map) (← flowPairs t.start true fuel []))
    | .blockSequenceStart, true, _ =>
      let number ← beginCollection p start true
      let _ ← take
      finishNode p (.sequence number start (p.tagOr .list) (← blockItems t.start fuel []))
    | .blockMappingStart, true, _ =>
      let number ← beginCollection p start false
      let _ ← take
      finishNode p (.mapping number start (p.tagOr .map) (← blockPairs t.start fuel []))
    | l, _, _ =>
      if p.start.isNone then
        failDuring (if isBlock then .blockNode else .flowNode) start
          (.expectedToken "the node content" l.kind) t.start
      else
        checkAnchor p start
        finishNode p (.scalar start (p.scalarTag "" true) "")

/-- Reads the entries of a block sequence; those before are in `acc`, last first. -/
def blockItems (start : Mark) : Nat → List Node → Compose (List Node)
  | 0, _ => do failAt .endOfText (← peek).start
  | fuel + 1, acc => do
    let t ← take
    match t.lexeme with
    | .blockEntry =>
      if ← nextIn [.blockEntry, .blockEnd] then blockItems start fuel (emptyNode t.stop :: acc)
      else blockItems start fuel ((← node true false fuel) :: acc)
    | .blockEnd => return acc.reverse
    | l => failDuring .blockSequence start (.expectedToken "<block end>" l.kind) t.start

/-- Reads the entries of a sequence that stands at the column of the mapping around it. -/
def compactItems : Nat → List Node → Compose (List Node)
  | 0, _ => do failAt .endOfText (← peek).start
  | fuel + 1, acc => do
    let t ← peek
    match t.lexeme with
    | .blockEntry =>
      let _ ← take
      if ← nextIn (.blockEntry :: blockPairEnds) then compactItems fuel (emptyNode t.stop :: acc)
      else compactItems fuel ((← node true false fuel) :: acc)
    | _ => return acc.reverse

/-- Reads the pairs of a block mapping. -/
def blockPairs (start : Mark) : Nat → List (Node × Node) → Compose (List (Node × Node))
  | 0, _ => do failAt .endOfText (← peek).start
  | fuel + 1, acc => do
    let t ← take
    match t.lexeme with
    | .key =>
      let key ← if ← nextIn blockPairEnds then pure (emptyNode t.stop) else node true true fuel
      let v ← peek
      let value ← if v.lexeme = .value then do
          let _ ← take
          if ← nextIn blockPairEnds then pure (emptyNode v.stop) else node true true fuel
        else pure (emptyNode v.start)
      blockPairs start fuel ((key, value) :: acc)
    | .blockEnd => return acc.reverse
    | l => failDuring .blockMapping start (.expectedToken "<block end>" l.kind) t.start

/-- Reads the value after a key inside brackets, unless one of `ends` comes at once. -/
def flowValue (ends : List Lexeme) : Nat → Compose Node
  | 0 => do failAt .endOfText (← peek).start
  | fuel + 1 => do
    let v ← peek
    if v.lexeme = .value then
      let _ ← take
      if ← nextIn ends then return emptyNode v.stop else node false false fuel
    else return emptyNode v.start

/-- Reads the entries of a flow sequence.  An entry can be a single pair. -/
def flowItems (start : Mark) (isFirst : Bool) : Nat → List Node → Compose (List Node)
  | 0, _ => do failAt .endOfText (← peek).start
  | fuel + 1, acc => do
    if ← nextIn [.flowSequenceEnd] then
      let _ ← take
      return acc.reverse
    if !isFirst then
      let t ← take
      if t.lexeme ≠ .flowEntry then
        failDuring .flowSequence start (.expectedNext "',' or ']'" t.lexeme.kind) t.start
    let t ← peek
    match t.lexeme with
    | .flowSequenceEnd =>
      let _ ← take
      return acc.reverse
    | .key =>
      let number ← beginCollection {} t.start false
      let _ ← take
      let ends : List Lexeme := [.flowEntry, .flowSequenceEnd]
      let key ← if ← nextIn (.value :: ends) then pure (emptyNode t.stop)
        else node false false fuel
      let value ← flowValue ends fuel
      flowItems start false fuel (.mapping number t.start .map [(key, value)] :: acc)
    | _ => flowItems start false fuel ((← node false false fuel) :: acc)

/-- Reads the pairs of a flow mapping.  A pair can lack its value. -/
def flowPairs (start : Mark) (isFirst : Bool) : Nat → List (Node × Node) →
    Compose (List (Node × Node))
  | 0, _ => do failAt .endOfText (← peek).start
  | fuel + 1, acc => do
    if ← nextIn [.flowMappingEnd] then
      let _ ← take
      return acc.reverse
    if !isFirst then
      let t ← take
      if t.lexeme ≠ .flowEntry then
        failDuring .flowMapping start (.expectedNext "',' or '\x7d'" t.lexeme.kind) t.start
    let t ← peek
    match t.lexeme with
    | .flowMappingEnd =>
      let _ ← take
      return acc.reverse
    | .key =>
      let _ ← take
      let ends : List Lexeme := [.flowEntry, .flowMappingEnd]
      let key ← if ← nextIn (.value :: ends) then pure (emptyNode t.stop)
        else node false false fuel
      let value ← flowValue ends fuel
      flowPairs start false fuel ((key, value) :: acc)
    | _ =>
      let key ← node false false fuel
      let t ← peek
      flowPairs start false fuel ((key, emptyNode t.start) :: acc)

end

/-! ## Documents -/

/-- What the handles of tags stand for if no directive says otherwise. -/
def commonHandles : List (String × String) := [("!", "!"), ("!!", tagStem)]

/-- Reads directives; says whether a version was among those before. -/
def directives (hasVersion : Bool) : Nat → Compose Unit
  | 0 => return
  | fuel + 1 => do
    let t ← peek
    match t.lexeme with
    | .directive (.version major) =>
      let _ ← take
      if hasVersion then failAt .secondVersion t.start
      else if major ≠ 1 then failAt .otherVersion t.start
      else directives true fuel
    | .directive (.tagHandle handle stem) =>
      let _ ← take
      if ((← get).handles.lookup handle).isSome then failAt (.secondHandle handle) t.start
      else
        modify fun s => { s with handles := (handle, stem) :: s.handles }
        directives hasVersion fuel
    | .directive .other =>
      let _ ← take
      directives hasVersion fuel
    | _ => return

/-- Moves over the marks of the end of a document. -/
def documentEnds : Nat → Compose Unit
  | 0 => return
  | fuel + 1 => do
    if ← nextIn [.documentEnd] then
      let _ ← take
      documentEnds fuel
    else return

/-- Reads the directives of a document and the mark of its start. -/
def documentStart (fuel : Nat) : Compose Unit := do
  modify fun s => { s with handles := [] }
  directives false fuel
  modify fun s => { s with handles := s.handles ++ commonHandles }
  let t ← take
  if t.lexeme ≠ .documentStart then
    failAt (.expectedToken "'<document start>'" t.lexeme.kind) t.start

/-- Whether a document begins with a directive or a mark, or there is none. -/
def isExplicit (l : Lexeme) : Bool :=
  match l with
  | .directive _ => true
  | .documentStart => true
  | .streamEnd => true
  | _ => false

/-- Reads the node of a document after the mark of its start. -/
def documentContent (fuel : Nat) : Compose Node := do
  let t ← peek
  if isExplicit t.lexeme || t.lexeme = .documentEnd then return emptyNode t.start
  else node true false fuel

/-- Checks that no other document follows one that begins at `m`. -/
def noMoreDocuments (fuel : Nat) (m : Mark) : Compose Unit := do
  documentEnds fuel
  let t ← peek
  if t.lexeme ≠ .streamEnd then
    documentStart fuel
    failDuring .document m .secondDocument t.start

/-- Reads the node of a stream of at most one document. -/
def singleDocument (fuel : Nat) : Compose (Option Node) := do
  let _ ← take
  let t ← peek
  if t.lexeme = .streamEnd then return none
  let n ← if isExplicit t.lexeme then do
      documentStart fuel
      documentContent fuel
    else do
      modify fun s => { s with handles := commonHandles }
      node true false fuel
  noMoreDocuments fuel n.mark
  return some n

/-- The node that tokens stand for, if they are those of a document. -/
def Node.ofTokens? (tokens : List Token) : Except Fault (Option Node) :=
  ((singleDocument (3 * tokens.length + 10)).run { tokens := tokens }).map (·.1)

end OpenApiClient.Yaml
