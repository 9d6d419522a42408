/-
Reading TOML text.

The text is brought to one entry per line first.  Then its lines are read one after the
other: headers move to another table, entries are added to the table that the last header
named, and the lines of a long string are collected until its closing quotes.  A line that is
none of these is skipped.
-/

import OpenApiClient.Toml.Header

set_option autoImplicit false

namespace OpenApiClient.Toml

/-- What has been read. -/
structure State where
  root : Value
  /-- The way to the table that entries are added to. -/
  path : List Step
  implied : List String
  entry : Option OpenEntry

/-- Reads a value from its whole text. -/
def readWhole : ValueReader := readValue maxDepth

/-- Whether a line has the closing quotes of a string over several lines, or the closing
bracket of a list that ends in one. -/
def closes (body line : List Char) : Except Trouble Bool :=
  match body.head?, line.reverse with
  | some '[', [] => halted .pastEnd
  | some '[', c :: _ => .ok (c = ']')
  | some a, x :: y :: z :: _ => .ok (x = a && y = a && z = a)
  | _, _ => .ok false

namespace State

/-- Changes the table that entries are added to. -/
def change (s : State) (f : Value → Except Trouble (Value × Option OpenEntry)) :
    Except Trouble State := do
  let (root, entry) ← changeAt f s.path s.root
  return { s with root := root, entry := entry }

/-- One more line of a string over several lines. -/
def continueEntry (s : State) (e : OpenEntry) (line : List Char) : Except Trouble State := do
  let body := e.body ++ line
  if ← closes body line then
    let v ← readWhole body true
    s.change fun table =>
      match table with
      | .object n ms => .ok (.object n (Members.insert ms (.text e.key) v), none)
      | _ => halted .noTable
  else return { s with entry := some (.endLine e.key body) }

/-- A line that begins something. -/
def readLine (s : State) (line : List Char) : Except Trouble State := do
  match line with
  | '[' :: _ =>
    let (header, names) ← readHeader line
    let place ← header.goTo names s.implied s.root
    return { s with root := place.value, path := place.path, implied := place.implied }
  | '\x7b' :: _ =>
    if line.getLast? ≠ some '\x7d' then flawed .brokenInlineTable
    else s.change fun table => do return (← readInline readWhole line table, none)
  | _ => if line.contains '=' then s.change (readEntry readWhole line) else return s

/-- One line, whatever it is. -/
def step (s : State) (line : List Char) : Except Trouble State :=
  match s.entry with
  | none =>
    let line := Text.trim line
    if line.isEmpty then .ok s else s.readLine line
  | some e =>
    let line := if e.isJoined || !e.body.contains '\n' then Text.trim line else line
    if line.isEmpty && e.isJoined then .ok s else s.continueEntry e line

/-- All lines; the first one starts at a position. -/
def readLines : Nat → List (List Char) → State → Except Fault State
  | _, [], s => .ok s
  | position, line :: lines, s => do
    let s ← (s.step line).mapError (·.at position)
    readLines (position + line.length + 1) lines s

end State

/-- The table that a text stands for. -/
def read (text : List Char) : Except Fault Members := do
  let lines := Text.splitOn '\n' (← joinLines text)
  let s ← State.readLines 0 lines ⟨emptyTable, [], [], none⟩
  return s.root.members?.getD []

end OpenApiClient.Toml
