/-
Table headers.

A header names the table that the entries after it stand in, by the names of the tables on
the way to it.  Tables that are missing on the way are made, and a later header may still
declare them; a table that has been declared may not be declared again.  A header in two
pairs of brackets adds a table to a list, and where a list stands on the way, its last table
is meant.
-/

import OpenApiClient.Toml.Entry
import OpenApiClient.Toml.Lines
import OpenApiClient.Value.Kind

set_option autoImplicit false

namespace OpenApiClient.Toml

/-! ## Reading a header -/

/-- The names of a header, given the pieces between its points.  `quoted` is the part of a
quoted name before them. -/
def headerNames : Option (List Char) → List (List Char) → Except Trouble (List String)
  | none, [] => .ok []
  | some quoted, [] => flawed (.openHeaderName (Text.trim quoted))
  | before, p :: ps => do
    let piece := match before with
      | none => Text.trim p
      | some quoted => quoted ++ '.' :: p
    let s := Text.trim piece
    if before.isSome || s.head?.any isQuote then
      if s.head? = s.getLast? && s.length ≠ 1 then
        return .ofList (inner s) :: (← headerNames none ps)
      else headerNames (some piece) ps
    else if isBareName s then return .ofList s :: (← headerNames none ps)
    else flawed (.headerName s)

/-- The names in a header line, and what it declares. -/
def readHeader (line : List Char) : Except Trouble (Header × List String) := do
  if line.length = 1 then flawed .loneBracket
  else
    let isItem := (line.drop 1).head? = some '['
    let close := if isItem then [']', ']'] else [']']
    let body := line.drop close.length
    let pieces := Text.splitWord close body
    let cut := firstOutside close body
    if pieces.length ≤ cut || !(Text.trim (Text.joinWith close (pieces.drop cut))).isEmpty then
      flawed .headerLine
    else
      let names := Text.splitOn '.' (Text.joinWith close (pieces.take cut))
      return (if isItem then .item else .table, ← headerNames none names)

/-! ## Paths -/

/-- A step from a value to one of its parts. -/
inductive Step where
  | member (name : String)
  /-- The last item of a list. -/
  | last
  deriving DecidableEq, Repr

/-- Changes the part of a value that a path leads to. -/
def changeAt {α : Type} (change : Value → Except Trouble (Value × α)) :
    List Step → Value → Except Trouble (Value × α)
  | [], v => change v
  | .member name :: path, .object n ms => do
    let (part, a) ← changeAt change path ((Members.getText? ms name).getD emptyTable)
    return (.object n (Members.insert ms (.text name) part), a)
  | .last :: path, .list items => do
    let (part, a) ← changeAt change path (items.getLastD emptyTable)
    return (.list (items.dropLast ++ [part]), a)
  | _, _ => halted .noTable

/-! ## Going to a table -/

/-- Where a header leads: the value with the tables that it makes, the path to its table,
and the names of tables that have been made on the way and not been declared. -/
structure Place where
  value : Value
  path : List Step
  implied : List String

/-- What a header makes where nothing stands. -/
def Header.fresh (h : Header) (isLast : Bool) : Value :=
  if isLast && h = .item then .list [emptyTable] else emptyTable

/-- A value that is declared by a header, which may not have been declared before; it stands
in `table`. -/
def Header.declare (h : Header) (name : String) (table value : Value) (implied : List String) :
    Except Trouble (Value × List String) :=
  if implied.contains name then
    if h = .item then flawed .impliedArray else .ok (value, implied.erase name)
  else match h, value with
    | .item, .list items => .ok (.list (items ++ [emptyTable]), implied)
    | .item, _ => halted .noList
    | .table, _ =>
      if table.isWritable then flawed (.secondHeader name table) else halted .unwritable

/-- The last item of what should be a list. -/
def lastItem (v : Value) : Except Trouble Value :=
  match v with
  | .list items => (items.getLast?.map .ok).getD (halted .pastEnd)
  | .scalar (.text "") => halted .pastEnd
  | _ => halted .noTable

/-- Moves into the last table of a list, for a header that may lead through lists. -/
def Header.enter (h : Header) (v : Value) (go : Value → Except Trouble Place) :
    Except Trouble Place := do
  match h, v with
  | .table, _ => go v
  | .item, .object _ _ => go v
  | .item, _ => do
    let place ← go (← lastItem v)
    match v with
    | .list items =>
      return ⟨.list (items.dropLast ++ [place.value]), .last :: place.path, place.implied⟩
    | _ => halted .noTable

/-- Goes to the table that names lead to, and makes it. -/
def Header.goTo (h : Header) : List String → List String → Value → Except Trouble Place
  | [], implied, v => .ok ⟨v, [], implied⟩
  | name :: names, implied, v => do
    if name = "" then flawed .emptyHeaderName
    else
      let isLast := names.isEmpty
      match v with
      | .object n ms =>
        let (value, implied) ← match Members.getText? ms name with
          | some value => if isLast then h.declare name v value implied else .ok (value, implied)
          | none => .ok (h.fresh isLast, if isLast then implied else implied ++ [name])
        let place ← h.enter value (h.goTo names implied)
        return ⟨.object n (Members.insert ms (.text name) place.value),
          .member name :: place.path, place.implied⟩
      | _ =>
        match ← lastItem v, v with
        | .object n ms, .list items =>
          let place ← h.enter ((Members.getText? ms name).getD (h.fresh isLast))
            (h.goTo names implied)
          let table := Value.object n (Members.insert ms (.text name) place.value)
          return ⟨.list (items.dropLast ++ [table]), .last :: .member name :: place.path,
            place.implied⟩
        | _, _ => halted .noTable

end OpenApiClient.Toml
