/-
Writing TOML text.

A table is written as the lines of its plain entries, followed by the tables inside of it,
level by level, each below its header.  Absent values are left out.  A list that holds a
table is written as a list of tables, so all of its items have to be tables.

Strings are written like the literals that messages show, between double quotes.  A literal
may hold the escape of a character by two hexadecimal digits, which TOML does not have.
`joint` decides what becomes of it.
-/

import OpenApiClient.Text.Split
import OpenApiClient.Toml.Pieces
import OpenApiClient.Value.Depth
import OpenApiClient.Value.Key
import OpenApiClient.Value.Kind

set_option autoImplicit false

namespace OpenApiClient.Toml

/-! ## Strings -/

/-- A text with two backslashes in a row made one, from left to right. -/
def halveBackslashes : List Char → List Char
  | '\\' :: '\\' :: r => '\\' :: halveBackslashes r
  | c :: r => c :: halveBackslashes r
  | [] => []

/-- What joins two parts of a literal, in place of a backslash and an `x`.  The backslashes
at the end of the left part decide, of which its first character is not counted. -/
def joint (left : List Char) : List Char :=
  if (left.getLast? == some '\\') == endsInEscape (left.drop 1) then ['x'] else ['u', '0', '0']

/-- A part of a literal and the next one. -/
def joinTwo (left right : List Char) : Except Halt (List Char) :=
  match halveBackslashes left with
  | [] => .error .pastEnd
  | left => .ok (left ++ joint left ++ right)

/-- Joins the parts of a literal.  An empty first part is dropped. -/
def joinParts : List Char → List (List Char) → Except Halt (List Char)
  | left, [] => .ok left
  | [], [_] => .error .pastEnd
  | [], p :: q :: r => do joinParts (← joinTwo p q) r
  | left, p :: r => do joinParts (← joinTwo left p) r

/-- A literal as a string of a text. -/
def writeLiteral (literal : String) : Except Halt String := do
  let s := literal.toList
  let body :=
    if s.head? = some '\'' then
      (Text.joinWith ['\''] (Text.splitWord ['\\', '\''] (inner s))).flatMap fun c =>
        if c = '"' then ['\\', '"'] else [c]
    else if s.head? = some '"' then inner s
    else s
  match Text.splitWord ['\\', 'x'] body with
  | [] => return "\"\""
  | p :: r => return .ofList ('"' :: (← joinParts p r) ++ ['"'])

/-- A key.  One that is not made of plain characters is written as a string. -/
def writeKey (key : String) : Except Halt String :=
  let s := key.toList
  if isBareName s || (s.getLast? = some '\n' && isBareName s.dropLast) then .ok key
  else writeLiteral (Text.quoted key)

/-! ## Values in a line -/

/-- A floating-point number; an exponent has no zero before its digits. -/
def writeFloat (x : Float) : String :=
  let s := (Number.display x).toList
  let s := Text.joinWith ['e', '+'] (Text.splitWord ['e', '+', '0'] s)
  .ofList (Text.joinWith ['e', '-'] (Text.splitWord ['e', '-', '0'] s))

/-- A day and a time.  Universal time is marked by a letter. -/
def writeMoment (m : Moment) : String :=
  let s := m.displayWith "T"
  .ofList (Text.joinWith ['Z'] (Text.splitWord "+00:00".toList s.toList))

/-- Items between brackets, with a comma after each. -/
def bracketed (items : List String) : String :=
  "[" ++ String.join (items.map fun s => " " ++ s ++ ",") ++ "]"

/-- A value without parts. -/
def writeScalar (s : Scalar) : Except Halt String :=
  if !s.isWritable then .error .unwritable
  else match s with
  | .bool b => .ok (if b then "true" else "false")
  | .int n => .ok (toString n)
  | .float x => .ok (writeFloat x)
  | .date d => .ok d.display
  | .moment m => .ok (writeMoment m)
  | .time t => .ok t.display
  | .bytes data => .ok (bracketed (data.map fun b => toString b.toNat))
  | s => writeLiteral s.literal

mutual

/-- A value in a line.  Of a table, only the keys are written. -/
def writeValue : Value → Except Halt String
  | .scalar s => writeScalar s
  | .list items => do return bracketed (← writeValues items)
  | .object _ ms => do return bracketed (← ms.mapM fun m => writeScalar m.1)
  | .set ms => do return bracketed (← ms.mapM writeScalar)
  | .pair k v => do return bracketed [← writeValue k, ← writeValue v]
  | .again _ => .ok "[]"

/-- Several values, each in a line. -/
def writeValues : List Value → Except Halt (List String)
  | [] => .ok []
  | v :: vs => do return (← writeValue v) :: (← writeValues vs)

end

/-! ## Tables -/

/-- Tables inside of a table, by the names in their headers. -/
abbrev Sections := List (String × Value)

/-- The text of a table and the tables inside of it. -/
structure Written where
  lines : String := ""
  /-- The lists of tables, which come after the lines. -/
  lists : String := ""
  sections : Sections := []

/-- The whole text of a table. -/
def Written.text (w : Written) : String := w.lines ++ w.lists

/-- A name below another one. -/
def under (above name : String) : String := if above = "" then name else above ++ "." ++ name

/-- How a table is written whose header has the given name. -/
abbrev TableWriter := String → Value → Except Halt Written

/-- Writes tables inside of an item of a list, each with its header, level by level.  Those
without text of their own have no header. -/
def writeLevels (write : TableWriter) (above : String) : Nat → Sections → Except Halt String
  | _, [] => .ok ""
  | 0, _ :: _ => .error .tooDeep
  | fuel + 1, sections => do
    let written ← sections.mapM fun (name, table) => do
      return (name, ← write (under above name) table)
    let texts := written.map fun (name, w) =>
      if w.text = "" then "" else "[" ++ under above name ++ "]\n" ++ w.text
    let inside := written.flatMap fun (name, w) => w.sections.map fun (n, t) => (under name n, t)
    return String.join texts ++ (← writeLevels write above fuel inside)

/-- Writes an item of a list of tables. -/
def writeItem (write : TableWriter) (fuel : Nat) (name : String) (item : Value) :
    Except Halt String := do
  let w ← write name item
  let inside ← writeLevels write name fuel w.sections
  let header := "[[" ++ name ++ "]]\n"
  if w.text.startsWith "[" then return header ++ "\n" ++ w.text ++ inside
  else return header ++ w.text ++ "\n" ++ inside

/-- Writes an entry of a table after others. -/
def writeEntry (write : TableWriter) (fuel : Nat) (above : String) (w : Written)
    (entry : Scalar × Value) : Except Halt Written := do
  let key ← writeKey entry.1.display
  match entry.2 with
  | .object n ms => return { w with sections := w.sections ++ [(key, .object n ms)] }
  | .list items =>
    if items.any Value.isObject then
      let texts ← items.mapM (writeItem write fuel (under above key))
      return { w with lists := w.lists ++ String.join texts }
    else return { w with lines := w.lines ++ key ++ " = " ++ (← writeValue (.list items)) ++ "\n" }
  | v =>
    if v.isNull then return w
    else return { w with lines := w.lines ++ key ++ " = " ++ (← writeValue v) ++ "\n" }

/-- The first of the parts of a value that is no table, if it is made of parts. -/
def firstPart : Value → Option Value
  | .scalar (.text s) => s.toList.head?.map fun c => .text c.toString
  | .list items => items.head?
  | _ => none

/-- Writes a table.  What has no parts stands for an empty table, and other values cannot
stand for a table; of these, the first part is taken for a key before that is noticed. -/
def writeTable : Nat → TableWriter
  | 0, _, _ => .error .tooDeep
  | fuel + 1, above, v =>
    match v with
    | .object _ ms => ms.foldlM (writeEntry (writeTable fuel) fuel above) {}
    | .list [] | .scalar (.text "") => .ok {}
    | v => do
      if let some part := firstPart v then discard (writeKey part.display)
      throw .noTable

/-! ## The whole text -/

/-- Writes a table inside of the outermost one after the text so far, with a header if it has
text of its own or nothing inside. -/
def writeSection (text : String) (name : String) (w : Written) : String :=
  if w.text = "" && !w.sections.isEmpty then text
  else text ++ (if text = "" || text.endsWith "\n\n" then "" else "\n") ++ "[" ++ name ++ "]\n"
    ++ w.text

/-- Writes tables inside of the outermost one, level by level. -/
def writeSections (write : TableWriter) : Nat → String → Sections → Except Halt String
  | _, text, [] => .ok text
  | 0, _, _ :: _ => .error .tooDeep
  | fuel + 1, text, sections => do
    let written ← sections.mapM fun (name, table) => do return (name, ← write name table)
    let inside := written.flatMap fun (name, w) => w.sections.map fun (n, t) => (under name n, t)
    writeSections write fuel (written.foldl (fun text (name, w) => writeSection text name w) text)
      inside

/-- The text of a table. -/
def write (ms : Members) : Except Halt String := do
  let fuel := Value.depthOfMembers ms + 2
  let w ← writeTable fuel "" (.object 0 ms)
  writeSections (writeTable fuel) fuel w.text w.sections

end OpenApiClient.Toml
