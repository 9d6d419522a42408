/-
Files and directories.

All files that the program can see stand below the directory that it works in.  A path is
gone through name by name, and every place on the way has to be a directory; only the last
one may be missing, so that it can be made.  A path that leaves the directory leads to a
place about which nothing is known: directories are there, files are not.  The one file
outside that every system has is the null device, which is empty and stays empty.

The operations are those of an operating system, with its faults.  An operation that fails
gives no tree back, so it changes nothing.
-/

import OpenApiClient.Text.Encodable
import OpenApiClient.Text.Split

set_option autoImplicit false

namespace OpenApiClient.Source

/-! ## Faults -/

/-- Why the operating system refuses an operation. -/
inductive Refusal where
  | notFound
  | exists_
  | notDirectory
  | isDirectory
  | longName
  deriving DecidableEq, Repr

/-- The number of a refusal. -/
def Refusal.number : Refusal → Nat
  | .notFound => 2
  | .exists_ => 17
  | .notDirectory => 20
  | .isDirectory => 21
  | .longName => 36

/-- What a refusal says. -/
def Refusal.text : Refusal → String
  | .notFound => "No such file or directory"
  | .exists_ => "File exists"
  | .notDirectory => "Not a directory"
  | .isDirectory => "Is a directory"
  | .longName => "File name too long"

/-- Why an operation on a path fails. -/
inductive FileFault where
  | refused (why : Refusal) (path : String)
  /-- The path holds a null character, which ends every path. -/
  | nullCharacter
  /-- What is to be written has no form in bytes. -/
  | unwritable (fault : Text.EncodeFault)
  deriving DecidableEq, Repr

/-- What a fault says. -/
def FileFault.message : FileFault → String
  | .refused why path => s!"[Errno {why.number}] {why.text}: {Text.quoted path}"
  | .nullCharacter => "embedded null byte"
  | .unwritable f => f.message

/-! ## The tree -/

/-- What stands at a place. -/
inductive Entry where
  | file (content : List UInt8)
  | directory
  deriving DecidableEq, Repr

/-- The entries below the working directory, by their names from there. -/
abbrev Files := List (List String × Entry)

/-- A place: below the working directory, or elsewhere. -/
inductive Place where
  | inside (names : List String)
  | elsewhere
  /-- The directory above all others. -/
  | root
  /-- The directory of the devices. -/
  | devices
  | nullDevice
  deriving DecidableEq, Repr

/-- What stands at a place. -/
def Files.at? (files : Files) : Place → Option Entry
  | .inside [] => some .directory
  | .inside names => files.lookup names
  | .elsewhere | .root | .devices => some .directory
  | .nullDevice => some (.file [])

/-- Puts an entry at a place. -/
def Files.put (files : Files) (names : List String) (e : Entry) : Files :=
  if (files.lookup names).isSome then
    files.map fun f => if f.1 = names then (names, e) else f
  else files ++ [(names, e)]

/-! ## Paths -/

/-- The longest name of a file, in bytes. -/
def maxNameSize : Nat := 255

/-- Checks that there is a directory at a place. -/
def Files.needDirectory (files : Files) (p : Place) : Except Refusal Unit :=
  match files.at? p with
  | some .directory => .ok ()
  | some (.file _) => .error .notDirectory
  | none => .error .notFound

/-- The place above a place. -/
def Place.parent : Place → Place
  | .inside [] => .elsewhere
  | .inside names => .inside names.dropLast
  | .elsewhere => .elsewhere
  | .root | .devices => .root
  | .nullDevice => .devices

/-- The place with a name at a place, if anything can be there. -/
def Place.child? (p : Place) (name : String) : Option Place :=
  match p with
  | .inside names => some (.inside (names ++ [name]))
  | .root => if name = "dev" then some .devices else none
  | .devices => if name = "null" then some .nullDevice else none
  | .elsewhere | .nullDevice => none

/-- Goes from a place along some names.  Outside of the working directory hardly any name is
known. -/
def Files.walk (files : Files) (p : Place) : List String → Except Refusal (Option Place)
  | [] => .ok (some p)
  | name :: rest => do
    files.needDirectory p
    if name = "" ∨ name = "." then files.walk p rest
    else if maxNameSize < name.utf8ByteSize then throw .longName
    else if name = ".." then files.walk p.parent rest
    else match p.child? name with
      | some q => files.walk q rest
      | none => if rest.all (· = "") then return none else throw .notFound

/-- The names in a path. -/
def pathNames (path : String) : List String :=
  (Text.splitOn '/' path.toList).map .ofList

/-- The place of a path; none, if nothing can be there. -/
def Files.place (files : Files) (path : String) : Except FileFault (Option Place) :=
  if path.toList.contains '\x00' then .error .nullCharacter
  else if path = "" then .error (.refused .notFound path)
  else
    let start := if path.startsWith "/" then Place.root else .inside []
    (files.walk start (pathNames path)).mapError fun why => .refused why path

/-- What a path leads to, if to anything. -/
def Files.find? (files : Files) (path : String) : Option Entry :=
  match files.place path with
  | .ok (some p) => files.at? p
  | _ => none

/-- Whether a path leads to something. -/
def Files.has (files : Files) (path : String) : Bool := (files.find? path).isSome

/-- Whether a path leads to a directory. -/
def Files.hasDirectory (files : Files) (path : String) : Bool :=
  files.find? path = some .directory

/-! ## Reading and writing -/

/-- What stands at a path. -/
def Files.entry (files : Files) (path : String) : Except FileFault Entry := do
  match (← files.place path).bind files.at? with
  | some e => return e
  | none => throw (.refused .notFound path)

/-- The content of a file. -/
def Files.read (files : Files) (path : String) : Except FileFault (List UInt8) := do
  match ← files.entry path with
  | .file content => return content
  | .directory => throw (.refused .isDirectory path)

/-- A path without the slashes at its end. -/
def withoutEndSlashes (path : String) : String :=
  .ofList (path.toList.reverse.dropWhile (· = '/')).reverse

/-- Writes a file, which is made if it is not there. -/
def Files.write (files : Files) (path : String) (content : List UInt8) :
    Except FileFault Files := do
  let body := withoutEndSlashes path
  let isSlashed := body ≠ path ∧ body ≠ ""
  let refused (why : Refusal) : Except FileFault Files := .error (.refused why path)
  match (if isSlashed then files.place body else files.place path) with
  | .error (.refused why _) => refused why
  | .error f => throw f
  | .ok none => if isSlashed then refused .isDirectory else refused .notFound
  | .ok (some p) =>
    if isSlashed then refused .isDirectory
    else match files.at? p, p with
      | some .directory, _ => refused .isDirectory
      | _, .inside names => return files.put names (.file content)
      | _, .nullDevice => return files
      | _, _ => refused .notFound

/-- Writes a text to a file, and gives back the files after that.  The file is made before
the text is turned into bytes, so that one without a form in bytes leaves an empty file
behind. -/
def Files.writeText (files : Files) (path text : String) : Except FileFault Unit × Files :=
  match files.write path [] with
  | .error f => (.error f, files)
  | .ok opened =>
    match Text.encodeFault? .utf8 text.toList with
    | some f => (.error (.unwritable f), opened)
    | none =>
      match opened.write path text.toUTF8.toList with
      | .error f => (.error f, opened)
      | .ok written => (.ok (), written)

/-! ## Directories -/

/-- A path cut before its last name: what stands before, without the slashes between, and
the last name. -/
def splitPath (path : String) : String × String :=
  let tail := (path.toList.reverse.takeWhile (· ≠ '/')).reverse
  let head := path.toList.take (path.length - tail.length)
  let head := if head.all (· = '/') then head else (withoutEndSlashes (.ofList head)).toList
  (.ofList head, .ofList tail)

/-- The directory of a path. -/
def parentPath (path : String) : String := (splitPath path).1

/-- Makes one directory. -/
def Files.makeDirectory (files : Files) (path : String) : Except FileFault Files := do
  let refused (why : Refusal) : Except FileFault Files := .error (.refused why path)
  let body := if path.toList.all (· = '/') then path else withoutEndSlashes path
  match files.place body with
  | .error (.refused why _) => refused why
  | .error f => throw f
  | .ok none => refused .notFound
  | .ok (some p) =>
    match files.at? p, p with
    | some _, _ => refused .exists_
    | none, .inside names => return files.put names .directory
    | none, _ => refused .notFound

/-- Makes a directory unless it is there. -/
def Files.ensureDirectory (files : Files) (path : String) : Except FileFault Files :=
  match files.makeDirectory path with
  | .ok files => .ok files
  | .error f => if files.hasDirectory path then .ok files else .error f

/-- A path cut before its last name, where slashes at the end do not count. -/
def splitDirectory (path : String) : String × String :=
  let (head, tail) := splitPath path
  if tail = "" then splitPath head else (head, tail)

/-- Makes a directory with all that has to be above it, unless it is there.  Every step up
makes the path shorter. -/
def Files.ensureDirectoriesFrom (files : Files) : Nat → String → Except FileFault Files
  | 0, path => files.ensureDirectory path
  | fuel + 1, path => do
    let (head, tail) := splitDirectory path
    if head ≠ "" ∧ tail ≠ "" ∧ !files.has head then
      let above ← match files.ensureDirectoriesFrom fuel head with
        | .ok above => pure above
        | .error (.refused .exists_ _) => pure files
        | .error f => throw f
      if tail = "." then return above else above.ensureDirectory path
    else files.ensureDirectory path

/-- Makes a directory with all that has to be above it, unless it is there. -/
def Files.ensureDirectories (files : Files) (path : String) : Except FileFault Files :=
  files.ensureDirectoriesFrom path.length path

/-! ## Names of places -/

/-- The names of a path without dots; those before are in `kept`, last first. -/
def plainNames : List String → List String → List String
  | [], kept => kept.reverse
  | name :: rest, kept =>
    if name = "" ∨ name = "." then plainNames rest kept
    else if name = ".." then plainNames rest (kept.drop 1)
    else plainNames rest (name :: kept)

/-- The path of a path from the root, if `here` is that of the working directory. -/
def fullPath (here path : String) : String :=
  if path.startsWith "/" then
    let root := if path.startsWith "//" && !path.startsWith "///" then "//" else "/"
    root ++ "/".intercalate (plainNames (pathNames path) [])
  else "/".intercalate (here :: plainNames (pathNames path) [])

end OpenApiClient.Source
