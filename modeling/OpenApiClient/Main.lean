/-
The program.

A run is a function of the arguments and of the files that it looks at, which are the
configuration, the document and the place of the output.  This module reads them from the
disk, and puts what the run has written back there.  Paths are taken below the working
directory.  There is no connection to the web here, so a document on a server is not reached.
-/

import OpenApiClient.CommandLine.Run

set_option autoImplicit false

namespace OpenApiClient.Program

/-- What stands at a path. -/
def entryAt (path : String) : IO (Option Source.Entry) := do
  try
    let content ← IO.FS.readBinFile path
    return some (.file content.toList)
  catch
    | .noFileOrDirectory _ _ _ => return none
    | _ => return some .directory

/-- Adds what stands on the way along some names. -/
def lookAlong (files : Source.Files) (way : List String) : List String → IO Source.Files
  | [] => return files
  | name :: rest => do
    let way := way ++ [name]
    match ← entryAt ("/".intercalate way) with
    | some .directory => lookAlong (files.put way .directory) way rest
    | some entry => return files.put way entry
    | none => return files

/-- Adds what stands at a path and on the way to it. -/
def look (files : Source.Files) (path : Value) : IO Source.Files :=
  match path with
  | .scalar (.text path) =>
    if path.startsWith "/" then return files
    else lookAlong files [] ((Source.pathNames path).filter fun n => n ≠ "" && n ≠ ".")
  | _ => return files

/-- The files that a run looks at. -/
def filesFor (arguments : List String) : IO Source.Files := do
  match CommandLine.parse arguments with
  | .error _ => return []
  | .ok a =>
    let path := if a.settingsFile = "" then Configuration.fileName else a.settingsFile
    let files ← look [] (.text path)
    match CommandLine.configurationFrom a.settingsFile files with
    | .error _ => return files
    | .ok (file, _) =>
      let c := file.merge a.effective
      look (← look files (c.value .openApiPath)) (c.value .outputPath)

/-- Writes to the disk what was not there before. -/
def writeBack (before : Source.Files) : Source.Files → IO Unit
  | [] => return ()
  | (names, entry) :: rest => do
    if before.lookup names ≠ some entry then
      let path := "/".intercalate names
      match entry with
      | .directory => IO.FS.createDirAll path
      | .file content => IO.FS.writeBinFile path ⟨content.toArray⟩
    writeBack before rest

end OpenApiClient.Program

open OpenApiClient in
/-- Runs the program. -/
def main (arguments : List String) : IO UInt32 := do
  let files ← Program.filesFor arguments
  let here := (← IO.currentDir).toString
  let outcome := CommandLine.run arguments ⟨files, []⟩ here
  Program.writeBack files outcome.files
  IO.print outcome.text
  match outcome.exit.code? with
  | some code => return code.toUInt32
  | none =>
    IO.eprintln "the run was stopped by a fault that it does not report"
    return 1
