/-
A run of the program.

A run is a function: it takes the arguments and the world, and gives back what it prints, how
it ends, and the files after it.  It writes at most one file.  Usually it writes the generated
code, at the very end, after everything that can go wrong before; if the configuration is to
be saved, it writes that and generates nothing.

Most faults are reported in a line, and the run ends as a failure.  Some are nobody's business:
they end the run as a `Crash`, without a line.  Which fault is which is decided where it is
handed on, in `Ending`.
-/

import OpenApiClient.CommandLine.Arguments
import OpenApiClient.Generate.Client
import OpenApiClient.Source.Load

set_option autoImplicit false

namespace OpenApiClient.CommandLine

/-! ## Ends of a run -/

/-- A fault that ends a run without being reported. -/
inductive Crash where
  | configuration (fault : Configuration.LoadFault)
  | saving (fault : Configuration.SaveFault)
  | settings (fault : Configuration.SettingsFault)
  | document (fault : Source.LoadFault)
  | generation (fault : Generate.Fault)
  /-- The location of the document cannot be written out. -/
  | location
  /-- The path of the output is no text. -/
  | outputPath

/-- How a run ends. -/
inductive Exit where
  | success
  | failure
  /-- The arguments are wrong. -/
  | misuse
  | crash (crash : Crash)

/-- The number that a run ends with; one that crashes has none of its own. -/
def Exit.code? : Exit → Option Nat
  | .success => some 0
  | .failure => some 1
  | .misuse => some 2
  | .crash _ => none

/-- What is left of a run. -/
structure Outcome where
  exit : Exit
  /-- The printed lines. -/
  printed : List String
  files : Source.Files

/-- The printed text. -/
def Outcome.text (o : Outcome) : String := String.join (o.printed.map (· ++ "\n"))

/-- How a step of a run goes wrong. -/
inductive Ending where
  | reported (message : String)
  | crashed (crash : Crash)

/-- A fault that was found in the configuration file.  Those that are about what stands in
it are reported. -/
def Ending.ofConfiguration : Configuration.LoadFault → Ending
  | .file .nullCharacter => .reported Source.FileFault.nullCharacter.message
  | .notUtf8 f => .reported f.message
  | .toml (.flaw f position) text => .reported (f.report text position)
  | .toml (.halt .unwritable) _ => .reported Scalar.unwritableMessage
  | f => .crashed (.configuration f)

/-- A fault of the settings. -/
def Ending.ofSettings : Configuration.SettingsFault → Ending
  | .noItems => .crashed (.settings .noItems)
  | f => .reported f.message

/-- A fault of the document at a location. -/
def Ending.ofDocument (location : String) (f : Source.LoadFault) : Ending :=
  if f.isAboutLocation || f.isWrongValue then .reported (f.message location)
  else .crashed (.document f)

/-- A fault of the generation. -/
def Ending.ofGeneration : Generate.Fault → Ending
  | .pattern f =>
    if f.isWrongValue then .reported f.message else .crashed (.generation (.pattern f))
  | .shape (.wrongLength position length) =>
    .reported (ShapeFault.wrongLength position length).message
  | .shape f => .crashed (.generation (.shape f))
  | .endless => .crashed (.generation .endless)
  | f => .reported f.message

/-! ## The configuration of a run -/

/-- The configuration from a file that the arguments name, or from the usual file if it is
there, and the line that says so. -/
def configurationFrom (settingsFile : String) (files : Source.Files) :
    Except Ending (Configuration × List String) := do
  let path := if settingsFile = "" then Configuration.fileName else settingsFile
  match ← (Configuration.load? files path).mapError .ofConfiguration with
  | some c =>
    return (c, ["📋 Используется конфиг " ++ (if settingsFile = "" then "из " else "") ++ path])
  | none =>
    if settingsFile = "" then return (.default, [])
    else throw (.reported ("Файл настроек не найден: " ++ path))

/-- What the arguments say in place of the file.  A name for the interface is meant to be
used. -/
def Arguments.effective (a : Arguments) : Overrides :=
  if (a.overrides .interfaceName).isGiven then (a.set .useOpenApiTitle (.bool false)).overrides
  else a.overrides

/-! ## The generated file -/

/-- The code for a configuration. -/
def generate (c : Configuration) (w : Source.World) : Except Ending String := do
  let settings ← c.settings.mapError .ofSettings
  let location := settings.openApiPath
  let document ← (Source.load w location).mapError (.ofDocument location)
  (Generate.client settings document).mapError .ofGeneration

/-- Writes code to a file, in a directory that is made if it is not there, and gives back the
files after that. -/
def writeCode (code path : String) (files : Source.Files) :
    Except Source.FileFault Unit × Source.Files :=
  let directory := Source.parentPath path
  match if directory = "" then .ok files else files.ensureDirectories directory with
  | .error f => (.error f, files)
  | .ok files => files.writeText path code

/-! ## Runs -/

/-- The line before a fault in the configuration. -/
def faultMark : String := "❌ Ошибка: "

/-- The line before a fault in the generation. -/
def generationFaultMark : String := "❌ Ошибка генерации: "

/-- A run that goes wrong after it has printed some lines. -/
def Ending.outcome (e : Ending) (mark : String) (printed : List String) (files : Source.Files) :
    Outcome :=
  match e with
  | .reported message => ⟨.failure, printed ++ [mark ++ message], files⟩
  | .crashed crash => ⟨.crash crash, printed, files⟩

/-- A run that saves the configuration. -/
def runSave (c : Configuration) (path : String) (printed : List String) (files : Source.Files) :
    Outcome :=
  match c.save files path with
  | (.ok _, files) => ⟨.success, printed ++ ["✅ Создан конфиг файл " ++ path], files⟩
  | (.error f, files) => ⟨.crash (.saving f), printed, files⟩

/-- A run that generates code, in a working directory that is named `here`. -/
def runGenerate (c : Configuration) (printed : List String) (w : Source.World) (here : String) :
    Outcome :=
  let location := c.value .openApiPath
  if !location.isGiven then
    ⟨.failure, printed ++ [faultMark
      ++ "Укажите путь к спецификации или создайте конфиг с --init-config"], w.files⟩
  else if !location.isWritable then ⟨.crash .location, printed, w.files⟩
  else
    let printed := printed ++ ["🚀 Генерация клиента из " ++ location.display]
    match generate c w with
    | .error e => e.outcome generationFaultMark printed w.files
    | .ok code =>
      match c.value .outputPath with
      | .scalar (.text path) =>
        match writeCode code path w.files with
        | (.error f, files) =>
          (Ending.reported f.message).outcome generationFaultMark printed files
        | (.ok _, files) =>
          ⟨.success, printed ++ ["✅ Генерация завершена успешно!",
            "📦 Клиент создан в: " ++ Source.fullPath here path], files⟩
      | _ => ⟨.crash .outputPath, printed, w.files⟩

/-- A run with arguments that say what to do. -/
def runWith (a : Arguments) (w : Source.World) (here : String) : Outcome :=
  match configurationFrom a.settingsFile w.files with
  | .error e => e.outcome faultMark [] w.files
  | .ok (file, printed) =>
    let c := file.merge a.effective
    if a.isInit then
      let path := if a.settingsFile = "" then Configuration.fileName else a.settingsFile
      runSave c path printed w.files
    else runGenerate c printed w here

/-- A run of the program. -/
def run (arguments : List String) (w : Source.World) (here : String) : Outcome :=
  match parse arguments with
  | .error .help => ⟨.success, [], w.files⟩
  | .error .misuse => ⟨.misuse, [], w.files⟩
  | .ok a => runWith a w here

end OpenApiClient.CommandLine
