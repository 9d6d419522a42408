/-
Getting a document from where it is.

The location says how: from a file or from a server, as JSON or as YAML.  A file has to be
well-formed UTF-8 and its line ends are made alike; a page is taken as it is.  Every fault
says what went wrong in the words of this program, followed, for faults that were found
further down, by the words from there.
-/

import OpenApiClient.Document.Reader
import OpenApiClient.Json.Reader
import OpenApiClient.Source.Files
import OpenApiClient.Source.Location
import OpenApiClient.Source.Web
import OpenApiClient.Value.Depth
import OpenApiClient.Yaml.Reader

set_option autoImplicit false

namespace OpenApiClient.Source

/-- The files and the web that a run can see. -/
structure World where
  files : Files := []
  web : Web := []

/-! ## Faults -/

/-- Why there is no document at a location. -/
inductive LoadFault where
  | fileNotFound
  | unreadable (fault : FileFault)
  | notUtf8 (fault : Text.Utf8Fault)
  | pageNotFound
  | web (fault : WebFault)
  | status (status : Nat)
  | json (fault : Json.FaultAt) (text : List Char)
  | yaml (fault : Yaml.Fault) (text : List Char)
  | document (fault : Document.Fault)
  deriving DecidableEq, Repr

namespace LoadFault

/-- What a fault says in the words of this program. -/
def headline : LoadFault → String
  | .fileNotFound => "Файл не найден"
  | .unreadable _ => "Ошибка чтения файла: "
  | .notUtf8 _ => "Файл не в UTF-8: "
  | .pageNotFound => "Документ не найден (404)"
  | .web _ => "Ошибка соединения: "
  | .status n => s!"Сервер вернул статус {n}"
  | .json _ _ => "Некорректный JSON: "
  | .yaml _ _ => "Некорректный YAML: "
  | .document f => f.headline

/-- What a fault says in the words from further down. -/
def detail : LoadFault → String
  | .unreadable f => f.message
  | .notUtf8 f => f.message
  | .web f => f.message
  | .json f text => f.message text
  | .yaml f text => f.message text
  | .document f => f.detail
  | _ => ""

/-- Whether a fault stands for one about the location.  Those that do not come from a number
or a date that has no value, from a path or an address that is none, from a page that cannot
be read, or from a document without an end, and they are handed on as they are. -/
def isAboutLocation : LoadFault → Bool
  | .web (.failed _) => true
  | .web _ => false
  | .unreadable .nullCharacter => false
  | .json ⟨.longInteger _, _⟩ _ | .json ⟨.tooDeep, _⟩ _ => false
  | .yaml (.value _) _ => false
  | .document (.badPair _ _) | .document (.address _) | .document .longInteger
  | .document .endless => false
  | _ => true

/-- Whether a fault that is handed on is one of a wrong value, which is reported, and not a
stop of the program. -/
def isWrongValue : LoadFault → Bool
  | .web f => f.isWrongValue
  | .json ⟨.tooDeep, _⟩ _ | .document .endless => false
  | .yaml (.value .hugeCharacter) _ => false
  | .yaml (.value .notBoolean) _ => false
  | .yaml (.value .emptyNumber) _ => false
  | .yaml (.value .notTimestamp) _ => false
  | .yaml (.value .timestampInside) _ => false
  | _ => true

/-- What is reported about a fault at a location. -/
def message (location : String) (f : LoadFault) : String :=
  if f.isAboutLocation then location ++ ": " ++ f.headline ++ f.detail
  else f.detail

end LoadFault

/-! ## Loading -/

/-- The text of a file. -/
def fileText (files : Files) (path : String) : Except LoadFault (List Char) := do
  let bytes ← match files.read path with
    | .ok bytes => pure bytes
    | .error (.refused .notFound _) => throw .fileNotFound
    | .error f => throw (.unreadable f)
  match Text.decode bytes with
  | .ok text => return Text.normalizeLineEnds text
  | .error f => throw (.notUtf8 f)

/-- The text of a page. -/
def pageText (web : Web) (address : String) : Except LoadFault (List Char) := do
  let page ← (web.ask address).mapError .web
  if page.status = 404 then throw .pageNotFound
  else if isSuccess page.status then page.text.mapError .web
  else throw (.status page.status)

/-- The text at a location. -/
def textAt (w : World) (location : String) : Except LoadFault (List Char) :=
  if isRemote location then pageText w.web location else fileText w.files location

/-- The value that a text at a location stands for. -/
def valueOf (location : String) (text : List Char) : Except LoadFault Value :=
  if isYaml location then do
    let v ← (Yaml.readText text).mapError fun f => .yaml f text
    if v.isTooDeep then throw (.document .endless) else return v
  else ((Json.readFrom 0 text).map (·.1)).mapError fun f => .json f text

/-- The document at a location. -/
def load (w : World) (location : String) : Except LoadFault Document := do
  let text ← textAt w location
  let v ← valueOf location text
  (Document.read w.files v).mapError .document

end OpenApiClient.Source
