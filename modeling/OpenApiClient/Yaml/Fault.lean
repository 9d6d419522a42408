/-
Why a text is no YAML document, and where.

A fault that belongs to a place says what was wrong there, and often what was being read
and where that began.  Some scalars cannot be turned into the value that their tag
promises; those faults have no place.
-/

import OpenApiClient.Text.Digit
import OpenApiClient.Text.Quoted
import OpenApiClient.Text.Utf8
import OpenApiClient.Yaml.Mark

set_option autoImplicit false

namespace OpenApiClient.Yaml

/-! ## What was being read -/

/-- What was being read when a fault was met. -/
inductive Activity where
  | nextToken
  | simpleKey
  | directive
  | anchor
  | alias
  | tag
  /-- The part of a tag that is an address. -/
  | tagAddress
  /-- The part of a directive that is an address. -/
  | directiveAddress
  | blockScalar
  | doubleQuoted
  | quoted
  | node
  | blockNode
  | flowNode
  | blockSequence
  | blockMapping
  | flowSequence
  | flowMapping
  /-- The first of two nodes with this anchor. -/
  | firstAnchor (name : String)
  /-- The only document of a text. -/
  | document
  | mapping
  | orderedMap
  | pairs
  deriving DecidableEq, Repr

/-- What a fault says about the activity. -/
def Activity.message : Activity → String
  | .nextToken => "while scanning for the next token"
  | .simpleKey => "while scanning a simple key"
  | .directive => "while scanning a directive"
  | .anchor => "while scanning an anchor"
  | .alias => "while scanning an alias"
  | .tag => "while scanning a tag"
  | .tagAddress => "while parsing a tag"
  | .directiveAddress => "while parsing a directive"
  | .blockScalar => "while scanning a block scalar"
  | .doubleQuoted => "while scanning a double-quoted scalar"
  | .quoted => "while scanning a quoted scalar"
  | .node => "while parsing a node"
  | .blockNode => "while parsing a block node"
  | .flowNode => "while parsing a flow node"
  | .blockSequence => "while parsing a block collection"
  | .blockMapping => "while parsing a block mapping"
  | .flowSequence => "while parsing a flow sequence"
  | .flowMapping => "while parsing a flow mapping"
  | .firstAnchor name => s!"found duplicate anchor {Text.quoted name}; first occurrence"
  | .document => "expected a single document in the stream"
  | .mapping => "while constructing a mapping"
  | .orderedMap => "while constructing an ordered map"
  | .pairs => "while constructing pairs"

/-! ## What was wrong -/

/-- What was wrong at a place. -/
inductive Problem where
  /-- No token starts with this character. -/
  | noToken (found : Char)
  | noColon
  | entryNotAllowed
  | keyNotAllowed
  | valueNotAllowed
  /-- Another character than the one found has to stand here. -/
  | expected (wanted : String) (found : Char)
  | zeroIndent
  | unknownEscape (found : Char)
  | endOfText
  | separator
  | address (fault : Text.Utf8Fault)
  /-- Another token than the one found has to stand here. -/
  | expectedToken (wanted found : String)
  /-- A separator or the end of a collection has to stand here. -/
  | expectedNext (wanted found : String)
  | secondVersion
  | otherVersion
  | secondHandle (handle : String)
  | unknownHandle (handle : String)
  | unknownAlias (name : String)
  | secondAnchor
  | secondDocument
  | unknownTag (name : String)
  /-- Another kind of node than the one found has to stand here. -/
  | expectedNode (wanted found : String)
  | severalItems (count : Nat)
  | keyNotScalar
  | notAscii (first : Char) (position length : Nat)
  | notBase64 (message : String)
  deriving DecidableEq, Repr

/-- What a fault says about the problem. -/
def Problem.message : Problem → String
  | .noToken c => s!"found character {Text.quoted (.singleton c)} that cannot start any token"
  | .noColon => "could not find expected ':'"
  | .entryNotAllowed => "sequence entries are not allowed here"
  | .keyNotAllowed => "mapping keys are not allowed here"
  | .valueNotAllowed => "mapping values are not allowed here"
  | .expected wanted c => s!"expected {wanted}, but found {Text.quoted (.singleton c)}"
  | .zeroIndent => "expected indentation indicator in the range 1-9, but found 0"
  | .unknownEscape c => s!"found unknown escape character {Text.quoted (.singleton c)}"
  | .endOfText => "found unexpected end of stream"
  | .separator => "found unexpected document separator"
  | .address f => f.message
  | .expectedToken wanted found => s!"expected {wanted}, but found {Text.quoted found}"
  | .expectedNext wanted found => s!"expected {wanted}, but got {Text.quoted found}"
  | .secondVersion => "found duplicate YAML directive"
  | .otherVersion => "found incompatible YAML document (version 1.* is required)"
  | .secondHandle handle => s!"duplicate tag handle {Text.quoted handle}"
  | .unknownHandle handle => s!"found undefined tag handle {Text.quoted handle}"
  | .unknownAlias name => s!"found undefined alias {Text.quoted name}"
  | .secondAnchor => "second occurrence"
  | .secondDocument => "but found another document"
  | .unknownTag name => s!"could not determine a constructor for the tag {Text.quoted name}"
  | .expectedNode wanted found => s!"expected {wanted}, but found {found}"
  | .severalItems count => s!"expected a single mapping item, but found {count} items"
  | .keyNotScalar => "found unhashable key"
  | .notAscii c position length =>
    let where_ := if length = 1 then
        s!"character '{String.ofList (Text.numberedChar c)}' in position {position}"
      else s!"characters in position {position}-{position + length - 1}"
    "failed to convert base64 data into ascii: 'ascii' codec can't encode " ++ where_
      ++ ": ordinal not in range(128)"
  | .notBase64 message => "failed to decode base64 data: " ++ message

/-! ## Values that cannot be made -/

/-- Why a scalar does not have the value that its tag promises, or an escape stands for no
character. -/
inductive ValueFault where
  /-- No character has this number. -/
  | noCharacter
  /-- The number of a character is too large even to be looked at. -/
  | hugeCharacter
  | notBoolean
  /-- A number without a digit. -/
  | emptyNumber
  | notInteger (base : Nat) (text : String)
  | longInteger (digits : Nat)
  | notFloat (text : String)
  | notTimestamp
  /-- A timestamp stands as the value proper of a mapping. -/
  | timestampInside
  | year (n : Nat)
  | month
  | day
  | hour
  | minute
  | second
  /-- The distance from universal time, in minutes, is a day or more. -/
  | offset (minutes : Int)
  deriving DecidableEq, Repr

/-- A distance of time as a message shows it. -/
def displayMinutes (minutes : Int) : String :=
  let days := (minutes * 60).fdiv 86400
  let seconds := (minutes * 60).fmod 86400
  let parts := (if days = 0 then [] else [s!"days={days}"])
    ++ (if seconds = 0 then [] else [s!"seconds={seconds}"])
  "datetime.timedelta(" ++ ", ".intercalate (if parts.isEmpty then ["0"] else parts) ++ ")"

/-- What a fault of a value says. -/
def ValueFault.message : ValueFault → String
  | .noCharacter => "chr() arg not in range(0x110000)"
  | .hugeCharacter => "the number of the character is too large"
  | .notBoolean => "the text is no truth value"
  | .emptyNumber => "the number has no digit"
  | .notInteger base text => s!"invalid literal for int() with base {base}: {Text.quoted text}"
  | .longInteger digits => Text.longIntegerMessage digits
  | .notFloat text => s!"could not convert string to float: {Text.quoted text}"
  | .notTimestamp => "the text is no timestamp"
  | .timestampInside => "expected string or bytes-like object, got 'list'"
  | .year n => s!"year {n} is out of range"
  | .month => "month must be in 1..12"
  | .day => "day is out of range for month"
  | .hour => "hour must be in 0..23"
  | .minute => "minute must be in 0..59"
  | .second => "second must be in 0..59"
  | .offset minutes =>
    "offset must be a timedelta strictly between -timedelta(hours=24) and timedelta(hours=24), "
      ++ s!"not {displayMinutes minutes}."

/-! ## Faults -/

/-- Why a text is no YAML document. -/
inductive Fault where
  /-- The text holds a character that no document may hold. -/
  | unprintable (c : Char) (position : Nat)
  /-- Something is wrong at a place; what was being read began at `start`. -/
  | marked (activity : Option Activity) (start : Option Mark) (problem : Problem) (place : Mark)
  | value (fault : ValueFault)
  deriving DecidableEq, Repr

/-- What a fault in a text says.  The start of the activity is left out if it is the place
itself. -/
def Fault.message (text : List Char) : Fault → String
  | .unprintable c position =>
    s!"unacceptable character #x{String.ofList (Text.hex 4 c.toNat)}: special characters are "
      ++ s!"not allowed\n  in \"<unicode string>\", position {position}"
  | .marked activity start problem place =>
    let begun := match start.filter fun m => m.line ≠ place.line ∨ m.column ≠ place.column with
      | some m => [m.display text]
      | none => []
    "\n".intercalate ((activity.map Activity.message).toList ++ begun
      ++ [problem.message, place.display text])
  | .value f => f.message

/-- A fault at a place, met during an activity that began at `start`. -/
def failDuring {α : Type} (activity : Activity) (start : Mark) (problem : Problem)
    (place : Mark) : Except Fault α :=
  .error (.marked (some activity) (some start) problem place)

/-- A fault at a place. -/
def failAt {α : Type} (problem : Problem) (place : Mark) : Except Fault α :=
  .error (.marked none none problem place)

end OpenApiClient.Yaml
