/-
Why a text is no TOML text.

A `Flaw` is something that is wrong with the text.  It is reported with the place of the
line that it was found in, so that the person who wrote the text can mend it.  A `Halt` is
different: the text has a shape that the reader has no answer for, such as a value that
ends where a character has to stand, and it says nothing about what the author should do.
The two are kept apart because a program may report flaws and go on, while it does not get
past a halt.
-/

import OpenApiClient.Text.Digit
import OpenApiClient.Text.Position
import OpenApiClient.Value.Display

set_option autoImplicit false

namespace OpenApiClient.Toml

/-! ## Flaws -/

/-- A part of a time of day. -/
inductive TimePart where
  | hour
  | minute
  | second
  deriving DecidableEq, Repr

/-- What is wrong with a text. -/
inductive Flaw where
  /-- A line ends inside a key. -/
  | openKeyInLine
  /-- The text ends inside a key. -/
  | openKey
  | keyChar (c : Char)
  | emptyKey
  | openQuote
  /-- The text ends inside a string. -/
  | openString
  /-- A table header is a bracket and nothing more. -/
  | loneBracket
  | headerLine
  /-- A quoted name in a header has no end. -/
  | openHeaderName (name : List Char)
  | headerName (name : List Char)
  | emptyHeaderName
  | impliedArray
  /-- A table is declared a second time; the table that it stands in is shown. -/
  | secondHeader (name : String) (table : Value)
  | brokenInlineTable
  | dateOrNumber
  | duplicateKey
  | emptyValue
  | truthCase
  | afterString
  | escape
  | unicodeEscape (digits : List Char)
  | surrogate (digits : List Char)
  | characterRange
  | mixedArray
  | inlineTable
  | inlineValue
  | time (part : TimePart)
  | numberForm
  | noFraction
  | noLeadingDigit
  | notFloat (text : List Char)
  | notInteger (text : List Char)
  | longInteger (digits : Nat)
  deriving Repr

/-- What a flaw says about a part of a time. -/
def TimePart.message : TimePart → String
  | .hour => "hour must be in 0..23"
  | .minute => "minute must be in 0..59"
  | .second => "second must be in 0..59"

/-- The longest text that a message about an integer shows. -/
def maxShown : Nat := 200

/-- What a flaw says. -/
def Flaw.message : Flaw → String
  | .openKeyInLine => "Key name found without value. Reached end of line."
  | .openKey => "Key name found without value. Reached end of file."
  | .keyChar c =>
    "Found invalid character in key name: '" ++ c.toString ++ "'. Try quoting the key name."
  | .emptyKey => "Found empty keyname. "
  | .openQuote => "Unbalanced quotes"
  | .openString => "Unterminated string found. Reached end of file."
  | .loneBracket => "Opening key group bracket on line by itself."
  | .headerLine => "Key group not on a line by itself."
  | .openHeaderName name => "Invalid group name '" ++ .ofList name ++ "' Something went wrong."
  | .headerName name => "Invalid group name '" ++ .ofList name ++ "'. Try quoting it."
  | .emptyHeaderName => "Can't have a keygroup with an empty name"
  | .impliedArray => "An implicitly defined table can't be an array"
  | .secondHeader name table => "What? " ++ name ++ " already exists?" ++ table.display
  | .brokenInlineTable => "Line breaks are not allowed in inlineobjects"
  | .dateOrNumber => "Invalid date or number"
  | .duplicateKey => "Duplicate keys!"
  | .emptyValue => "Empty value is invalid"
  | .truthCase => "Only all lowercase booleans allowed"
  | .afterString => "Found tokens after a closed string. Invalid TOML."
  | .escape => "Reserved escape sequence used"
  | .unicodeEscape digits => "Invalid escape sequence: " ++ .ofList digits
  | .surrogate digits =>
    "Invalid escape sequence: " ++ .ofList digits ++ ". Only scalar unicode points are allowed."
  | .characterRange => "chr() arg not in range(0x110000)"
  | .mixedArray => "Not a homogeneous array"
  | .inlineTable => "Invalid inline table encountered"
  | .inlineValue => "Invalid inline table value encountered"
  | .time part => part.message
  | .numberForm => "Weirdness with leading zeroes or underscores in your number."
  | .noFraction => "This float is missing digits after the point"
  | .noLeadingDigit => "This float doesn't have a leading digit"
  | .notFloat text => "could not convert string to float: " ++ Text.quoted (.ofList text)
  | .notInteger text =>
    "invalid literal for int() with base 0: "
      ++ .ofList ((Text.quoted (.ofList text)).toList.take maxShown)
  | .longInteger digits => Text.longIntegerMessage digits

/-! ## Halts -/

/-- Why the reader has no answer for a text. -/
inductive Halt where
  /-- A character has to stand where the text ends, or an item where a list ends. -/
  | pastEnd
  /-- A value that is no table is used as one. -/
  | noTable
  /-- A value that is no list is used as one. -/
  | noList
  /-- The number of a character is too large to be looked at. -/
  | hugeCharacter
  /-- A string over several lines belongs to an empty key. -/
  | unnamedString
  /-- Values are nested too deeply. -/
  | tooDeep
  /-- A value that has to be written out cannot be. -/
  | unwritable
  deriving DecidableEq, Repr

/-! ## Both -/

/-- Why a piece of a text cannot be read. -/
inductive Trouble where
  | flaw (flaw : Flaw)
  | halt (halt : Halt)
  deriving Repr

/-- Why a text cannot be read: a flaw and its position, or a halt. -/
inductive Fault where
  | flaw (flaw : Flaw) (position : Nat)
  | halt (halt : Halt)
  deriving Repr

/-- Trouble with the line that starts at a position. -/
def Trouble.at (position : Nat) : Trouble → Fault
  | .flaw f => .flaw f position
  | .halt h => .halt h

/-- What is reported about a flaw at a position of a text. -/
def Flaw.report (text : List Char) (position : Nat) (f : Flaw) : String :=
  s!"{f.message} (line {Text.lineAt text position} "
    ++ s!"column {Text.columnAt text position} char {position})"

end OpenApiClient.Toml
