/-
Tokens of a YAML text.

Indentation becomes tokens of its own: a block collection is opened where its first entry
stands further in than everything before, and closed where a line stands further out.  So
nothing after this level looks at columns.  A list of tokens can end in a fault; whoever
reads the list meets the fault where the text stops making sense, and not before.
-/

import OpenApiClient.Yaml.Fault

set_option autoImplicit false

namespace OpenApiClient.Yaml

/-- What a directive says. -/
inductive Directive where
  /-- The version of the language: only the first number counts. -/
  | version (major : Nat)
  /-- What a handle stands for in tags. -/
  | tagHandle (handle stem : String)
  | other
  deriving DecidableEq, Repr

/-- A token without its place. -/
inductive Lexeme where
  | streamStart
  | streamEnd
  | directive (d : Directive)
  | documentStart
  | documentEnd
  | blockSequenceStart
  | blockMappingStart
  | blockEnd
  | flowSequenceStart
  | flowSequenceEnd
  | flowMappingStart
  | flowMappingEnd
  | key
  | value
  | blockEntry
  | flowEntry
  | alias (name : String)
  | anchor (name : String)
  /-- A tag, with the handle that it begins with if it is not written out. -/
  | tag (handle : Option String) (rest : String)
  | scalar (text : String) (isPlain : Bool)
  /-- The text goes wrong here. -/
  | broken (fault : Fault)
  deriving DecidableEq, Repr, Inhabited

/-- The kind of a token as a message shows it. -/
def Lexeme.kind : Lexeme → String
  | .streamStart => "<stream start>"
  | .streamEnd => "<stream end>"
  | .directive _ => "<directive>"
  | .documentStart => "<document start>"
  | .documentEnd => "<document end>"
  | .blockSequenceStart => "<block sequence start>"
  | .blockMappingStart => "<block mapping start>"
  | .blockEnd => "<block end>"
  | .flowSequenceStart => "["
  | .flowSequenceEnd => "]"
  | .flowMappingStart => "\x7b"
  | .flowMappingEnd => "\x7d"
  | .key => "?"
  | .value => ":"
  | .blockEntry => "-"
  | .flowEntry => ","
  | .alias _ => "<alias>"
  | .anchor _ => "<anchor>"
  | .tag _ _ => "<tag>"
  | .scalar _ _ => "<scalar>"
  | .broken _ => "<fault>"

/-- A token and the places of its two ends. -/
structure Token where
  lexeme : Lexeme
  start : Mark
  stop : Mark
  deriving DecidableEq, Repr, Inhabited

/-- A token that takes no room. -/
def Token.here (lexeme : Lexeme) (m : Mark) : Token := ⟨lexeme, m, m⟩

end OpenApiClient.Yaml
