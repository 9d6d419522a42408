/-
The arguments of the program.

An argument is a plain word or an option.  What it is depends on the argument alone: it may
be the beginning of the name of one option, and its value may follow a sign of equality.
Only then the arguments are gone through from left to right, where an option may take the
next word as its value.  One plain word more may be given, which says where the document is.

After a `--` every argument is a plain word.  The `--` itself belongs to the place of the
one plain word, and is wrong where that place is taken.
-/

import OpenApiClient.Configuration

set_option autoImplicit false

namespace OpenApiClient.CommandLine

/-! ## Options -/

/-- What an option does. -/
inductive Action where
  /-- Gives a key the value of the option. -/
  | store (key : ConfigKey)
  /-- Adds the value of the option to the list of a key. -/
  | append (key : ConfigKey)
  /-- Gives a key a value. -/
  | set (key : ConfigKey) (value : Value)
  /-- Names the file that holds the configuration. -/
  | settingsFile
  /-- Asks for the configuration to be saved. -/
  | initConfig
  | verbose
  | help
  deriving Repr

/-- Whether an option has a value. -/
def Action.takesValue : Action → Bool
  | .store _ | .append _ | .settingsFile => true
  | _ => false

/-- The options. -/
def options : List (String × Action) := [
  ("-h", .help),
  ("--help", .help),
  ("--namespace", .store .namespaceName),
  ("--output", .store .outputPath),
  ("--interface-name", .store .interfaceName),
  ("--no-contracts", .set .generateContracts (.bool false)),
  ("--no-auto-generated-header", .set .addAutoGeneratedHeader (.bool false)),
  ("--no-xml-doc-comments", .set .generateXmlDocComments (.bool false)),
  ("--no-operation-headers", .set .generateOperationHeaders (.bool false)),
  ("--use-cancellation-tokens", .set .useCancellationTokens (.bool true)),
  ("--use-iso-date-format", .set .useIsoDateFormat (.bool true)),
  ("--return-iapi-response", .set .returnApiResponse (.bool true)),
  ("--internal", .set .accessibility (.text Accessibility.assembly.keyword)),
  ("--additional-namespace", .append .additionalNamespaces),
  ("--exclude-namespace", .append .excludeNamespaces),
  ("--tag", .append .includeTags),
  ("--match-path", .append .includePathMatches),
  ("--settings-file", .settingsFile),
  ("--init-config", .initConfig),
  ("--verbose", .verbose)]

/-! ## What an argument is -/

/-- Why the arguments do not say what to do. -/
inductive Stop where
  /-- They ask for help. -/
  | help
  | misuse
  deriving DecidableEq, Repr

/-- What an argument is. -/
inductive Word where
  | plain (text : String)
  /-- An option, and the value that is given with it in one argument. -/
  | option (action : Action) (value : Option String)
  | unknown
  /-- The mark after which all words are plain. -/
  | mark
  deriving Repr

/-- Whether a text is a negative number; a line end after it does not count. -/
def isNegativeNumber (s : List Char) : Bool :=
  let isDigit (c : Char) := (Text.digitValue? c).isSome
  match if s.getLast? = some '\n' then s.dropLast else s with
  | '-' :: r =>
    let fraction := (r.dropWhile isDigit).drop 1
    (!r.isEmpty && r.all isDigit)
      || ((r.dropWhile isDigit).head? = some '.' && !fraction.isEmpty && fraction.all isDigit)
  | _ => false

/-- An argument that starts with a hyphen and is no option. -/
def notOption (s : String) : Word :=
  if isNegativeNumber s.toList || s.toList.contains ' ' then .plain s else .unknown

/-- The option that asks for help, with more letters after it.  Each letter is an option of
its own. -/
def helpLetters (value : String) : Word :=
  .option .help (if value ≠ "" && value.toList.all (· = 'h') then none else some value)

/-- An argument that is the name of no option, but may be cut into a name and a value, or may
be the beginning of a name. -/
def longWord (s : String) : Except Stop Word :=
  let (name, value) := match Text.splitFirst? '=' s.toList with
    | some (name, value) => (String.ofList name, some (String.ofList value))
    | none => (s, none)
  match value, options.lookup name with
  | some v, some .help => .ok (if name = "-h" then helpLetters v else .option .help value)
  | some _, some action => .ok (.option action value)
  | _, _ =>
    if s.startsWith "--" then
      match options.filter fun o => o.1.startsWith name with
      | [] => .ok (notOption s)
      | [o] => .ok (.option o.2 value)
      | _ => .error .misuse
    else if s.startsWith "-h" then .ok (helpLetters (.ofList (s.toList.drop 2)))
    else .ok (notOption s)

/-- What an argument is. -/
def wordOf (s : String) : Except Stop Word :=
  if !s.startsWith "-" then .ok (.plain s)
  else match options.lookup s with
    | some action => .ok (.option action none)
    | none => if s = "-" then .ok (.plain s) else longWord s

/-- What the arguments are. -/
def wordsOf : List String → Except Stop (List Word)
  | [] => .ok []
  | s :: rest =>
    if s = "--" then .ok (.mark :: rest.map .plain)
    else do return (← wordOf s) :: (← wordsOf rest)

/-! ## What the arguments say -/

/-- What the arguments say. -/
structure Arguments where
  overrides : Overrides := fun _ => .null
  /-- The file that holds the configuration; none is named if this is empty. -/
  settingsFile : String := ""
  isInit : Bool := false

namespace Arguments

/-- Gives a key a value. -/
def set (a : Arguments) (key : ConfigKey) (value : Value) : Arguments :=
  { a with overrides := fun k => if k = key then value else a.overrides k }

/-- The value of an option.  The mark for plain words stands for no value. -/
def valueOf (text : String) : Value := if text = "--" then .list [] else .text text

/-- What an option with a value says. -/
def applyValue (a : Arguments) (action : Action) (text : String) : Arguments :=
  match action with
  | .store key => a.set key (valueOf text)
  | .append key =>
    match a.overrides key with
    | .list items => a.set key (.list (items ++ [valueOf text]))
    | _ => a.set key (.list [valueOf text])
  | .settingsFile => { a with settingsFile := if text = "--" then "" else text }
  | _ => a

/-- What an option without a value says. -/
def apply (a : Arguments) (action : Action) : Except Stop Arguments :=
  match action with
  | .help => .error .help
  | .set key value => .ok (a.set key value)
  | .initConfig => .ok { a with isInit := true }
  | _ => .ok a

/-- Goes through the arguments.  `isFree` says that the one plain word has not been given,
and `isWrong` that there was an argument without a place. -/
def read (isFree isWrong : Bool) (a : Arguments) : List Word → Except Stop Arguments
  | [] => if isWrong then .error .misuse else .ok a
  | .option action (some value) :: rest =>
    if action.takesValue then read isFree isWrong (a.applyValue action value) rest
    else .error .misuse
  | .option action none :: .plain text :: rest => do
    if action.takesValue then read isFree isWrong (a.applyValue action text) rest
    else read isFree isWrong (← a.apply action) (.plain text :: rest)
  | .option action none :: rest => do
    if action.takesValue then throw .misuse else read isFree isWrong (← a.apply action) rest
  | .unknown :: rest => read isFree true a rest
  | .mark :: rest => if isFree then read true isWrong a rest else read false true a rest
  | .plain text :: .mark :: rest =>
    if isFree then read false isWrong (a.set .openApiPath (.text text)) rest
    else read false true a (.mark :: rest)
  | .plain text :: rest =>
    if isFree then read false isWrong (a.set .openApiPath (.text text)) rest
    else read false true a rest

end Arguments

/-- What the arguments say. -/
def parse (arguments : List String) : Except Stop Arguments := do
  Arguments.read true false {} (← wordsOf arguments)

end OpenApiClient.CommandLine
