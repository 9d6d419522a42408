/-
Getting what stands outside of a document.

A reference can lead to another document.  Its scheme says where this is to be had: in the
address itself, in a file, or from a server.  No server ever answers here, but what is wrong
with an address shows before any server is asked, so most of what follows is about the order
in which the parts of an address are looked at.

What comes back has to be JSON in UTF-8.  Every fault says which kind of fault it is before
it says what is wrong.
-/

import OpenApiClient.Json.Reader
import OpenApiClient.Reference.Address
import OpenApiClient.Reference.Pointer
import OpenApiClient.Source.Files
import OpenApiClient.Text.Base64
import OpenApiClient.Text.Encodable

set_option autoImplicit false

namespace OpenApiClient.Reference

/-! ## Faults -/

/-- Why a server cannot be reached. -/
inductive Unreached where
  | unknownName
  | noName
  | badPort
  | noFamily
  | refused
  deriving DecidableEq, Repr

/-- What the operating system says about it. -/
def Unreached.message : Unreached → String
  | .unknownName => "[Errno -3] Temporary failure in name resolution"
  | .noName => "[Errno -2] Name or service not known"
  | .badPort => "[Errno -8] Servname not supported for ai_socktype"
  | .noFamily => "[Errno -9] Address family for hostname not supported"
  | .refused => "[Errno 111] Connection refused"

/-- Why nothing can be had from an address. -/
inductive RetrievalFault where
  /-- There is no scheme. -/
  | noScheme (address : String)
  | address (fault : AddressFault)
  | unknownScheme (scheme : String)
  | noHost
  | noFileHost
  /-- A file is asked for on another machine. -/
  | otherMachine
  | notOnMachine
  | file (fault : Source.FileFault)
  | port (port : String)
  /-- A control character stands in a part of the address. -/
  | control (part : String) (c : Char)
  | unencodable (fault : Text.EncodeFault)
  | hostLine (host : List UInt8)
  | emptyLabel
  | longLabel
  | nullInHost
  | hugePort
  | unreached (why : Unreached)
  /-- An address that holds its content has no comma before it. -/
  | noComma
  | base64 (fault : Text.Base64Fault)
  | notUtf8 (fault : Text.Utf8Fault)
  | json (fault : Json.FaultAt) (text : List Char)
  deriving DecidableEq, Repr

namespace RetrievalFault

/-- What is said about an address that cannot be opened. -/
def notOpened (why : String) : String := "URLError: <urlopen error " ++ why ++ ">"

/-- What a fault says, after the kind of fault that it is. -/
def message : RetrievalFault → String
  | .noScheme s => "ValueError: unknown url type: " ++ Text.quoted s
  | .address f => "ValueError: " ++ f.message
  | .unknownScheme scheme => notOpened ("unknown url type: " ++ scheme)
  | .noHost => notOpened "no host given"
  | .noFileHost => notOpened "ftp error: no host given"
  | .otherMachine => notOpened "file:// scheme is supported only on localhost"
  | .notOnMachine => notOpened "file not on local host"
  | .file .nullCharacter => "ValueError: " ++ Source.FileFault.nullCharacter.message
  | .file f => notOpened f.message
  | .port s => "InvalidURL: nonnumeric port: '" ++ s ++ "'"
  | .control part c =>
    "InvalidURL: URL can't contain control characters. " ++ Text.quoted part ++ " (found at least "
      ++ Text.quoted (.singleton c) ++ ")"
  | .unencodable f => "UnicodeEncodeError: " ++ f.message
  | .hostLine host => "ValueError: Invalid header value " ++ Text.quotedBytes host
  | .emptyLabel =>
    "UnicodeError: encoding with 'idna' codec failed (UnicodeError: label empty or too long)"
  | .longLabel => "UnicodeError: encoding with 'idna' codec failed (UnicodeError: label too long)"
  | .nullInHost =>
    "TypeError: gethostbyname() argument 1 must be encoded string without null bytes, not str"
  | .hugePort => "OverflowError: Python int too large to convert to C long"
  | .unreached why => notOpened why.message
  | .noComma => "ValueError: not enough values to unpack (expected 2, got 1)"
  | .base64 f => "Error: " ++ f.message
  | .notUtf8 f => "UnicodeDecodeError: " ++ f.message
  | .json ⟨.longInteger n, p⟩ text =>
    "ValueError: " ++ Json.FaultAt.message text ⟨.longInteger n, p⟩
  | .json ⟨.tooDeep, p⟩ text => "RecursionError: " ++ Json.FaultAt.message text ⟨.tooDeep, p⟩
  | .json f text => "JSONDecodeError: " ++ f.message text

end RetrievalFault

/-! ## Requests -/

/-- What is asked for: the whole address, its scheme, its host, and what is wanted there. -/
structure Request where
  address : List Char
  scheme : List Char
  host : List Char
  wanted : List Char

/-- An address without the marks that it can be wrapped in. -/
def unwrap (s : List Char) : List Char :=
  let s := Text.trim s
  let s := if s.head? = some '<' && s.getLast? = some '>' && 1 < s.length then
    Text.trim ((s.drop 1).dropLast) else s
  if "URL:".toList.isPrefixOf s then Text.trim (s.drop 4) else s

/-- The host after two slashes, and what is wanted there. -/
def cutServer (s : List Char) : List Char × List Char :=
  match s with
  | '/' :: '/' :: r =>
    let isEnd (c : Char) : Bool := c = '/' || c = '?' || c = '#'
    let wanted := r.dropWhile (!isEnd ·)
    (r.takeWhile (!isEnd ·),
      if wanted.isEmpty || wanted.head? = some '/' then wanted else '/' :: wanted)
  | _ => ([], s)

/-- The request that an address makes. -/
def Request.ofAddress (s : List Char) : Except RetrievalFault Request := do
  let s := unwrap s
  match Text.splitFirst? ':' s with
  | some (scheme, rest) =>
    if scheme.isEmpty || scheme.contains '/' then throw (.noScheme (.ofList s))
    let _ ← (Address.ofText [] s).mapError .address
    let (host, wanted) := cutServer rest
    return ⟨s, scheme.map Char.toLower, Text.Percent.unescape host, wanted⟩
  | none => throw (.noScheme (.ofList s))

/-! ## Content in the address -/

/-- The content that an address holds. -/
def Request.data (r : Request) : Except RetrievalFault (List UInt8) := do
  match Text.splitFirst? ',' ((r.address.dropWhile (· ≠ ':')).drop 1) with
  | none => throw .noComma
  | some (kind, content) =>
    let bytes := Text.Percent.bytesOf content
    if ";base64".toList.isSuffixOf kind then
      (Text.decodeBase64 (bytes.map fun b => Char.ofNat b.toNat)).mapError .base64
    else return bytes

/-! ## Files -/

/-- A host cut before its port, if it has one. -/
def cutPort (host : List Char) : List Char × List Char :=
  let port := (host.reverse.takeWhile Char.isDigit).reverse
  match (host.take (host.length - port.length)).reverse with
  | ':' :: before => (before.reverse, port)
  | _ => (host, [])

/-- The two names of the machine itself. -/
def isOwnName (host : List Char) : Bool :=
  host.map Char.toLower = "localhost".toList || host = "127.0.0.1".toList

/-- The content of a file. -/
def Request.file (files : Source.Files) (r : Request) : Except RetrievalFault (List UInt8) := do
  let isOther := ['/', '/'].isPrefixOf r.wanted && (r.wanted.drop 2).head? ≠ some '/'
  if isOther && !r.host.isEmpty && r.host ≠ "localhost".toList then
    throw (if r.host = "127.0.0.1".toList then .unknownScheme "file" else .otherMachine)
  let path := String.ofList (Text.Percent.unescape r.wanted)
  let _ ← (files.entry path).mapError .file
  let (host, port) := cutPort r.host
  if host.isEmpty || (port.isEmpty && isOwnName host) then (files.read path).mapError .file
  else throw .notOnMachine

/-! ## Servers -/

/-- The largest port that can be handed on, and far more than there are. -/
def maxPort : Nat := 9223372036854775807

/-- Checks the labels of a host. -/
def checkLabels (host : List Char) : Except RetrievalFault Unit := do
  let labels := Text.splitOn '.' host
  if host.isEmpty then return
  if labels.dropLast.any fun l => l.isEmpty || 64 ≤ l.length then throw .emptyLabel
  if 64 ≤ (labels.getLastD []).length then
    throw (if host.all fun c => c.toNat < 0x80 then .longLabel else .emptyLabel)

/-- Whether a host is written as a number, of which parts may be left out. -/
def isNumericHost (host : List Char) : Bool :=
  Source.isIPv6 host || (1 ≤ host.length && (Text.splitOn '.' host).length ≤ 4
    && (Text.splitOn '.' host).all fun p => !p.isEmpty && p.all Char.isDigit && p.length ≤ 3)

/-- Why a host cannot be reached: names are not known, and nobody listens at numbers. -/
def whyUnreached (host : List Char) : Unreached :=
  let isName (c : Char) : Bool := c.isAlphanum || c = '-' || c = '_' || c = '.' || 0x80 ≤ c.toNat
  if host.map Char.toLower = "localhost".toList || isNumericHost host then .refused
  else if host.isEmpty || !host.all isName then .noName
  else .unknownName

/-- Whether a character may not stand in a request. -/
def isControl (c : Char) : Bool := c.toNat ≤ 0x20 || c.toNat = 0x7F

/-- Checks that a part of a request has no control character. -/
def checkControls (part : List Char) : Except RetrievalFault Unit :=
  match part.find? isControl with
  | some c => .error (.control (.ofList part) c)
  | none => .ok ()

/-- Checks that a text has bytes. -/
def checkEncodable (encoding : Text.Encoding) (s : List Char) : Except RetrievalFault Unit :=
  match Text.encodeFault? encoding s with
  | some f => .error (.unencodable f)
  | none => .ok ()

/-- A line end that would begin a new line of a request. -/
def breaksLine : List Char → Bool
  | '\n' :: c :: r => (c ≠ ' ' && c ≠ '\t') || breaksLine (c :: r)
  | '\r' :: c :: r => (c ≠ ' ' && c ≠ '\t' && c ≠ '\n') || breaksLine (c :: r)
  | [c] => c = '\n' || c = '\r'
  | _ :: r => breaksLine r
  | [] => false

/-- The host of a request to a web server and its port, which may be left out. -/
def webHost (host : List Char) (default : Int) : Except RetrievalFault (List Char × Int) := do
  let after := (host.reverse.takeWhile fun c => c ≠ ':' && c ≠ ']').reverse
  let before := host.take (host.length - after.length)
  let (name, port) ← match before.getLast? with
    | some ':' =>
      match Text.readInt 10 after with
      | .ok n => pure (before.dropLast, n)
      | .error _ =>
        if after.isEmpty then pure (before.dropLast, default)
        else throw (.port (.ofList after))
    | _ => pure (host, default)
  let isBracketed := name.head? = some '[' && name.getLast? = some ']'
  return (if isBracketed then (name.drop 1).dropLast else name, port)

/-- What comes of a request to a web server. -/
def Request.ask (r : Request) (port : Int) : Except RetrievalFault (List UInt8) := do
  if r.host.isEmpty then throw .noHost
  let (host, port) ← webHost r.host port
  checkControls host
  let wanted := if r.wanted.isEmpty then ['/'] else r.wanted
  checkControls wanted
  checkEncodable .ascii ("GET ".toList ++ wanted)
  checkEncodable .latin1 r.host
  if breaksLine r.host then throw (.hostLine (r.host.map fun c => c.toNat.toUInt8))
  checkLabels host
  if maxPort < port.natAbs then throw .hugePort
  throw (.unreached (if port < 0 then .badPort else whyUnreached host))

/-- What comes of a request to a server of files. -/
def Request.askForFile (r : Request) : Except RetrievalFault (List UInt8) := do
  if r.host.isEmpty then throw .noFileHost
  let (host, _) := cutPort r.host
  let host := Text.Percent.unescape (host.reverse.takeWhile (· ≠ '@')).reverse
  checkLabels host
  if host.contains '\x00' then throw .nullInHost
  throw (.unreached (if host.isEmpty then .refused
    else if Source.isIPv6 host then .noFamily else whyUnreached host))

/-! ## Documents -/

/-- The bytes that an address leads to. -/
def Request.bytes (files : Source.Files) (r : Request) : Except RetrievalFault (List UInt8) :=
  let scheme := String.ofList r.scheme
  if scheme = "data" then r.data
  else if scheme = "file" then r.file files
  else if scheme = "http" then r.ask 80
  else if scheme = "https" then r.ask 443
  else if scheme = "ftp" then r.askForFile
  else .error (.unknownScheme scheme)

/-- The document that an address leads to. -/
def retrieve (files : Source.Files) (address : List Char) : Except RetrievalFault Value := do
  let bytes ← (← Request.ofAddress address).bytes files
  let text ← (Text.decode bytes).mapError .notUtf8
  let (v, _) ← (Json.readFrom 0 text).mapError fun f => .json f text
  return v

end OpenApiClient.Reference
