/-
Addresses on the web.

A server is asked for an address in its normal form: the scheme and the host in small letters,
the host in ASCII, no port that the scheme has anyway, no dots in the path, and escapes for all
characters that cannot stand for themselves.  What has no such form is no address.

A server can send the reader on.  The address that it names may leave out what it has in common
with the one that was asked for, and takes over its fragment if it has none.
-/

import OpenApiClient.Reference.Address
import OpenApiClient.Source.HostName
import OpenApiClient.Text.Digit
import OpenApiClient.Text.Percent

set_option autoImplicit false

namespace OpenApiClient.Source

/-- An address in its normal form.  Parts without a mark of their own are empty if they are
not there. -/
structure WebAddress where
  scheme : List Char := []
  user : List Char := []
  host : List Char := []
  port : Option Int := none
  path : List Char := []
  query : Option (List Char) := none
  fragment : Option (List Char) := none
  deriving DecidableEq, Repr

namespace WebAddress

/-! ## Faults -/

/-- Why a text is no address. -/
inductive Fault where
  | tooLong
  | unprintable (c : Char) (position : Nat)
  | port (port : String)
  /-- A host that looks like four numbers is not four numbers. -/
  | fourParts (host : String)
  | eightParts (host : String)
  | hostName (host : String)
  /-- The path does not begin with a slash where there is a host. -/
  | unrootedPath
  /-- The path begins with two slashes where there is no host. -/
  | doubleSlash
  /-- The path begins with a colon where there is no scheme. -/
  | colonPath
  | unencodable (fault : Text.EncodeFault)
  deriving DecidableEq, Repr

/-- What a fault says. -/
def Fault.message : Fault → String
  | .tooLong => "URL too long"
  | .unprintable c position =>
    "Invalid non-printable ASCII character in URL, " ++ Text.quoted (.singleton c)
      ++ s!" at position {position}."
  | .port s => "Invalid port: " ++ Text.quoted s
  | .fourParts s => "Invalid IPv4 address: " ++ Text.quoted s
  | .eightParts s => "Invalid IPv6 address: " ++ Text.quoted s
  | .hostName s => "Invalid IDNA hostname: " ++ Text.quoted s
  | .unrootedPath => "For absolute URLs, path must be empty or begin with '/'"
  | .doubleSlash => "Relative URLs cannot have a path starting with '//'"
  | .colonPath => "Relative URLs cannot have a path starting with ':'"
  | .unencodable f => f.message

/-! ## Parts -/

/-- The parts of a text, as they are written. -/
structure Parts where
  scheme : List Char := []
  server : List Char := []
  path : List Char := []
  query : Option (List Char) := none
  fragment : Option (List Char) := none

/-- A text cut at the first separator, which belongs to neither part. -/
def cut (sep : Char) (s : List Char) : List Char × Option (List Char) :=
  match Text.splitFirst? sep s with
  | some (before, after) => (before, some after)
  | none => (s, none)

/-- A text cut after its scheme.  A colon in front is that of an empty scheme. -/
def cutScheme (s : List Char) : List Char × List Char :=
  match Text.splitFirst? ':' s with
  | some (before, after) =>
    if before.isEmpty || Reference.Address.isScheme before then (before, after) else ([], s)
  | none => ([], s)

/-- A text cut after its server, which two slashes announce. -/
def cutServer (s : List Char) : List Char × List Char :=
  match s with
  | '/' :: '/' :: r => (r.takeWhile (· ≠ '/'), r.dropWhile (· ≠ '/'))
  | _ => ([], s)

/-- The parts of a text. -/
def Parts.ofText (s : List Char) : Parts :=
  let (s, fragment) := cut '#' s
  let (s, query) := cut '?' s
  let (scheme, s) := cutScheme s
  let (server, path) := cutServer s
  { scheme, server, path, query, fragment }

/-! ## Servers -/

/-- The parts of a server: the user before the last at sign, the host, and the port, which may
come after a colon. -/
def serverParts (s : List Char) : List Char × List Char × List Char :=
  let rest := (s.reverse.takeWhile (· ≠ '@')).reverse
  let user := (s.take (s.length - rest.length)).dropLast
  let inBrackets := (rest.reverse.dropWhile (· ≠ ']')).reverse
  let host := if rest.head? = some '[' && !inBrackets.isEmpty then inBrackets
    else rest.takeWhile (· ≠ ':')
  let port := rest.drop host.length
  (user, host, if port.head? = some ':' then port.drop 1 else port)

/-- Whether a text is made of `n` runs of digits and one more, with any one character between
two of them. -/
def isDigitRuns : Nat → List Char → Bool
  | 0, s => !s.isEmpty && s.all Char.isDigit
  | n + 1, c :: x :: r => c.isDigit && (isDigitRuns n r || isDigitRuns (n + 1) (x :: r))
  | _, _ => false

/-- The ports that servers have without saying so. -/
def usualPorts : List (String × Int) :=
  [("ftp", 21), ("http", 80), ("https", 443), ("ws", 80), ("wss", 443)]

/-- The number of a port, unless the scheme has it anyway. -/
def portOf (scheme port : List Char) : Except Fault (Option Int) :=
  if port.isEmpty then .ok none
  else match Text.readInt 10 port with
    | .ok n => .ok (if usualPorts.lookup (.ofList scheme) = some n then none else some n)
    | .error _ => .error (.port (.ofList port))

/-! ## Escapes -/

/-- Whether a character stands for itself in a part in which those of `marks` do not. -/
def isSafe (marks : String) (c : Char) : Bool :=
  0x20 ≤ c.toNat && c.toNat ≤ 0x7E && !marks.toList.contains c

/-- What has to be escaped in a fragment. -/
def fragmentMarks : String := " \"<>\x60"

/-- What has to be escaped in a query. -/
def queryMarks : String := " \"#<>"

/-- What has to be escaped in a path. -/
def pathMarks : String := queryMarks ++ "?\x60\x7b\x7d"

/-- What has to be escaped in a user. -/
def userMarks : String := pathMarks ++ "/;=@[\\]^|"

/-- What has to be escaped in a host. -/
def hostMarks : String := " #/:<>?@[]^"

/-- A part with escapes for what cannot stand for itself. -/
def escaped (marks : String) (s : List Char) : Except Fault (List Char) :=
  (Text.Percent.escape (isSafe marks) s).mapError .unencodable

/-- The normal form of a host.  One in brackets loses them. -/
def hostOf (host : List Char) : Except Fault (List Char) :=
  if host.isEmpty then .ok []
  else if isDigitRuns 3 host then
    if isIPv4 host then .ok host else .error (.fourParts (.ofList host))
  else if host.head? = some '[' && host.getLast? = some ']' then
    let inner := (host.drop 1).dropLast
    if isIPv6 inner then .ok inner else .error (.eightParts (.ofList host))
  else if host.all fun c => c.toNat < 0x80 then escaped hostMarks (host.map Char.toLower)
  else match HostName.write? host with
    | some name => .ok name
    | none => .error (.hostName (.ofList host))

/-! ## Paths -/

/-- The segments of a path without dots; those before are in `kept`, last first.  The first
one stays if it is empty. -/
def withoutDots : List (List Char) → List (List Char) → List (List Char)
  | [], kept => kept.reverse
  | s :: r, kept =>
    if s = ['.'] then withoutDots r kept
    else if s = ['.', '.'] then withoutDots r (if kept = [[]] then kept else kept.drop 1)
    else withoutDots r (s :: kept)

/-- A path without segments that are dots. -/
def plainPath (path : List Char) : List Char :=
  Text.joinWith ['/'] (withoutDots (Text.splitOn '/' path) [])

/-! ## Normal forms -/

/-- The address with some parts. -/
def ofParts (p : Parts) : Except Fault WebAddress := do
  let (user, host, port) := serverParts p.server
  let user ← escaped userMarks user
  let host ← hostOf host
  let port ← portOf p.scheme port
  let hasServer := !user.isEmpty || !host.isEmpty || port.isSome
  if hasServer && !p.path.isEmpty && p.path.head? ≠ some '/' then throw .unrootedPath
  let isPathOnly := p.scheme.isEmpty && !hasServer
  if isPathOnly && ['/', '/'].isPrefixOf p.path then throw .doubleSlash
  if isPathOnly && p.path.head? = some ':' then throw .colonPath
  let path ← escaped pathMarks (if isPathOnly then p.path else plainPath p.path)
  let query ← p.query.mapM (escaped queryMarks)
  let fragment ← p.fragment.mapM (escaped fragmentMarks)
  return { scheme := p.scheme.map Char.toLower, user, host, port, path, query, fragment }

/-- Whether a character cannot be seen, and is ASCII. -/
def isUnprintable (c : Char) : Bool := c.toNat < 0x20 || c.toNat = 0x7F

/-- Checks that all characters of a text can be seen, as far as they are ASCII. -/
def checkPrintable (s : List Char) : Except Fault Unit :=
  match s.zipIdx.find? fun p => isUnprintable p.1 with
  | some (c, position) => .error (.unprintable c position)
  | none => .ok ()

/-- The longest text that can be an address. -/
def maxLength : Nat := 65536

/-- The address that a text stands for. -/
def ofText (s : List Char) : Except Fault WebAddress := do
  if maxLength < s.length then throw .tooLong
  checkPrintable s
  ofParts (Parts.ofText s)

/-! ## Text -/

/-- A host with the brackets that it needs if it has colons. -/
def bracketed (host : List Char) : List Char :=
  if host.contains ':' then ['['] ++ host ++ [']'] else host

/-- The text of the server of an address. -/
def server (a : WebAddress) : List Char :=
  (if a.user.isEmpty then [] else a.user ++ ['@']) ++ bracketed a.host
    ++ (match a.port with
      | some n => ':' :: (toString n).toList
      | none => [])

/-- An optional part with the mark before it. -/
def marked (mark : Char) : Option (List Char) → List Char
  | some s => mark :: s
  | none => []

/-- The text of an address. -/
def text (a : WebAddress) : List Char :=
  (if a.scheme.isEmpty then [] else a.scheme ++ [':'])
    ++ (if a.server.isEmpty then [] else ['/', '/'] ++ a.server) ++ a.path ++ marked '?' a.query
    ++ marked '#' a.fragment

/-- The parts that the text of an address has. -/
def parts (a : WebAddress) : Parts := ⟨a.scheme, a.server, a.path, a.query, a.fragment⟩

/-! ## Relative addresses -/

/-- Whether an address says by itself where it is. -/
def isWhole (a : WebAddress) : Bool := !a.scheme.isEmpty && !a.host.isEmpty

/-- The address that is asked for: one that does not say where it is has a path only. -/
def asked (a : WebAddress) : WebAddress :=
  if a.isWhole then a else { path := '/' :: a.path.dropWhile (· = '/'), query := a.query }

/-- An address at the host of another one. -/
def withHostOf (base a : WebAddress) : Except Fault WebAddress :=
  ofParts { a with host := base.host }.parts

/-- An address with the fragment of another one, which has to be printable. -/
def withFragmentOf (base a : WebAddress) : Except Fault WebAddress := do
  let fragment := Text.Percent.unescape (base.fragment.getD [])
  if fragment.isEmpty || !(a.fragment.getD []).isEmpty then return a
  checkPrintable fragment
  ofParts { a.parts with fragment := some fragment }

/-- Why a reader cannot be sent on. -/
inductive RedirectFault where
  /-- What the server names is no address. -/
  | location (fault : Fault)
  /-- What comes of it is no address. -/
  | result (fault : Fault)
  deriving DecidableEq, Repr

/-- The address that a reader is sent on to. -/
def redirect (a : WebAddress) (location : List Char) : Except RedirectFault WebAddress := do
  let next ← (ofText location).mapError .location
  let next ← if !next.scheme.isEmpty && next.host.isEmpty
    then (withHostOf a next).mapError .result else pure next
  let next ← if next.isWhole then pure next
    else match Reference.Address.join a.text next.text with
      | .ok joined => (ofText joined).mapError .result
      | .error _ => pure next
  (withFragmentOf a next).mapError .result

end WebAddress

end OpenApiClient.Source
