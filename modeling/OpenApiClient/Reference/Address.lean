/-
The addresses that references are made of.

An address has a scheme, a host, a path, a query and a fragment, and a part that is not there
is the empty text.  So an address is taken apart and put together again without the marks of
its empty parts, and two addresses that differ in these marks only name the same document:
`Address.normal` is the form that they have in common.

Schemes differ in what they allow.  Only in some of them is there a host at all, and only in
some can an address be given relative to another one.
-/

import OpenApiClient.Source.Host
import OpenApiClient.Text.Quoted

set_option autoImplicit false

namespace OpenApiClient.Reference

/-! ## Faults -/

/-- Why a text is no address. -/
inductive AddressFault where
  /-- A bracket around the host has no partner. -/
  | openBracket
  /-- The host in brackets is of a later form, and not well formed. -/
  | laterHost
  /-- The host in brackets is no number. -/
  | notNumeric (host : String)
  /-- The host in brackets has four parts, which need no brackets. -/
  | needlessBrackets
  /-- The host has a character that looks like a mark between the parts. -/
  | lookalike (host : String)
  deriving DecidableEq, Repr

/-- What a fault says. -/
def AddressFault.message : AddressFault → String
  | .openBracket => "Invalid IPv6 URL"
  | .laterHost => "IPvFuture address is invalid"
  | .notNumeric host => Text.quoted host ++ " does not appear to be an IPv4 or IPv6 address"
  | .needlessBrackets => "An IPv4 address cannot be in brackets"
  | .lookalike host =>
    "netloc '" ++ host ++ "' contains invalid characters under NFKC normalization"

/-! ## Parts -/

/-- The parts of an address. -/
structure Address where
  scheme : List Char := []
  host : List Char := []
  path : List Char := []
  query : List Char := []
  fragment : List Char := []
  deriving DecidableEq, Repr

namespace Address

/-- A text without the characters that an address cannot hold: controls and blanks at its
start, and tabs and line ends anywhere. -/
def clean (s : List Char) : List Char :=
  (s.dropWhile fun c => c.toNat ≤ 0x20).filter fun c => c ≠ '\t' ∧ c ≠ '\r' ∧ c ≠ '\n'

/-- A text cut at the first separator, which belongs to neither part. -/
def cut (sep : Char) (s : List Char) : List Char × List Char :=
  (Text.splitFirst? sep s).getD (s, [])

/-- Whether a text is the name of a scheme. -/
def isScheme (s : List Char) : Bool :=
  match s with
  | c :: r => c.isAlpha && r.all fun x => x.isAlphanum || x = '+' || x = '-' || x = '.'
  | [] => false

/-- A text cut after its scheme; without one it has the scheme `given`. -/
def cutScheme (given s : List Char) : List Char × List Char :=
  match Text.splitFirst? ':' s with
  | some (before, after) =>
    if isScheme before then (before.map Char.toLower, after) else (given, s)
  | none => (given, s)

/-- The characters that become one of the marks between the parts when a host is brought into
its usual form. -/
def lookalikes : List Nat := [
  0x2047, 0x2048, 0x2049, 0x2100, 0x2101, 0x2105, 0x2106, 0x2A74, 0xFE13, 0xFE16, 0xFE55,
  0xFE56, 0xFE5F, 0xFE6B, 0xFF03, 0xFF0F, 0xFF1A, 0xFF1F, 0xFF20]

/-- Whether a text is a host of a later form: a version after the letter, and anything after a
point. -/
def isLaterHost (s : List Char) : Bool :=
  match s with
  | 'v' :: r =>
    let version := r.takeWhile Text.isHexDigit
    match r.drop version.length with
    | '.' :: _ :: _ => !version.isEmpty
    | _ => false
  | _ => false

/-- Checks a host in brackets. -/
def checkBracketed (host : List Char) : Except AddressFault Unit :=
  if host.head? = some 'v' then
    if isLaterHost host then .ok () else .error .laterHost
  else if Source.isIPv4 host then .error .needlessBrackets
  else if Source.isIPv6 host then .ok ()
  else .error (.notNumeric (.ofList host))

/-- Checks the brackets of a host. -/
def checkBrackets (host : List Char) : Except AddressFault Unit :=
  match host.contains '[', host.contains ']' with
  | false, false => .ok ()
  | true, true => checkBracketed (cut ']' (cut '[' host).2).1
  | _, _ => .error .openBracket

/-- The host at the start of a text, after two slashes, and what follows it. -/
def cutHost (s : List Char) : Except AddressFault (List Char × List Char) :=
  match s with
  | '/' :: '/' :: r => do
    let isEnd (c : Char) : Bool := c = '/' || c = '?' || c = '#'
    let host := r.takeWhile (!isEnd ·)
    checkBrackets host
    return (host, r.dropWhile (!isEnd ·))
  | _ => .ok ([], s)

/-- The parts of a text that has the scheme `given` if it names none. -/
def ofText (given s : List Char) : Except AddressFault Address := do
  let (scheme, rest) := cutScheme given (clean s)
  let (host, rest) ← cutHost rest
  let (rest, fragment) := cut '#' rest
  let (path, query) := cut '?' rest
  if host.any fun c => lookalikes.contains c.toNat then throw (.lookalike (.ofList host))
  return { scheme, host, path, query, fragment }

/-! ## Text -/

/-- The schemes in which there is a host. -/
def hostSchemes : List String := ["ftp", "http", "gopher", "nntp", "telnet", "imap", "wais",
  "file", "mms", "https", "shttp", "snews", "prospero", "rtsp", "rtsps", "rtspu", "rsync", "svn",
  "svn+ssh", "sftp", "nfs", "git", "git+ssh", "ws", "wss"]

/-- Whether a scheme is one of some, or is not there. -/
def schemeIn (names : List String) (scheme : List Char) : Bool :=
  scheme.isEmpty || names.contains (.ofList scheme)

/-- A part with what stands before it, unless it is empty. -/
def marked (before part : List Char) : List Char := if part.isEmpty then [] else before ++ part

/-- The host and the path.  Where there can be a host, the path starts with a slash. -/
def location (a : Address) : List Char :=
  let hasHost := !a.host.isEmpty || (!a.scheme.isEmpty && schemeIn hostSchemes a.scheme)
    || ['/', '/'].isPrefixOf a.path
  if !hasHost then a.path
  else ['/', '/'] ++ a.host
    ++ (if a.path.isEmpty || a.path.head? = some '/' then a.path else '/' :: a.path)

/-- The text of an address. -/
def text (a : Address) : List Char :=
  (if a.scheme.isEmpty then [] else a.scheme ++ [':']) ++ a.location ++ marked ['?'] a.query
    ++ marked ['#'] a.fragment

/-- The form that an address has in common with those that name the same document. -/
def normal (s : List Char) : Except AddressFault (List Char) := do return (← ofText [] s).text

/-! ## Parameters of a path -/

/-- The schemes in which the last segment of a path can have parameters. -/
def parameterSchemes : List String := ["ftp", "hdl", "prospero", "http", "imap", "https",
  "shttp", "rtsp", "rtsps", "rtspu", "sip", "sips", "mms", "sftp", "tel"]

/-- A path cut at the first semicolon in its last segment. -/
def cutParameters (path : List Char) : List Char × List Char :=
  let last := (path.reverse.takeWhile (· ≠ '/')).reverse
  let (name, parameters) := cut ';' last
  (path.take (path.length - last.length) ++ name, parameters)

/-- The path of an address and the parameters of its last segment. -/
def pathParts (a : Address) : List Char × List Char :=
  if schemeIn parameterSchemes a.scheme then cutParameters a.path else (a.path, [])

/-- An address with a path and the parameters of its last segment. -/
def withPath (a : Address) (path parameters : List Char) : Address :=
  { a with path := path ++ marked [';'] parameters }

/-- An address and its fragment apart. -/
def splitFragment (s : List Char) : Except AddressFault (List Char × List Char) := do
  if !s.contains '#' then return (s, [])
  let a ← ofText [] s
  let (path, parameters) := a.pathParts
  return (({ a with fragment := [] }.withPath path parameters).text, a.fragment)

/-! ## Relative addresses -/

/-- The schemes in which an address can be relative to another one. -/
def relativeSchemes : List String := ["ftp", "http", "gopher", "nntp", "imap", "wais", "file",
  "https", "shttp", "mms", "prospero", "rtsp", "rtsps", "rtspu", "sftp", "svn", "svn+ssh", "ws",
  "wss"]

/-- The segments of a path without dots; those before are in `kept`, last first. -/
def withoutDots : List (List Char) → List (List Char) → List (List Char)
  | [], kept => kept.reverse
  | s :: r, kept =>
    if s = ['.', '.'] then withoutDots r (kept.drop 1)
    else if s = ['.'] then withoutDots r kept
    else withoutDots r (s :: kept)

/-- The segments of a list but for the empty ones between the first and the last. -/
def withoutEmpty (segments : List (List Char)) : List (List Char) :=
  segments.take 1 ++ ((segments.drop 1).dropLast.filter fun s => !s.isEmpty)
    ++ (segments.drop 1).getLast?.toList

/-- A path seen from another one. -/
def joinPaths (base path : List Char) : List Char :=
  let own := Text.splitOn '/' path
  let above := Text.splitOn '/' base
  let above := if above.getLast? = some [] then above else above.dropLast
  let segments := if path.head? = some '/' then own else withoutEmpty (above ++ own)
  let ended := segments.getLast? = some ['.'] || segments.getLast? = some ['.', '.']
  let kept := withoutDots segments [] ++ (if ended then [[]] else [])
  let joined := Text.joinWith ['/'] kept
  if joined.isEmpty then ['/'] else joined

/-- An address seen from another one. -/
def join (base s : List Char) : Except AddressFault (List Char) := do
  if base.isEmpty then return s
  if s.isEmpty then return base
  let b ← ofText [] base
  let a ← ofText b.scheme s
  if a.scheme ≠ b.scheme || !schemeIn relativeSchemes a.scheme then return s
  let (path, parameters) := a.pathParts
  let a := a.withPath path parameters
  if schemeIn hostSchemes a.scheme && !a.host.isEmpty then return a.text
  let a := if schemeIn hostSchemes a.scheme then { a with host := b.host } else a
  let (basePath, baseParameters) := b.pathParts
  if path.isEmpty && parameters.isEmpty then
    let a := a.withPath basePath baseParameters
    return (if a.query.isEmpty then { a with query := b.query } else a).text
  return (a.withPath (joinPaths basePath path) parameters).text

end Address

end OpenApiClient.Reference
