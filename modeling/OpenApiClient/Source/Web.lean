/-
What a web server answers.

The program asks for a document and nothing else, so the web is a table from addresses to
replies.  A page has headers beside its content.  They say how the content is packed, and in
which charset its text is written, and they can send the reader on to another address, but
not for ever.

A page is unpacked as soon as it comes, whatever its status is.  Its text is read only when it
is asked for.
-/

import OpenApiClient.Compression.Wrapped
import OpenApiClient.Source.MediaType
import OpenApiClient.Source.WebAddress

set_option autoImplicit false

namespace OpenApiClient.Source

/-! ## Replies -/

/-- The headers of a page, with their names. -/
abbrev Headers := List (String × String)

/-- What comes back for an address. -/
inductive Reply where
  /-- A page with its status, its headers and its content. -/
  | page (status : Nat) (headers : Headers) (content : String)
  /-- No page came back. -/
  | failed (reason : String)
  deriving DecidableEq, Repr

/-- The replies for addresses; there is none for any other address. -/
abbrev Web := List (String × Reply)

/-- A page that has come back, with its content unpacked. -/
structure Page where
  status : Nat
  headers : Headers
  content : List UInt8

/-- Why there is no text for an address. -/
inductive WebFault where
  /-- No page comes back. -/
  | failed (reason : String)
  | address (fault : WebAddress.Fault)
  /-- A page came back for an address without a scheme. -/
  | noScheme (address : String)
  /-- A header or the content has no bytes. -/
  | unencodable (fault : Text.EncodeFault)
  | mediaType (fault : MediaType.Fault)
  | charset (fault : Text.CharsetFault)
  deriving DecidableEq, Repr

namespace WebFault

/-- What a fault says. -/
def message : WebFault → String
  | .failed reason => reason
  | .address f => f.message
  | .noScheme s => "unknown url type: " ++ Text.quoted s
  | .unencodable f => f.message
  | .mediaType .unordered => ""
  | .mediaType (.name f) => f.message
  | .charset f => f.message

/-- Whether a fault is one of a wrong value, and not a stop of the program. -/
def isWrongValue : WebFault → Bool
  | .address (.unencodable _) => true
  | .address _ => false
  | .mediaType .unordered => false
  | .charset .bytesOnly | .charset .textOnly => false
  | _ => true

end WebFault

/-! ## Headers -/

/-- The values of the headers with a name, whose case does not count. -/
def Headers.all (headers : Headers) (name : String) : List String :=
  (headers.filter fun h => h.1.toLower = name).map (·.2)

/-- The value of the headers with a name, if there are any. -/
def Headers.get? (headers : Headers) (name : String) : Option String :=
  match headers.all name with
  | [] => none
  | values => some (", ".intercalate values)

/-- The ways in which the content is packed, in the order in which this was done. -/
def Headers.packings (headers : Headers) : List (List Char) :=
  ((headers.all "content-encoding").flatMap fun v => Text.splitOn ',' v.toList).map fun s =>
    (Text.trim s).map Char.toLower

/-! ## Pages -/

/-- Content unpacked in one way; a way that is not known leaves it as it is.  Deflated data
may come without its wrapping. -/
def unpackOnce (packing : List Char) (data : List UInt8) :
    Except Compression.Fault (List UInt8) :=
  if packing = "gzip".toList then Compression.longWrapped.unpack data
  else if packing = "deflate".toList then
    match Compression.shortWrapped.unpack data with
    | .ok unpacked => .ok unpacked
    | .error _ => Compression.deflated.unpack data
  else .ok data

/-- Content unpacked in all ways, the last one first. -/
def unpack (packings : List (List Char)) (data : List UInt8) :
    Except Compression.Fault (List UInt8) :=
  packings.reverse.foldlM (fun data packing => unpackOnce packing data) data

/-- Checks that all headers are ASCII. -/
def checkHeaders (headers : Headers) : Except WebFault Unit :=
  match (headers.flatMap fun h => [h.1, h.2]).findSome? fun s =>
      Text.encodeFault? .ascii s.toList with
  | some f => .error (.unencodable f)
  | none => .ok ()

/-- The page that comes back with some content. -/
def Page.receive (status : Nat) (headers : Headers) (content : String) :
    Except WebFault Page := do
  checkHeaders headers
  if let some f := Text.encodeFault? .utf8 content.toList then throw (.unencodable f)
  match unpack headers.packings content.toUTF8.toList with
  | .ok content => return { status, headers, content }
  | .error f => throw (.failed ("Error -3 while decompressing data: " ++ f.message))

/-- The text of a page.  One without content has no charset. -/
def Page.text (p : Page) : Except WebFault (List Char) := do
  if p.content.isEmpty then return []
  let charset ← (((p.headers.get? "content-type").map MediaType.charset).getD (.ok .utf8)).mapError
    .mediaType
  (charset.read p.content).mapError .charset

/-! ## Requests -/

/-- Why no page comes back from a server that does not exist. -/
def refused : String := "connection refused"

/-- How many times a reader is sent on. -/
def maxRedirects : Nat := 20

/-- Why a page is not looked for any longer. -/
def tooManyRedirects : String := "Exceeded maximum allowed redirects."

/-- Whether a page with a status sends on. -/
def isRedirect (status : Nat) : Bool := [301, 302, 303, 307, 308].contains status

/-- Whether a page with a status is what was asked for. -/
def isSuccess (status : Nat) : Bool := 200 ≤ status && status < 300

/-- The fault of being sent on to no address. -/
def WebFault.ofRedirect : WebAddress.RedirectFault → WebFault
  | .location f => .failed ("Invalid URL in location header: " ++ f.message ++ ".")
  | .result f => .address f

/-- The page that comes back for an address. -/
def Web.reply (web : Web) (address : WebAddress) : Except WebFault Page := do
  let text := String.ofList address.text
  match web.lookup text with
  | none => throw (.failed refused)
  | some (.failed reason) => throw (.failed reason)
  | some (.page status headers content) =>
    let page ← Page.receive status headers content
    if address.scheme.isEmpty then throw (.noScheme text)
    return page

/-- The page for an address, asked for at most as many times as `asks` says. -/
def Web.askFrom (web : Web) : Nat → WebAddress → Except WebFault Page
  | 0, _ => .error (.failed tooManyRedirects)
  | asks + 1, address => do
    let page ← web.reply address
    match isRedirect page.status, page.headers.get? "location" with
    | true, some location =>
      web.askFrom asks (← (address.redirect location.toList).mapError .ofRedirect)
    | _, _ => return page

/-- The page for an address. -/
def Web.ask (web : Web) (address : String) : Except WebFault Page := do
  let address ← (WebAddress.ofText address.toList).mapError .address
  web.askFrom (maxRedirects + 1) address.asked

end OpenApiClient.Source
