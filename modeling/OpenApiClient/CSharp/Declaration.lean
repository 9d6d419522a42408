/-
Declarations of the generated code, and how they are written.

Each structure is one syntactic form: an attribute, a documentation comment, a property,
a class, an enumeration with its members, a method with its parameters, an interface.
`render` gives its text, without a line end after the last line.  A form with a body puts
its braces on lines of their own, moves the body one level to the right, and leaves one
empty line between two members.
-/

import OpenApiClient.CSharp.Layout
import OpenApiClient.Text.Blank

set_option autoImplicit false

namespace OpenApiClient.CSharp

/-! ## Shared layout -/

/-- Lines, one below the other; parts that are empty take no line. -/
def stack (parts : List String) : String := "\n".intercalate (parts.filter (· ≠ ""))

/-- A header with members in braces below it. -/
def block (header : String) (members : List String) : List String :=
  let body := "\n\n".intercalate members
  [header, "\x7b", if body = "" then "" else indent 1 body, "\x7d"]

/-! ## Attributes -/

/-- An attribute with the texts of its arguments. -/
structure Attribute where
  name : String
  arguments : List String := []
  deriving DecidableEq, Repr, Inhabited

/-- The text of an attribute. -/
def Attribute.render (a : Attribute) : String :=
  if a.arguments.isEmpty then "[" ++ a.name ++ "]"
  else "[" ++ a.name ++ "(" ++ ", ".intercalate a.arguments ++ ")]"

/-! ## Documentation comments -/

/-- What a comment says about one parameter. -/
structure ParamNote where
  name : String
  text : String
  deriving DecidableEq, Repr, Inhabited

/-- A documentation comment. -/
structure DocComment where
  summary : Option String := none
  params : List ParamNote := []
  returns : Option String := none
  deriving DecidableEq, Repr, Inhabited

/-- The form of a character inside a documentation comment, where three characters would
be taken for markup. -/
def escapeMarkup (c : Char) : List Char :=
  if c = '&' then "&amp;".toList
  else if c = '<' then "&lt;".toList
  else if c = '>' then "&gt;".toList
  else [c]

/-- A text inside a documentation comment. -/
def markup (s : List Char) : List Char := s.flatMap escapeMarkup

/-- One line of a summary: the mark of a comment, and the text of the line without the
blanks around it. -/
def summaryLine (line : List Char) : String :=
  match markup (Text.trim line) with
  | [] => "///"
  | s => .ofList ("/// ".toList ++ s)

namespace DocComment

/-- Whether a comment says nothing. -/
def isEmpty (d : DocComment) : Bool :=
  d.summary.getD "" == "" && d.params.isEmpty && d.returns.getD "" == ""

/-- The lines of the summary. -/
def summaryLines (d : DocComment) : List String :=
  match d.summary.getD "" with
  | "" => []
  | s => "/// <summary>" :: (Text.lines (Text.trim s.toList)).map summaryLine
      ++ ["/// </summary>"]

/-- The line about one parameter. -/
def paramLine (p : ParamNote) : String :=
  "/// <param name=\"" ++ p.name ++ "\">" ++ .ofList (markup (Text.trim p.text.toList))
    ++ "</param>"

/-- The line about the result. -/
def returnsLines (d : DocComment) : List String :=
  match d.returns.getD "" with
  | "" => []
  | s => ["/// <returns>" ++ .ofList (markup s.toList) ++ "</returns>"]

/-- The text of a comment. -/
def render (d : DocComment) : String :=
  "\n".intercalate (d.summaryLines ++ d.params.map paramLine ++ d.returnsLines)

end DocComment

/-- The text of a comment that may be absent. -/
def renderDoc (d : Option DocComment) : String :=
  match d with
  | none => ""
  | some d => if d.isEmpty then "" else d.render

/-! ## Classes -/

/-- A property with a getter and a setter. -/
structure Property where
  name : String
  type : String
  attributes : List Attribute := []
  accessibility : String := "public"
  doc : Option DocComment := none
  deriving DecidableEq, Repr, Inhabited

/-- The text of a property. -/
def Property.render (p : Property) : String :=
  stack (renderDoc p.doc :: p.attributes.map Attribute.render
    ++ [p.accessibility ++ " " ++ p.type ++ " " ++ p.name ++ " \x7b get; set; \x7d"])

/-- A partial class. -/
structure ClassDecl where
  name : String
  accessibility : String := "public"
  bases : List String := []
  attributes : List Attribute := []
  properties : List Property := []
  doc : Option DocComment := none
  deriving DecidableEq, Repr, Inhabited

/-- The text of a class. -/
def ClassDecl.render (c : ClassDecl) : String :=
  let bases := if c.bases.isEmpty then "" else " : " ++ ", ".intercalate c.bases
  stack (renderDoc c.doc :: c.attributes.map Attribute.render
    ++ block (c.accessibility ++ " partial class " ++ c.name ++ bases)
      (c.properties.map Property.render))

/-! ## Enumerations -/

/-- A member of an enumeration: its name, the wire text that it stands for, and its
ordinal. -/
structure EnumMember where
  name : String
  value : String
  ordinal : Int := 0
  attributes : List Attribute := []
  deriving DecidableEq, Repr, Inhabited

/-- The text of a member. -/
def EnumMember.render (m : EnumMember) : String :=
  "\n".intercalate (m.attributes.map Attribute.render ++ [m.name ++ s!" = {m.ordinal},"])

/-- An enumeration. -/
structure EnumDecl where
  name : String
  accessibility : String := "public"
  attributes : List Attribute := []
  members : List EnumMember := []
  doc : Option DocComment := none
  deriving DecidableEq, Repr, Inhabited

/-- The text of an enumeration. -/
def EnumDecl.render (e : EnumDecl) : String :=
  stack (renderDoc e.doc :: e.attributes.map Attribute.render
    ++ block (e.accessibility ++ " enum " ++ e.name) (e.members.map EnumMember.render))

/-! ## Interfaces -/

/-- A parameter of a method. -/
structure MethodParam where
  name : String
  type : String
  attributes : List Attribute := []
  default : Option String := none
  deriving DecidableEq, Repr, Inhabited

/-- The text of a parameter. -/
def MethodParam.render (p : MethodParam) : String :=
  String.join (p.attributes.map fun a => a.render ++ " ") ++ p.type ++ " " ++ p.name
    ++ (match p.default.getD "" with
      | "" => ""
      | d => " = " ++ d)

/-- The signature of a method. -/
structure MethodSig where
  name : String
  result : String := "Task"
  params : List MethodParam := []
  attributes : List Attribute := []
  doc : Option DocComment := none
  deriving DecidableEq, Repr, Inhabited

/-- The text of a signature. -/
def MethodSig.render (m : MethodSig) : String :=
  stack (renderDoc m.doc :: m.attributes.map Attribute.render
    ++ [m.result ++ " " ++ m.name ++ "(" ++ ", ".intercalate (m.params.map MethodParam.render)
      ++ ");"])

/-- A partial interface. -/
structure InterfaceDecl where
  name : String
  accessibility : String := "public"
  attributes : List Attribute := []
  methods : List MethodSig := []
  doc : Option DocComment := none
  deriving DecidableEq, Repr, Inhabited

/-- The text of an interface. -/
def InterfaceDecl.render (i : InterfaceDecl) : String :=
  stack (renderDoc i.doc :: i.attributes.map Attribute.render
    ++ block (i.accessibility ++ " partial interface " ++ i.name)
      (i.methods.map MethodSig.render))

end OpenApiClient.CSharp
