/-
Declarations read from plain objects.

A declaration can be given as data: an object with the fields of the structure.  The
fields are checked as settings are.  One field is looser than its structure: the rows
about parameters of a documentation comment may be of any length and hold any values.
Such a comment is well formed as data, and whether it can be written is settled row by
row afterwards, in the order in which the parts of a declaration are written: a class
writes its properties before its own comment.
-/

import OpenApiClient.CSharp.Declaration
import OpenApiClient.Validation.Checked
import OpenApiClient.Value.Display

set_option autoImplicit false

namespace OpenApiClient.CSharp

open Validation

/-! ## Comments -/

/-- Why a comment that is well formed as data cannot be written. -/
inductive RowFault where
  /-- A row has not exactly two values. -/
  | length
  /-- What a row says about its parameter is no text. -/
  | notText
  deriving DecidableEq, Repr

/-- Something that can be written, or the reason why not. -/
abbrev Writable (α : Type) := Except RowFault α

/-- A row about one parameter. -/
def ParamNote.ofRow (row : List Value) : Writable ParamNote :=
  match row with
  | [name, .scalar (.text s)] => .ok ⟨name.display, s⟩
  | [_, _] => .error .notText
  | _ => .error .length

/-- A comment from its checked fields. -/
def DocComment.ofRows (summary : Option String) (rows : List (List Value))
    (returns : Option String) : Writable DocComment := do
  return ⟨summary, ← rows.mapM ParamNote.ofRow, returns⟩

/-- Reads a comment. -/
def DocComment.check (ms : Members) : Checked (Writable DocComment) :=
  DocComment.ofRows
    <$> withDefault ms "summary" none (optional text)
    <*> withDefault ms "params" [] (list row)
    <*> withDefault ms "returns" none (optional text)

/-- Reads a comment that may be absent. -/
def docField (ms : Members) : Checked (Writable (Option DocComment)) :=
  (fun d => match d with
    | none => .ok none
    | some w => some <$> w)
  <$> withDefault ms "doc" none (optional (object DocComment.check))

/-! ## Parts of declarations -/

/-- Reads an attribute. -/
def Attribute.check (ms : Members) : Checked Attribute :=
  Attribute.mk <$> required ms "name" text <*> withDefault ms "arguments" [] (list text)

/-- Reads the attributes of a declaration. -/
def attributesField (ms : Members) : Checked (List Attribute) :=
  withDefault ms "attributes" [] (list (object Attribute.check))

/-- Reads the accessibility of a declaration. -/
def accessibilityField (ms : Members) : Checked String :=
  withDefault ms "accessibility" "public" text

/-- Reads a list of parts that can each be written or not; the first that cannot
decides. -/
def partsField {α : Type} (ms : Members) (name : String)
    (check : Members → Checked (Writable α)) : Checked (Writable (List α)) :=
  (fun ws => ws.mapM id) <$> withDefault ms name [] (list (object check))

/-! ## Declarations -/

/-- Reads a property. -/
def Property.check (ms : Members) : Checked (Writable Property) :=
  (fun name type attributes accessibility doc => do
    return ⟨name, type, attributes, accessibility, ← doc⟩)
  <$> required ms "name" text
  <*> required ms "var_type" text
  <*> attributesField ms
  <*> accessibilityField ms
  <*> docField ms

/-- Reads a class. -/
def ClassDecl.check (ms : Members) : Checked (Writable ClassDecl) :=
  (fun name accessibility bases attributes properties doc => do
    let properties ← properties
    return ⟨name, accessibility, bases, attributes, properties, ← doc⟩)
  <$> required ms "name" text
  <*> accessibilityField ms
  <*> withDefault ms "inherits" [] (list text)
  <*> attributesField ms
  <*> partsField ms "properties" Property.check
  <*> docField ms

/-- Reads a member of an enumeration. -/
def EnumMember.check (ms : Members) : Checked EnumMember :=
  EnumMember.mk
  <$> required ms "name" text
  <*> required ms "value" text
  <*> withDefault ms "order" 0 int
  <*> attributesField ms

/-- Reads an enumeration. -/
def EnumDecl.check (ms : Members) : Checked (Writable EnumDecl) :=
  (fun name accessibility attributes members doc => do
    return ⟨name, accessibility, attributes, members, ← doc⟩)
  <$> required ms "name" text
  <*> accessibilityField ms
  <*> attributesField ms
  <*> withDefault ms "members" [] (list (object EnumMember.check))
  <*> docField ms

/-- Reads a parameter of a method. -/
def MethodParam.check (ms : Members) : Checked MethodParam :=
  MethodParam.mk
  <$> required ms "name" text
  <*> required ms "var_type" text
  <*> attributesField ms
  <*> withDefault ms "default" none (optional text)

/-- Reads a method. -/
def MethodSig.check (ms : Members) : Checked (Writable MethodSig) :=
  (fun name result params attributes doc => do
    return ⟨name, result, params, attributes, ← doc⟩)
  <$> required ms "name" text
  <*> withDefault ms "response" "Task" text
  <*> withDefault ms "parameters" [] (list (object MethodParam.check))
  <*> attributesField ms
  <*> docField ms

/-- Reads an interface. -/
def InterfaceDecl.check (ms : Members) : Checked (Writable InterfaceDecl) :=
  (fun name accessibility attributes methods doc => do
    let methods ← methods
    return ⟨name, accessibility, attributes, methods, ← doc⟩)
  <$> required ms "name" text
  <*> accessibilityField ms
  <*> attributesField ms
  <*> partsField ms "methods" MethodSig.check
  <*> docField ms

/-! ## By kind -/

/-- A kind of declaration. -/
inductive Kind where
  | attribute
  | docComment
  | property
  | classDecl
  | enumMember
  | enumDecl
  | methodParam
  | methodSig
  | interfaceDecl
  deriving DecidableEq, Repr

/-- The text of a declaration of a kind that is given as data. -/
def Kind.write (kind : Kind) (ms : Members) : Checked (Writable String) :=
  match kind with
  | .attribute => (fun a => .ok a.render) <$> Attribute.check ms
  | .docComment => (fun w => DocComment.render <$> w) <$> DocComment.check ms
  | .property => (fun w => Property.render <$> w) <$> Property.check ms
  | .classDecl => (fun w => ClassDecl.render <$> w) <$> ClassDecl.check ms
  | .enumMember => (fun m => .ok m.render) <$> EnumMember.check ms
  | .enumDecl => (fun w => EnumDecl.render <$> w) <$> EnumDecl.check ms
  | .methodParam => (fun p => .ok p.render) <$> MethodParam.check ms
  | .methodSig => (fun w => MethodSig.render <$> w) <$> MethodSig.check ms
  | .interfaceDecl => (fun w => InterfaceDecl.render <$> w) <$> InterfaceDecl.check ms

end OpenApiClient.CSharp
