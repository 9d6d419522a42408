/-
Wire texts in generated code.

What the other side knows by a text, the generated code has as a literal inside an attribute: the
name of a property, the value of a member of an enumeration, the path of an operation, the name of
a parameter.  `Wire` is such a text with its place, and `Shows` says that some wires stand in a
text one after another, each in its place.  A declaration is put together of smaller texts and is
moved to the right where it is nested, and `Shows` goes along with both, so that it is settled for
each kind of declaration from what its parts show.

Whether the literal of a wire is read as the text that it is written for is a matter of the wire
alone (`Wire.readLiteral_code_iff`).
-/
import OpenApiClient.Generate.Interface
import OpenApiClient.Proofs.Literals
import Mathlib.Data.List.Forall2

set_option autoImplicit false

namespace OpenApiClient.Generate

open CSharp

/-! ## Wires and their places -/

/-- Where a wire text stands in generated code. -/
inductive Place where
  /-- The name of a property. -/
  | property
  /-- The value of a member of an enumeration. -/
  | member
  /-- The path of an operation. -/
  | path (verb : Verb)
  /-- The name of a parameter that is sent as a header. -/
  | header
  /-- The name of a parameter that has another name in the code. -/
  | alias
  deriving DecidableEq, Repr

namespace Place

/-- The name of the attribute. -/
def markName : Place → String
  | .property => jsonNameAttribute
  | .member => enumMemberAttribute
  | .path verb => verb.attribute?.getD ""
  | .header => "Header"
  | .alias => "AliasAs"

/-- What stands in the attribute before the literal. -/
def label : Place → String
  | .member => "Value = "
  | _ => ""

/-- The code of the attribute before the literal. -/
def opening (p : Place) : List Char := '[' :: (p.markName ++ "(" ++ p.label).toList

theorem newline_not_mem_opening (p : Place) : '\n' ∉ p.opening := by
  cases p with
  | path verb => cases verb <;> decide
  | _ => decide

end Place

/-- A text that the other side knows, and its place in the code. -/
structure Wire where
  place : Place
  text : String
  deriving DecidableEq, Repr

namespace Wire

/-- The literal of a wire. -/
def literal (w : Wire) : String :=
  match w.place with
  | .member => verbatimLiteral w.text
  | _ => plainLiteral w.text

/-- The attribute that a wire stands in. -/
def mark (w : Wire) : Attribute := ⟨w.place.markName, [w.place.label ++ w.literal]⟩

/-- The literal in code that was moved to the right by a number of levels. -/
def code (w : Wire) (level : Nat) : List Char := moved level false w.literal.toList

/-- What keeps the text of a wire as it is when its literal is read. -/
def Survives (w : Wire) : Prop :=
  match w.place with
  | .member => '\n' ∉ w.text.toList
  | _ => IsPlain w.text.toList

instance (w : Wire) : Decidable w.Survives := by
  unfold Survives
  split <;> infer_instance

theorem toList_render_mark (w : Wire) :
    w.mark.render.toList = w.place.opening ++ (w.code 0 ++ [')', ']']) := by
  have hzero : w.code 0 = w.literal.toList := moved_zero false _
  rw [hzero]
  have hleft : "[".toList = ['['] := rfl
  have hright : ")]".toList = [')', ']'] := rfl
  simp only [mark, Place.opening, Attribute.render, List.isEmpty_cons, Bool.false_eq_true,
    if_false, String.intercalate_singleton, String.toList_append, List.append_assoc, hleft, hright,
    List.cons_append, List.nil_append]

/-- The literal of a wire is read as its text exactly if the wire survives, in whatever code it
stands, if that was moved to the right at all. -/
theorem readLiteral_code_iff (w : Wire) {level : Nat} (hlevel : 0 < level) {rest : List Char}
    (hrest : rest.head? ≠ some '"') :
    (readLiteral (w.code level ++ rest)).map (·.1) = some (units w.text.toList) ↔ w.Survives := by
  obtain ⟨place, text⟩ := w
  cases place with
  | member => exact readLiteral_verbatim_iff hlevel text rest hrest
  | _ => exact readLiteral_plain_iff level text rest

end Wire

/-! ## Texts that show wires -/

/-- Some wires stand in a text one after another, each in its attribute.  The text was moved to the
right by a number of levels. -/
inductive Shows (level : Nat) : List Wire → List Char → Prop
  | nil (text : List Char) : Shows level [] text
  | cons (before : List Char) {w : Wire} {ws : List Wire} {after : List Char}
    (h : Shows level ws after) :
    Shows level (w :: ws) (before ++ (w.place.opening ++ (w.code level ++ (')' :: ']' :: after))))

namespace Shows

variable {level : Nat} {ws us : List Wire} {s t : List Char}

theorem prepend (h : Shows level ws t) (s : List Char) : Shows level ws (s ++ t) := by
  cases h with
  | nil => exact .nil _
  | cons before h =>
    rw [← List.append_assoc]
    exact .cons (s ++ before) h

theorem append (hs : Shows level ws s) (ht : Shows level us t) :
    Shows level (ws ++ us) (s ++ t) := by
  induction hs with
  | nil s => exact ht.prepend s
  | cons before _ ih =>
    simp only [List.append_assoc, List.cons_append]
    exact .cons before ih

theorem append_right (hs : Shows level ws s) (t : List Char) : Shows level ws (s ++ t) := by
  rw [← List.append_nil ws]
  exact hs.append (.nil t)

/-- An empty text shows nothing. -/
theorem eq_nil (h : Shows level ws []) : ws = [] := by
  generalize hs : ([] : List Char) = s at h
  cases h with
  | nil => rfl
  | cons before h =>
    have hlength := congrArg List.length hs
    simp only [List.length_append, List.length_cons, List.length_nil] at hlength
    omega

/-- Moving a text to the right moves the literals in it. -/
theorem shift (h : Shows level ws s) (m : Nat) (start : Bool) :
    Shows (level + m) ws (CSharp.shift m start s) := by
  induction h generalizing start with
  | nil s => exact .nil _
  | @cons before w ws after _ ih =>
    have hopening := w.place.newline_not_mem_opening
    unfold Place.opening at hopening
    rw [List.mem_cons, not_or] at hopening
    have hcode : w.code (level + m) = moved m false (w.code level) :=
      (moved_moved m level false _).symm
    -- the opening stands on one line, and the literal has code after it on its last one
    rw [Place.opening, List.cons_append, shift_append_cons (by decide),
      shift_of_newline_not_mem hopening.2, shift_append_cons (by decide), shift_cons (by decide),
      ← hcode]
    exact .cons (moved m start before) (ih false)

end Shows

/-! ## Texts put together -/

section Layout

variable {level : Nat} {wss : List (List Wire)} {parts : List String}

/-- A string shows some wires. -/
abbrev ShowsIn (level : Nat) (ws : List Wire) (s : String) : Prop := Shows level ws s.toList

theorem ShowsIn.append {ws us : List Wire} {s t : String} (hs : ShowsIn level ws s)
    (ht : ShowsIn level us t) : ShowsIn level (ws ++ us) (s ++ t) := by
  unfold ShowsIn
  rw [String.toList_append]
  exact Shows.append hs ht

theorem ShowsIn.prepend {us : List Wire} {t : String} (ht : ShowsIn level us t) (s : String) :
    ShowsIn level us (s ++ t) := by
  unfold ShowsIn
  rw [String.toList_append]
  exact Shows.prepend ht _

theorem ShowsIn.append_right {ws : List Wire} {s : String} (hs : ShowsIn level ws s) (t : String) :
    ShowsIn level ws (s ++ t) := by
  unfold ShowsIn
  rw [String.toList_append]
  exact Shows.append_right hs _

/-- Strings that show nothing. -/
theorem forall_shows_nil (level : Nat) (parts : List String) :
    List.Forall₂ (ShowsIn level) (parts.map fun _ => []) parts := by
  induction parts with
  | nil => exact .nil
  | cons s parts ih => exact .cons (.nil _) ih

theorem flatten_map_nil {α : Type} (parts : List α) :
    (parts.map fun _ => ([] : List Wire)).flatten = [] := by
  induction parts with
  | nil => rfl
  | cons s parts ih => exact ih

theorem shows_intercalate (sep : String) (h : List.Forall₂ (ShowsIn level) wss parts) :
    ShowsIn level wss.flatten (sep.intercalate parts) := by
  induction h with
  | nil => exact .nil _
  | @cons ws s wss parts hs hrest ih =>
    cases hrest with
    | nil =>
      rw [String.intercalate_singleton, List.flatten_cons, List.flatten_nil, List.append_nil]
      exact hs
    | cons _ _ =>
      rw [String.intercalate_cons_cons, List.flatten_cons, String.append_assoc]
      exact hs.append (ih.prepend sep)

theorem shows_join (h : List.Forall₂ (ShowsIn level) wss parts) :
    ShowsIn level wss.flatten (String.join parts) := by
  induction h with
  | nil => exact .nil _
  | cons hs _ ih =>
    rw [String.join_cons, List.flatten_cons]
    exact hs.append ih

/-- The parts that take no line show nothing. -/
theorem shows_stack (h : List.Forall₂ (ShowsIn level) wss parts) :
    ShowsIn level wss.flatten (stack parts) := by
  have hkept : ∃ kept, List.Forall₂ (ShowsIn level) kept (parts.filter (· ≠ ""))
      ∧ kept.flatten = wss.flatten := by
    induction h with
    | nil => exact ⟨[], .nil, rfl⟩
    | @cons ws s wss parts hs _ ih =>
      obtain ⟨kept, hforall, hflatten⟩ := ih
      by_cases hempty : s = ""
      · rw [hempty] at hs ⊢
        have hnil : ws = [] := Shows.eq_nil hs
        rw [hnil]
        exact ⟨kept, hforall, hflatten⟩
      · rw [List.filter_cons, if_pos (by simpa using hempty)]
        refine ⟨ws :: kept, .cons hs hforall, ?_⟩
        rw [List.flatten_cons, List.flatten_cons, hflatten]
  obtain ⟨kept, hforall, hflatten⟩ := hkept
  rw [← hflatten]
  exact shows_intercalate "\n" hforall

theorem shows_indent {ws : List Wire} {s : String} (h : ShowsIn level ws s) (m : Nat) :
    ShowsIn (level + m) ws (indent m s) := by
  unfold ShowsIn
  rw [toList_indent]
  exact Shows.shift h m true

/-- A declaration with members shows what its members show. -/
theorem shows_declaration (front : List String) (header : String)
    (h : List.Forall₂ (ShowsIn level) wss parts) :
    ShowsIn (level + 1) wss.flatten (stack (front ++ block header parts)) := by
  have hbody := shows_intercalate "\n\n" h
  have hindented : ShowsIn (level + 1) wss.flatten
      (if "\n\n".intercalate parts = "" then "" else indent 1 ("\n\n".intercalate parts)) := by
    by_cases hempty : "\n\n".intercalate parts = ""
    · rw [hempty] at hbody
      have hnil : wss.flatten = [] := Shows.eq_nil hbody
      rw [if_pos hempty, hnil]
      exact .nil _
    · rw [if_neg hempty]
      exact shows_indent hbody 1
  have hblock : List.Forall₂ (ShowsIn (level + 1)) [[], [], wss.flatten, []]
      (block header parts) :=
    .cons (.nil _) (.cons (.nil _) (.cons hindented (.cons (.nil _) .nil)))
  have hstack := shows_stack (List.rel_append (forall_shows_nil _ front) hblock)
  rw [List.flatten_append, flatten_map_nil] at hstack
  simpa using hstack

end Layout

/-! ## Declarations -/

section Declarations

variable {ws us : List Wire} {wss : List (List Wire)}

/-- Some wires stand in some attributes. -/
def Marks (ws : List Wire) (as : List Attribute) : Prop :=
  ∃ wss, List.Forall₂ (ShowsIn 0) wss (as.map Attribute.render) ∧ wss.flatten = ws

theorem marks_nil (as : List Attribute) : Marks [] as :=
  ⟨_, forall_shows_nil 0 _, flatten_map_nil _⟩

theorem marks_mark (w : Wire) : Marks [w] [w.mark] := by
  refine ⟨[[w]], .cons ?_ .nil, rfl⟩
  unfold ShowsIn
  rw [w.toList_render_mark]
  exact .cons [] (.nil [])

/-- At all places but one a wire is all that its attribute says. -/
theorem marks_plain {p : Place} (hp : p ≠ .member) (text : String) :
    Marks [⟨p, text⟩] [⟨p.markName, [plainLiteral text]⟩] := by
  have hmark : (⟨p, text⟩ : Wire).mark = ⟨p.markName, [plainLiteral text]⟩ := by
    cases p with
    | member => exact absurd rfl hp
    | _ => simp only [Wire.mark, Wire.literal, Place.label, String.empty_append]
  rw [← hmark]
  exact marks_mark _

theorem Marks.append {as bs : List Attribute} (ha : Marks ws as) (hb : Marks us bs) :
    Marks (ws ++ us) (as ++ bs) := by
  obtain ⟨wss, hws, rfl⟩ := ha
  obtain ⟨uss, hus, rfl⟩ := hb
  refine ⟨wss ++ uss, ?_, List.flatten_append⟩
  rw [List.map_append]
  exact List.rel_append hws hus

/-- Attributes between other parts. -/
theorem Marks.parts {as : List Attribute} (h : Marks ws as) (front back : List String) :
    ∃ wss, List.Forall₂ (ShowsIn 0) wss (front ++ as.map Attribute.render ++ back)
      ∧ wss.flatten = ws := by
  obtain ⟨wss, hws, rfl⟩ := h
  refine ⟨_, List.rel_append (List.rel_append (forall_shows_nil 0 front) hws)
    (forall_shows_nil 0 back), ?_⟩
  rw [List.flatten_append, List.flatten_append, flatten_map_nil, flatten_map_nil, List.nil_append,
    List.append_nil]

theorem shows_property {p : Property} (h : Marks ws p.attributes) : ShowsIn 0 ws p.render := by
  obtain ⟨wss, hparts, rfl⟩ := h.parts [renderDoc p.doc]
    [p.accessibility ++ " " ++ p.type ++ " " ++ p.name ++ " \x7b get; set; \x7d"]
  exact shows_stack hparts

theorem shows_enumMember {m : EnumMember} (h : Marks ws m.attributes) :
    ShowsIn 0 ws m.render := by
  obtain ⟨wss, hparts, rfl⟩ := h.parts [] [m.name ++ s!" = {m.ordinal},"]
  exact shows_intercalate "\n" hparts

theorem shows_methodParam {p : MethodParam} (h : Marks ws p.attributes) :
    ShowsIn 0 ws p.render := by
  obtain ⟨wss, hattributes, rfl⟩ := h
  have hspaced : List.Forall₂ (ShowsIn 0) wss (p.attributes.map fun a => a.render ++ " ") := by
    rw [List.forall₂_map_right_iff] at hattributes ⊢
    exact hattributes.imp fun ws a hws => hws.append_right " "
  have hjoin := shows_join hspaced
  unfold MethodParam.render
  exact (((hjoin.append_right _).append_right _).append_right _).append_right _

theorem shows_methodSig {m : MethodSig} (h : Marks ws m.attributes)
    (hparams : List.Forall₂ (fun us p => Marks us p.attributes) wss m.params) :
    ShowsIn 0 (ws ++ wss.flatten) m.render := by
  have hrendered : List.Forall₂ (ShowsIn 0) wss (m.params.map MethodParam.render) := by
    rw [List.forall₂_map_right_iff]
    exact hparams.imp fun us p hus => shows_methodParam hus
  obtain ⟨wss', hfront, rfl⟩ := h.parts [renderDoc m.doc] []
  have hline : ShowsIn 0 wss.flatten (m.result ++ " " ++ m.name ++ "("
      ++ ", ".intercalate (m.params.map MethodParam.render) ++ ");") := by
    have hlist := shows_intercalate ", " hrendered
    exact (hlist.prepend _).append_right _
  have hstack := shows_stack (List.rel_append hfront (.cons hline .nil))
  rw [List.append_nil, List.flatten_append, List.flatten_singleton] at hstack
  exact hstack

theorem shows_classDecl {c : ClassDecl}
    (h : List.Forall₂ (fun us p => Marks us p.attributes) wss c.properties) :
    ShowsIn 1 wss.flatten c.render := by
  refine shows_declaration (renderDoc c.doc :: c.attributes.map Attribute.render) _ ?_
  rw [List.forall₂_map_right_iff]
  exact h.imp fun us p hus => shows_property hus

theorem shows_enumDecl {e : EnumDecl}
    (h : List.Forall₂ (fun us m => Marks us m.attributes) wss e.members) :
    ShowsIn 1 wss.flatten e.render := by
  refine shows_declaration (renderDoc e.doc :: e.attributes.map Attribute.render) _ ?_
  rw [List.forall₂_map_right_iff]
  exact h.imp fun us m hus => shows_enumMember hus

theorem shows_interfaceDecl {i : InterfaceDecl}
    (h : List.Forall₂ (fun us m => ShowsIn 0 us m.render) wss i.methods) :
    ShowsIn 1 wss.flatten i.render := by
  refine shows_declaration (renderDoc i.doc :: i.attributes.map Attribute.render) _ ?_
  rw [List.forall₂_map_right_iff]
  exact h

/-- The contracts in their namespace show what they show each. -/
theorem shows_renderContracts (s : Settings) {cs : List Contract}
    (h : List.Forall₂ (fun us c => ShowsIn 1 us c.render) wss cs) :
    ShowsIn 2 wss.flatten (renderContracts s cs) := by
  have hrendered : List.Forall₂ (ShowsIn 1) wss (cs.map Contract.render) := by
    rw [List.forall₂_map_right_iff]
    exact h
  have hbody := shows_indent (shows_intercalate "\n\n" hrendered) 1
  unfold renderContracts Assembly.namespaceBlock
  exact (hbody.prepend _).append_right _

end Declarations

end OpenApiClient.Generate
