/-
Switches of the output.

Two settings say which segments a generated file has: the comment at its top, and the contracts.
Both are looked at when the segments are put together and nowhere before.  In particular the
contracts are written also if they are not wanted, since they give the names that the interface
uses.  So of the four ways in which the two can be set, either all give a file or all fail with
one fault, and the files differ in these segments only.
-/
import OpenApiClient.Proofs.ChosenNames
import OpenApiClient.Proofs.Readings

set_option autoImplicit false

namespace OpenApiClient

/-- The settings with the comment at the top and the contracts switched on or off. -/
def Settings.switched (s : Settings) (header given : Bool) : Settings :=
  { s with addAutoGeneratedHeader := header, generateContracts := given }

namespace Generate

open CSharp
open Schema

variable (s : Settings) (d : Document) (header given : Bool)

theorem writesLike_switched :
    (Context.of (s.switched header given) d).WritesLike (.of s d) :=
  ⟨.refl _, rfl, rfl, rfl, rfl, rfl, rfl⟩

theorem contracts_switched :
    contracts (.of (s.switched header given) d) = contracts (.of s d) :=
  (writesLike_switched s d header given).contracts_eq rfl rfl

theorem interfaceDecl_switched :
    interfaceDecl (.of (s.switched header given) d) = interfaceDecl (.of s d) :=
  (writesLike_switched s d header given).interfaceDecl_eq rfl rfl rfl

/-- Whatever the switches are, a run goes through the same steps until the file is put
together. -/
theorem client_switched_eq :
    client (s.switched header given) d = (do
      let (cs, i) ← ((parts (.of s d)).run.run {}).1
      let names ← (Imports.imported s).mapError .pattern
      return Assembly.assemble (s.switched header given) (Imports.directives names)
        (renderInterface i) (some (Imports.stripAll (renderContracts s cs) names))) := by
  have hparts : parts (.of (s.switched header given) d) = parts (.of s d) := by
    unfold parts
    rw [contracts_switched, interfaceDecl_switched]
  rw [← hparts]
  rfl

/-- The comment at the top stands before everything else. -/
theorem assemble_header (imports interfaceBody : String) (code : Option String) :
    Assembly.assemble (s.switched true given) imports interfaceBody code
      = Assembly.header ++ "\n"
        ++ Assembly.assemble (s.switched false given) imports interfaceBody code := by
  unfold Assembly.assemble Assembly.clientBlock Settings.switched
  simp only [if_true, Bool.false_eq_true, if_false, String.append_assoc, String.empty_append]

/-- The contracts stand before the last line end. -/
theorem assemble_contracts (imports interfaceBody code : String) :
    ∃ before,
      Assembly.assemble (s.switched header false) imports interfaceBody (some code)
          = before ++ "\n"
        ∧ Assembly.assemble (s.switched header true) imports interfaceBody (some code)
          = before ++ code ++ "\n" := by
  refine ⟨Assembly.clientBlock (s.switched header true) imports interfaceBody ++ "\n" ++ "\n",
    ?_, rfl⟩
  unfold Assembly.assemble Assembly.clientBlock Settings.switched
  simp only [Bool.false_eq_true, if_false, String.append_empty]

/-- For every setting of the two switches the run fails with the same fault, or for every setting
it succeeds, with the same types, the same interface and the same imports.  Then the file with
the comment at its top is that comment and an empty line, followed by the file without it; and
the file with the contracts is the file without them, the last line end of which gives way to the
contracts, without the prefixes of the imported namespaces, and a line end. -/
theorem client_switched :
    (∃ f, ∀ header given, client (s.switched header given) d = .error f)
      ∨ ∃ cs i l l' names, ∃ file : Bool → Bool → String,
        (∀ header given, client (s.switched header given) d = .ok (file header given)
          ∧ Returns (contracts (.of (s.switched header given) d)) {} cs l
          ∧ Returns (interfaceDecl (.of (s.switched header given) d)) l i l'
          ∧ Imports.imported (s.switched header given) = .ok names)
        ∧ (∀ given, file true given = Assembly.header ++ "\n" ++ file false given)
        ∧ (∀ header, ∃ before, file header false = before ++ "\n"
          ∧ file header true
            = before ++ Imports.stripAll (renderContracts s cs) names ++ "\n")
        ∧ file false false = Imports.directives names ++ "\n" ++ "\n"
          ++ Assembly.namespaceBlock s.namespaceName (renderInterface i)
          ++ "\n" ++ "\n" ++ "\n" ++ "\n" := by
  -- both steps that can fail come before the switches are looked at
  cases hparts : ((parts (.of s d)).run.run {}).1 with
  | error f =>
    refine .inl ⟨f, fun header given => ?_⟩
    rw [client_switched_eq, hparts]
    rfl
  | ok r =>
    cases hnames : Imports.imported s with
    | error f =>
      refine .inl ⟨.pattern f, fun header given => ?_⟩
      rw [client_switched_eq, hparts, hnames]
      rfl
    | ok names =>
      obtain ⟨l', hreturns⟩ := result_eq_ok_iff.1 hparts
      obtain ⟨l, hcontracts, hinterface⟩ := returns_parts_iff.1 hreturns
      refine .inr ⟨r.1, r.2, l, l', names, fun header given =>
        Assembly.assemble (s.switched header given) (Imports.directives names)
          (renderInterface r.2) (some (Imports.stripAll (renderContracts s r.1) names)),
        fun header given => ⟨?_, ?_, ?_, hnames⟩, ?_, ?_, ?_⟩
      · rw [client_switched_eq, hparts, hnames]
        rfl
      · rwa [contracts_switched]
      · rwa [interfaceDecl_switched]
      · intro given
        exact assemble_header s given _ _ _
      · intro header
        exact assemble_contracts s header _ _ _
      · unfold Assembly.assemble Assembly.clientBlock Settings.switched
        simp only [Bool.false_eq_true, if_false, String.append_empty, String.empty_append]

end Generate

end OpenApiClient
