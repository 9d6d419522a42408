/-
What a run leaves behind.

A run writes at most one file, at its very end: the code, or the configuration if that is to be
saved.  Everything that can go wrong before leaves all files as they are.  Writing itself can go
wrong in two ways.  If no file can be opened, nothing happens.  But a file that can be opened is
emptied before its text is made, or turned into bytes.  So a configuration that cannot be made
into text, and a text with half a character in it, leave an empty file in place of the old one.

`Leaves` has one case for each of these, and `run_leaves` says that there is no other.
-/
import OpenApiClient.Proofs.RunEnds
import Mathlib.Data.List.TakeWhile

set_option autoImplicit false

namespace OpenApiClient

/-! ## Texts without bytes -/

/-- A text has a form in bytes: there is no half of a character in it. -/
def HasBytes (text : String) : Prop := ∀ c ∈ text.toList, Text.isHalf c = false

theorem encodeFault?_eq_none_iff {text : String} :
    Text.encodeFault? .utf8 text.toList = none ↔ HasBytes text := by
  have hdrop : Text.encodeFault? .utf8 text.toList = none ↔
      text.toList.dropWhile Text.Encoding.utf8.hasBytes = [] := by
    unfold Text.encodeFault?
    cases text.toList.dropWhile Text.Encoding.utf8.hasBytes with
    | nil => simp
    | cons c r => simp
  rw [hdrop, List.dropWhile_eq_nil_iff]
  exact forall₂_congr fun c _ => by simp [Text.Encoding.hasBytes]

/-! ## One file -/

/-- A text that is written to an open file is its content, or the file is left empty because the
text has no form in bytes. -/
theorem Source.Files.Opened.writeText_leaves {before files : Source.Files} {path : String}
    {p : Source.Place} (h : before.Opened files path p) (text : String) :
    (∃ f files', files.writeText path text = (.error f, files') ∧ ¬HasBytes text
        ∧ before.Wrote path [] files')
      ∨ ∃ files', files.writeText path text = (.ok (), files') ∧ HasBytes text
        ∧ before.Wrote path text.toUTF8.toList files' := by
  cases hencode : Text.encodeFault? .utf8 text.toList with
  | some f =>
    have hbytes : ¬HasBytes text := by
      rw [← encodeFault?_eq_none_iff, hencode]
      exact Option.some_ne_none f
    exact .inl ⟨_, _, h.opens.writeText_of_fault hencode, hbytes, h.wrote []⟩
  | none =>
    have hbytes : HasBytes text := encodeFault?_eq_none_iff.1 hencode
    exact .inr ⟨_, h.opens.writeText hencode, hbytes, (h.set []).wrote _⟩

namespace CommandLine

open Source (World Files)

/-- Directories that are made for the code change no file. -/
theorem writeCode_leaves (code path : String) (files : Files) :
    (∃ f files', writeCode code path files = (.error f, files') ∧ files.Kept files')
      ∨ (∃ f files', writeCode code path files = (.error f, files') ∧ ¬HasBytes code
        ∧ files.Wrote path [] files')
      ∨ ∃ files', writeCode code path files = (.ok (), files') ∧ HasBytes code
        ∧ files.Wrote path code.toUTF8.toList files' := by
  -- what writing leaves is the same whether directories had to be made before it or not
  have hmade : ∀ made : Files, files.Kept made →
      (∃ f files', made.writeText path code = (.error f, files') ∧ files.Kept files')
        ∨ (∃ f files', made.writeText path code = (.error f, files') ∧ ¬HasBytes code
          ∧ files.Wrote path [] files')
        ∨ ∃ files', made.writeText path code = (.ok (), files') ∧ HasBytes code
          ∧ files.Wrote path code.toUTF8.toList files' := by
    intro made hkept
    by_cases hopens : ∃ p, made.Opens path p
    · obtain ⟨p, hopens⟩ := hopens
      obtain ⟨f, files', hfault, hbytes, hwrote⟩ | ⟨files', hok, hbytes, hwrote⟩ :=
        hopens.opened.writeText_leaves code
      · exact .inr (.inl ⟨f, files', hfault, hbytes, hkept.wrote hwrote⟩)
      · exact .inr (.inr ⟨files', hok, hbytes, hkept.wrote hwrote⟩)
    · obtain ⟨f, hfault⟩ := Files.exists_writeText_eq_error (not_exists.1 hopens) code
      exact .inl ⟨f, made, hfault, hkept⟩
  unfold writeCode
  dsimp only
  by_cases hdirectory : Source.parentPath path = ""
  · rw [if_pos hdirectory]
    exact hmade files (Files.Kept.refl files)
  · rw [if_neg hdirectory]
    cases hensure : files.ensureDirectories (Source.parentPath path) with
    | error f => exact .inl ⟨f, files, rfl, Files.Kept.refl files⟩
    | ok made => exact hmade made (Files.kept_ensureDirectories hensure)

/-- A configuration is saved, or no file can be opened, or the file is left empty because the
configuration has no text, or one without a form in bytes. -/
theorem save_leaves (c : Configuration) (files : Files) (path : String) :
    (∃ f, c.save files path = (.error f, files))
      ∨ (∃ f files', c.save files path = (.error f, files')
        ∧ (∀ text, c.text = .ok text → ¬HasBytes text) ∧ files.Wrote path [] files')
      ∨ ∃ text files', c.save files path = (.ok (), files') ∧ c.text = .ok text ∧ HasBytes text
        ∧ files.Wrote path text.toUTF8.toList files' := by
  unfold Configuration.save
  by_cases hopens : ∃ p, files.Opens path p
  · obtain ⟨p, hopens⟩ := hopens
    -- the file is opened before there is a text, and once more to write it
    have hopened : files.Opened (files.set p []) path p := hopens.opened.set []
    rw [hopens.write]
    cases htext : c.text with
    | error h =>
      refine .inr (.inl ⟨_, _, rfl, ?_, hopens.opened.wrote []⟩)
      intro text h
      cases h
    | ok text =>
      dsimp only
      obtain ⟨f, files', hfault, hbytes, hwrote⟩ | ⟨files', hok, hbytes, hwrote⟩ :=
        hopened.writeText_leaves text
      · rw [hfault]
        refine .inr (.inl ⟨_, _, rfl, ?_, hwrote⟩)
        intro text' h
        cases h
        exact hbytes
      · rw [hok]
        exact .inr (.inr ⟨text, files', rfl, rfl, hbytes, hwrote⟩)
  · obtain ⟨f, hfault⟩ := Files.exists_write_eq_error (not_exists.1 hopens)
    refine .inl ⟨.file f, ?_⟩
    rw [hfault]

/-! ## A whole run -/

/-- Code is generated for a configuration: it gives settings, there is a document at the location
that they name, and a client is generated for both. -/
structure Generated (c : Configuration) (w : World) (s : Settings) (d : Document) (code : String) :
    Prop where
  settings : c.settings = .ok s
  document : Source.load w s.openApiPath = .ok d
  client : Generate.client s d = .ok code

theorem exists_generated {c : Configuration} {w : World} {code : String}
    (h : generate c w = .ok code) : ∃ s d, Generated c w s d code := by
  unfold generate at h
  obtain ⟨s, hs, h⟩ := bind_eq_ok_iff.1 h
  obtain ⟨d, hd, h⟩ := bind_eq_ok_iff.1 h
  exact ⟨s, d, mapError_eq_ok_iff.1 hs, mapError_eq_ok_iff.1 hd, mapError_eq_ok_iff.1 h⟩

/-- What a run leaves behind. -/
inductive Leaves (arguments : List String) (w : World) (o : Outcome) : Prop
  | help (hparse : parse arguments = .error .help) (hexit : o.exit = .success)
      (hkept : w.files.Kept o.files)
  /-- Without success nothing is left behind, but for the two cases below. -/
  | nothing (hexit : o.exit ≠ .success) (hkept : w.files.Kept o.files)
  /-- The code, in the file that the configuration names. -/
  | code {a : Arguments} {c : Configuration} {s : Settings} {d : Document} {code path : String}
      (hparse : parse arguments = .ok a) (hc : Announced a w c) (hcode : Generated c w s d code)
      (hpath : c.value .outputPath = .text path) (hbytes : HasBytes code)
      (hexit : o.exit = .success) (hwrote : w.files.Wrote path code.toUTF8.toList o.files)
  /-- The configuration, in its own file. -/
  | settings {a : Arguments} {c : Configuration} {text : String} (hparse : parse arguments = .ok a)
      (hc : Configured a w c) (hinit : a.isInit = true) (htext : c.text = .ok text)
      (hbytes : HasBytes text) (hexit : o.exit = .success)
      (hwrote : w.files.Wrote a.settingsPath text.toUTF8.toList o.files)
  /-- An empty file for code that has no form in bytes. -/
  | emptyCode {a : Arguments} {c : Configuration} {s : Settings} {d : Document}
      {code path : String} (hparse : parse arguments = .ok a) (hc : Announced a w c)
      (hcode : Generated c w s d code) (hpath : c.value .outputPath = .text path)
      (hbytes : ¬HasBytes code) (hexit : o.exit = .failure)
      (hwrote : w.files.Wrote path [] o.files)
  /-- An empty file for a configuration without a text, or with one that has no form in bytes. -/
  | emptySettings {a : Arguments} {c : Configuration} {f : Configuration.SaveFault}
      (hparse : parse arguments = .ok a) (hc : Configured a w c) (hinit : a.isInit = true)
      (htext : ∀ text, c.text = .ok text → ¬HasBytes text) (hexit : o.exit = .crash (.saving f))
      (hwrote : w.files.Wrote a.settingsPath [] o.files)

variable {arguments : List String} {a : Arguments} {w : World} {c : Configuration}

theorem runSave_leaves (hparse : parse arguments = .ok a) (hc : Configured a w c)
    (hinit : a.isInit = true) (printed : List String) :
    Leaves arguments w (runSave c a.settingsPath printed w.files) := by
  unfold runSave
  obtain ⟨f, hfault⟩ | ⟨f, files', hfault, htext, hwrote⟩
    | ⟨text, files', hok, htext, hbytes, hwrote⟩ := save_leaves c w.files a.settingsPath
  · rw [hfault]
    exact .nothing (fun h => by cases h) (Files.Kept.refl w.files)
  · rw [hfault]
    exact .emptySettings hparse hc hinit htext rfl hwrote
  · rw [hok]
    exact .settings hparse hc hinit htext hbytes rfl hwrote

theorem Course.leaves {o : Outcome} (hparse : parse arguments = .ok a) (h : Course a w o) :
    Leaves arguments w o := by
  cases h with
  | reported hmark message printed =>
    exact .nothing (fun h => by cases h) (Files.Kept.refl w.files)
  | strayed hstrays hprinted mark =>
    exact .nothing (fun h => by cases h) (Files.Kept.refl w.files)
  | saving hc hinit hprinted => exact runSave_leaves hparse hc hinit _
  | @unwritten c code path f files hc hgenerate hpath hwrite printed =>
    obtain ⟨s, d, hcode⟩ := exists_generated hgenerate
    obtain ⟨f', files', hfault, hkept⟩ | ⟨f', files', hfault, hbytes, hwrote⟩
      | ⟨files', hok, -, -⟩ := writeCode_leaves code path w.files
    · -- writing gives one result, so each case is about this one or absurd
      cases hwrite.symm.trans hfault
      exact .nothing (fun h => by cases h) hkept
    · cases hwrite.symm.trans hfault
      exact .emptyCode hparse hc hcode hpath hbytes rfl hwrote
    · cases hwrite.symm.trans hok
  | @written c code path files hc hgenerate hpath hwrite printed =>
    obtain ⟨s, d, hcode⟩ := exists_generated hgenerate
    obtain ⟨f', files', hfault, -⟩ | ⟨f', files', hfault, -, -⟩
      | ⟨files', hok, hbytes, hwrote⟩ := writeCode_leaves code path w.files
    · cases hwrite.symm.trans hfault
    · cases hwrite.symm.trans hfault
    · cases hwrite.symm.trans hok
      exact .code hparse hc hcode hpath hbytes rfl hwrote

/-- A run that succeeds writes one file, unless it only shows help: the generated code, or the
configuration.  A run that does not leaves all files as they are, unless what it would have
written cannot be turned into bytes.  Then it leaves that one file empty. -/
theorem run_leaves (arguments : List String) (w : World) (here : String) :
    Leaves arguments w (run arguments w here) := by
  unfold run
  cases hparse : parse arguments with
  | error stop =>
    cases stop with
    | help => exact .help hparse rfl (Files.Kept.refl w.files)
    | misuse => exact .nothing (fun h => by cases h) (Files.Kept.refl w.files)
  | ok a => exact (runWith_course a w here).leaves hparse

/-- Files with a configuration. -/
def shopWorld : World where
  files := [(["refitter.toml"], .file "namespace = \"Shop\"".toUTF8.toList)]

/-- A configuration that cannot be made into text is lost, and the old one with it. -/
theorem run_leaves_empty :
    (run ["--init-config", "--namespace", "\x01"] shopWorld "/here").exit.code? ≠ some 0
      ∧ shopWorld.files.content? ["refitter.toml"] = some "namespace = \"Shop\"".toUTF8.toList
      ∧ (run ["--init-config", "--namespace", "\x01"] shopWorld "/here").files.content?
          ["refitter.toml"] = some [] := by
  decide +kernel

end CommandLine

end OpenApiClient
