/-
How a run ends.

A run is meant to end in one of three ways: it succeeds, its arguments are wrong, or it prints
a line with a mark of a fault and fails.  There is a fourth way.  Each stage of a run has faults
of its own, what reports them lists classes of faults, and a fault of a class that is not listed
ends the run as a crash, without such a line.

`Escapes` lists these faults for the two stages that have many of them.  `Strays` says where in a
run one can come up, and `run_ends` that this is all: the four ways are all ways, and a run ends
as a crash exactly if it strays.

A run is taken apart once, into its `Course`: either it stops before anything is written, or it
comes to the point where something is.  What is said about runs here and elsewhere goes through
the courses.
-/
import OpenApiClient.CommandLine.Run
import OpenApiClient.Proofs.FileWrites

set_option autoImplicit false

namespace OpenApiClient

/-! ## Faults that nothing reports -/

/-- The faults of a document that are not reported: texts nested too deeply and references
without an end, YAML scalars that only look like a value of their kind, addresses that are none,
and charsets that are none. -/
inductive Source.LoadFault.Escapes : Source.LoadFault → Prop
  | tooDeep (position : Nat) (text : List Char) : Escapes (.json ⟨.tooDeep, position⟩ text)
  | endless : Escapes (.document .endless)
  | scalar {f : Yaml.ValueFault} (text : List Char)
      (h : f ∈ [.hugeCharacter, .notBoolean, .emptyNumber, .notTimestamp, .timestampInside]) :
      Escapes (.yaml (.value f) text)
  | address {f : Source.WebAddress.Fault} (h : ∀ e, f ≠ .unencodable e) :
      Escapes (.web (.address f))
  | unordered : Escapes (.web (.mediaType .unordered))
  | charset {f : Text.CharsetFault} (h : f ∈ [.bytesOnly, .textOnly]) : Escapes (.web (.charset f))

/-- The faults of the generation that are not reported: texts that are no search patterns, apart
from the two flaws that are found later, values of the wrong kind in a schema, and references
without an end. -/
inductive Generate.Fault.Escapes : Generate.Fault → Prop
  | pattern {f : Pattern.Fault} (h : ∀ n, f ≠ .longNumber n) (h' : f ≠ .flagsClash) :
      Escapes (.pattern f)
  | shape {f : ShapeFault} (h : f ∈ [.wrongKind, .noMembers, .noSuchKey]) : Escapes (.shape f)
  | endless : Escapes .endless

theorem Source.LoadFault.escapes_iff {f : Source.LoadFault} :
    f.Escapes ↔ (f.isAboutLocation || f.isWrongValue) = false := by
  constructor
  · intro h
    cases h with
    | tooDeep | endless | unordered => rfl
    | scalar text h =>
      simp only [List.mem_cons, List.not_mem_nil, or_false] at h
      obtain rfl | rfl | rfl | rfl | rfl := h <;> rfl
    | @address f h =>
      cases f with
      | unencodable e => exact absurd rfl (h e)
      | _ => rfl
    | charset h =>
      simp only [List.mem_cons, List.not_mem_nil, or_false] at h
      obtain rfl | rfl := h <;> rfl
  · -- the faults that one of the two tests finds are those whose hypothesis is absurd
    intro h
    cases f with
    | json f text =>
      obtain ⟨f, position⟩ := f
      cases f with
      | tooDeep => exact .tooDeep position text
      | _ => cases h
    | document f =>
      cases f with
      | endless => exact .endless
      | _ => cases h
    | yaml f text =>
      cases f with
      | value f => cases f <;> first | exact .scalar text (by decide) | cases h
      | _ => cases h
    | web f =>
      cases f with
      | address f =>
        cases f with
        | unencodable e => cases h
        | _ => exact .address (by intro e he; cases he)
      | mediaType f =>
        cases f with
        | unordered => exact .unordered
        | name f => cases h
      | charset f => cases f <;> first | exact .charset (by decide) | cases h
      | _ => cases h
    | unreadable f => cases f <;> cases h
    | _ => cases h

namespace CommandLine

open Source (World)

/-! ## How faults are handed on -/

/-- A fault of the document ends a run as a crash if it escapes, and is reported otherwise. -/
theorem ofDocument_eq_crashed_iff {location : String} {f : Source.LoadFault} {c : Crash} :
    Ending.ofDocument location f = .crashed c ↔ f.Escapes ∧ c = .document f := by
  unfold Ending.ofDocument
  rw [Source.LoadFault.escapes_iff]
  cases f.isAboutLocation || f.isWrongValue with
  | true => simp
  | false => simp [eq_comm]

/-- A fault of the generation ends a run as a crash if it escapes, and is reported otherwise. -/
theorem ofGeneration_eq_crashed_iff {f : Generate.Fault} {c : Crash} :
    Ending.ofGeneration f = .crashed c ↔ f.Escapes ∧ c = .generation f := by
  constructor
  · intro h
    cases f with
    | pattern f =>
      cases f <;> first | cases h; exact ⟨.pattern (by simp) (by simp), rfl⟩ | cases h
    | shape f => cases f <;> first | cases h; exact ⟨.shape (by decide), rfl⟩ | cases h
    | endless =>
      cases h
      exact ⟨.endless, rfl⟩
    | _ => cases h
  · rintro ⟨h, rfl⟩
    cases h with
    | @pattern f h h' =>
      cases f with
      | longNumber n => exact absurd rfl (h n)
      | flagsClash => exact absurd rfl h'
      | _ => rfl
    | shape h =>
      simp only [List.mem_cons, List.not_mem_nil, or_false] at h
      obtain rfl | rfl | rfl := h <;> rfl
    | endless => rfl

/-! ## The configuration -/

/-- The path of the file that holds the configuration. -/
def Arguments.settingsPath (a : Arguments) : String :=
  if a.settingsFile = "" then Configuration.fileName else a.settingsFile

/-- The configuration of a run: what the file says, or the default values if no file is named and
the usual one is not there, and above it what the arguments say. -/
inductive Configured (a : Arguments) (w : World) : Configuration → Prop
  | file {c : Configuration} (h : Configuration.load? w.files a.settingsPath = .ok (some c)) :
      Configured a w (c.merge a.effective)
  | usual (h : Configuration.load? w.files a.settingsPath = .ok none)
      (hname : a.settingsFile = "") : Configured a w (Configuration.default.merge a.effective)

/-- A run is asked for code, and the line is printed that announces it. -/
structure Announced (a : Arguments) (w : World) (c : Configuration) : Prop where
  configured : Configured a w c
  wanted : a.isInit = false
  given : (c.value .openApiPath).isGiven = true
  writable : (c.value .openApiPath).isWritable = true

/-- Generating code for a configuration goes wrong in a way that is not reported. -/
inductive GenerationStrays (c : Configuration) (w : World) : Crash → Prop
  | settings (h : c.settings = .error .noItems) : GenerationStrays c w (.settings .noItems)
  | document {s : Settings} {f : Source.LoadFault} (hs : c.settings = .ok s)
      (h : Source.load w s.openApiPath = .error f) (hf : f.Escapes) :
      GenerationStrays c w (.document f)
  | generation {s : Settings} {d : Document} {f : Generate.Fault} (hs : c.settings = .ok s)
      (hd : Source.load w s.openApiPath = .ok d) (h : Generate.client s d = .error f)
      (hf : f.Escapes) : GenerationStrays c w (.generation f)

/-- A run goes wrong in a way that is not reported. -/
inductive Strays (a : Arguments) (w : World) : Crash → Prop
  /-- The file of the configuration is a directory. -/
  | directory (h : w.files.hasDirectory a.settingsPath) :
      Strays a w (.configuration (.file (.refused .isDirectory a.settingsPath)))
  /-- The reader of the configuration comes to a halt. -/
  | halt {why : Toml.Halt} {text : List Char} (hwhy : why ≠ .unwritable)
      (h : Configuration.load? w.files a.settingsPath = .error (.toml (.halt why) text)) :
      Strays a w (.configuration (.toml (.halt why) text))
  | saving {c : Configuration} {f : Configuration.SaveFault} (hc : Configured a w c)
      (hinit : a.isInit = true) (h : (c.save w.files a.settingsPath).1 = .error f) :
      Strays a w (.saving f)
  /-- The location is named in the line that announces the generation, but cannot be written. -/
  | location {c : Configuration} (hc : Configured a w c) (hinit : a.isInit = false)
      (hgiven : (c.value .openApiPath).isGiven = true)
      (h : (c.value .openApiPath).isWritable = false) : Strays a w .location
  | generating {c : Configuration} {crash : Crash} (hc : Announced a w c)
      (h : GenerationStrays c w crash) : Strays a w crash
  | outputPath {c : Configuration} {code : String} (hc : Announced a w c)
      (hcode : generate c w = .ok code) (h : ∀ path, c.value .outputPath ≠ .text path) :
      Strays a w .outputPath

variable {a : Arguments} {w : World} {c : Configuration} {here : String}

/-! ## Lines -/

/-- A line that reports a fault. -/
def IsFaultLine (line : String) : Prop := line.toList.head? = some '❌'

instance (line : String) : Decidable (IsFaultLine line) :=
  inferInstanceAs (Decidable (_ = _))

/-- What a line begins with decides whether it reports a fault. -/
theorem isFaultLine_append_iff {mark : String} (hmark : mark.toList ≠ []) (rest : String) :
    IsFaultLine (mark ++ rest) ↔ IsFaultLine mark := by
  obtain ⟨c, cs, hcons⟩ := List.exists_cons_of_ne_nil hmark
  unfold IsFaultLine
  rw [String.toList_append, hcons, List.cons_append, List.head?_cons, List.head?_cons]

theorem isFaultLine_of_mark {mark : String} (h : mark = faultMark ∨ mark = generationFaultMark)
    (message : String) : IsFaultLine (mark ++ message) := by
  obtain rfl | rfl := h
  · exact (isFaultLine_append_iff (by decide) message).2 (by decide)
  · exact (isFaultLine_append_iff (by decide) message).2 (by decide)

/-! ## The stage of the configuration -/

/-- What is found decides, and the path that is shown is the one that was looked at. -/
theorem configurationFrom_eq (a : Arguments) (w : World) :
    configurationFrom a.settingsFile w.files
      = (Configuration.load? w.files a.settingsPath).mapError Ending.ofConfiguration
        >>= fun found => match found with
          | some c => pure (c, ["📋 Используется конфиг "
              ++ (if a.settingsFile = "" then "из " else "") ++ a.settingsPath])
          | none => if a.settingsFile = "" then pure (.default, [])
            else throw (.reported ("Файл настроек не найден: " ++ a.settingsPath)) := by
  rfl

/-- Only if the file cannot be read the fault is one of the file. -/
theorem read_eq_file_iff {files : Source.Files} {path : String} {fault : Source.FileFault} :
    Configuration.read files path = .error (.file fault) ↔ files.read path = .error fault := by
  unfold Configuration.read
  constructor
  · intro h
    obtain h | ⟨bytes, -, h⟩ := bind_eq_error_iff.1 h
    · obtain ⟨fault', h, heq⟩ := mapError_eq_error_iff.1 h
      cases heq
      exact h
    · -- the steps after the reading name their faults otherwise
      obtain h | ⟨text, -, h⟩ := bind_eq_error_iff.1 h
      · obtain ⟨fault', -, heq⟩ := mapError_eq_error_iff.1 h
        cases heq
      · obtain h | ⟨ms, -, h⟩ := bind_eq_error_iff.1 h
        · obtain ⟨fault', -, heq⟩ := mapError_eq_error_iff.1 h
          cases heq
        · cases h
  · intro h
    rw [h]
    rfl

/-- Of a file that is there only the kind can be wrong, so reading it is refused only for a
directory. -/
theorem load?_eq_file_iff {files : Source.Files} {path : String} {fault : Source.FileFault} :
    Configuration.load? files path = .error (.file fault) ↔
      files.hasDirectory path ∧ fault = .refused .isDirectory path := by
  -- a file is only opened if something stands at the path
  have hfault : Configuration.load? files path = .error (.file fault) ↔
      files.has path ∧ files.read path = .error fault := by
    unfold Configuration.load?
    by_cases hhas : files.has path
    · rw [if_pos hhas, map_eq_error_iff, read_eq_file_iff]
      simp [hhas]
    · rw [if_neg hhas]
      simp [hhas]
  rw [hfault]
  constructor
  · rintro ⟨hhas, hread⟩
    obtain ⟨content, -, hread'⟩ | ⟨hdirectory, hread'⟩ := Source.Files.read_cases hhas
    · rw [hread'] at hread
      cases hread
    · rw [hread'] at hread
      cases hread
      exact ⟨hdirectory, rfl⟩
  · rintro ⟨hdirectory, rfl⟩
    have hfind : files.find? path = some .directory := of_decide_eq_true hdirectory
    have hhas : files.has path := by
      rw [Source.Files.has, hfind]
      rfl
    obtain ⟨content, hfile, -⟩ | ⟨-, hread⟩ := Source.Files.read_cases hhas
    · rw [hfind] at hfile
      cases hfile
    · exact ⟨hhas, hread⟩

/-- A fault of the configuration file is reported, or the run strays. -/
theorem ofConfiguration_cases {f : Configuration.LoadFault}
    (h : Configuration.load? w.files a.settingsPath = .error f) :
    (∃ message, Ending.ofConfiguration f = .reported message)
      ∨ Ending.ofConfiguration f = .crashed (.configuration f)
        ∧ Strays a w (.configuration f) := by
  cases f with
  | file fault =>
    obtain ⟨hdirectory, rfl⟩ := load?_eq_file_iff.1 h
    exact .inr ⟨rfl, .directory hdirectory⟩
  | notUtf8 fault => exact .inl ⟨_, rfl⟩
  | toml fault text =>
    cases fault with
    | flaw fault position => exact .inl ⟨_, rfl⟩
    | halt why =>
      by_cases hwhy : why = .unwritable
      · rw [hwhy]
        exact .inl ⟨_, rfl⟩
      · refine .inr ⟨?_, .halt hwhy h⟩
        cases why with
        | unwritable => exact absurd rfl hwhy
        | _ => rfl

/-- The configuration is found, or it is reported why not, or the run strays. -/
theorem configurationFrom_cases (a : Arguments) (w : World) :
    (∃ file printed, configurationFrom a.settingsFile w.files = .ok (file, printed)
        ∧ Configured a w (file.merge a.effective) ∧ ∀ line ∈ printed, ¬IsFaultLine line)
      ∨ (∃ message, configurationFrom a.settingsFile w.files = .error (.reported message))
      ∨ ∃ crash, configurationFrom a.settingsFile w.files = .error (.crashed crash)
        ∧ Strays a w crash := by
  rw [configurationFrom_eq]
  cases hload : Configuration.load? w.files a.settingsPath with
  | error f =>
    obtain ⟨message, hreported⟩ | ⟨hcrashed, hstrays⟩ := ofConfiguration_cases hload
    · exact .inr (.inl ⟨message, congrArg Except.error hreported⟩)
    · exact .inr (.inr ⟨_, congrArg Except.error hcrashed, hstrays⟩)
  | ok found =>
    cases found with
    | some c =>
      refine .inl ⟨c, _, rfl, .file hload, ?_⟩
      intro line hline
      rw [List.mem_singleton.1 hline, String.append_assoc, isFaultLine_append_iff (by decide)]
      decide
    | none =>
      -- the defaults stand in for a file, but not for one that was asked for
      by_cases hname : a.settingsFile = ""
      · refine .inl ⟨.default, [], ?_, .usual hload hname, by simp⟩
        exact if_pos hname
      · exact .inr (.inl ⟨_, if_neg hname⟩)

/-- What is configured is found. -/
theorem Configured.found (h : Configured a w c) :
    ∃ file printed, configurationFrom a.settingsFile w.files = .ok (file, printed)
      ∧ c = file.merge a.effective := by
  rw [configurationFrom_eq]
  cases h with
  | @file c h =>
    rw [h]
    exact ⟨c, _, rfl, rfl⟩
  | usual h hname =>
    rw [h]
    exact ⟨.default, [], if_pos hname, rfl⟩

/-! ## The stage of the generation -/

theorem generate_of_settings {s : Settings} (h : c.settings = .ok s) :
    generate c w = (Source.load w s.openApiPath).mapError (.ofDocument s.openApiPath)
      >>= fun d => (Generate.client s d).mapError .ofGeneration := by
  unfold generate
  rw [h]
  rfl

theorem generate_of_document {s : Settings} {d : Document} (hs : c.settings = .ok s)
    (hd : Source.load w s.openApiPath = .ok d) :
    generate c w = (Generate.client s d).mapError .ofGeneration := by
  rw [generate_of_settings hs, hd]
  rfl

/-- Code is generated, or it is reported why not, or the generation strays. -/
theorem generate_cases (c : Configuration) (w : World) :
    (∃ code, generate c w = .ok code)
      ∨ (∃ message, generate c w = .error (.reported message))
      ∨ ∃ crash, generate c w = .error (.crashed crash) ∧ GenerationStrays c w crash := by
  cases hs : c.settings with
  | error f =>
    have hfault : generate c w = .error (.ofSettings f) := by
      unfold generate
      rw [hs]
      rfl
    rw [hfault]
    cases f with
    | noItems => exact .inr (.inr ⟨_, rfl, .settings hs⟩)
    | _ => exact .inr (.inl ⟨_, rfl⟩)
  | ok s =>
    cases hd : Source.load w s.openApiPath with
    | error f =>
      rw [generate_of_settings hs, hd]
      cases hending : Ending.ofDocument s.openApiPath f with
      | reported message => exact .inr (.inl ⟨message, congrArg Except.error hending⟩)
      | crashed crash =>
        obtain ⟨hf, rfl⟩ := ofDocument_eq_crashed_iff.1 hending
        exact .inr (.inr ⟨_, congrArg Except.error hending, .document hs hd hf⟩)
    | ok d =>
      rw [generate_of_document hs hd]
      cases hcode : Generate.client s d with
      | error f =>
        cases hending : Ending.ofGeneration f with
        | reported message => exact .inr (.inl ⟨message, congrArg Except.error hending⟩)
        | crashed crash =>
          obtain ⟨hf, rfl⟩ := ofGeneration_eq_crashed_iff.1 hending
          exact .inr (.inr ⟨_, congrArg Except.error hending, .generation hs hd hcode hf⟩)
      | ok code => exact .inl ⟨code, rfl⟩

theorem GenerationStrays.generate_eq {crash : Crash} (h : GenerationStrays c w crash) :
    generate c w = .error (.crashed crash) := by
  cases h with
  | settings h =>
    unfold generate
    rw [h]
    rfl
  | document hs h hf =>
    rw [generate_of_settings hs, h]
    exact congrArg Except.error (ofDocument_eq_crashed_iff.2 ⟨hf, rfl⟩)
  | generation hs hd h hf =>
    rw [generate_of_document hs hd, h]
    exact congrArg Except.error (ofGeneration_eq_crashed_iff.2 ⟨hf, rfl⟩)

/-! ## The stage of writing -/

/-- The line that announces the generation. -/
def announcement (c : Configuration) : String :=
  "🚀 Генерация клиента из " ++ (c.value .openApiPath).display

theorem not_isFaultLine_announcement (c : Configuration) : ¬IsFaultLine (announcement c) := by
  unfold announcement
  rw [isFaultLine_append_iff (by decide)]
  decide

/-- A configuration says where the document is, in a way that can be announced. -/
structure HasLocation (c : Configuration) : Prop where
  given : (c.value .openApiPath).isGiven = true
  writable : (c.value .openApiPath).isWritable = true

theorem Announced.hasLocation (hc : Announced a w c) : HasLocation c := ⟨hc.given, hc.writable⟩

section HasLocation

variable {printed : List String} {files : Source.Files} {code path : String}

/-- Until code is there, an announced run is told by the generation. -/
theorem HasLocation.run_of_error (hc : HasLocation c) {e : Ending}
    (h : generate c w = .error e) :
    runGenerate c printed w here
      = e.outcome generationFaultMark (printed ++ [announcement c]) w.files := by
  unfold runGenerate
  simp only [hc.given, hc.writable, Bool.not_true, Bool.false_eq_true, if_false, h]
  rfl

theorem HasLocation.run_of_pathless (hc : HasLocation c)
    (h : generate c w = .ok code) (hpath : ∀ path, c.value .outputPath ≠ .text path) :
    runGenerate c printed w here
      = (Ending.crashed .outputPath).outcome generationFaultMark (printed ++ [announcement c])
        w.files := by
  unfold runGenerate
  simp only [hc.given, hc.writable, Bool.not_true, Bool.false_eq_true, if_false, h]
  rfl

theorem HasLocation.run_of_unwritten (hc : HasLocation c)
    (h : generate c w = .ok code) (hpath : c.value .outputPath = .text path) {f : Source.FileFault}
    (hwrite : writeCode code path w.files = (.error f, files)) :
    runGenerate c printed w here
      = (Ending.reported f.message).outcome generationFaultMark (printed ++ [announcement c])
        files := by
  unfold runGenerate
  simp only [hc.given, hc.writable, Bool.not_true, Bool.false_eq_true, if_false, h, hpath, hwrite]
  rfl

theorem HasLocation.run_of_written (hc : HasLocation c)
    (h : generate c w = .ok code) (hpath : c.value .outputPath = .text path)
    (hwrite : writeCode code path w.files = (.ok (), files)) :
    runGenerate c printed w here
      = ⟨.success, printed ++ [announcement c] ++ ["✅ Генерация завершена успешно!",
          "📦 Клиент создан в: " ++ Source.fullPath here path], files⟩ := by
  unfold runGenerate
  simp only [hc.given, hc.writable, Bool.not_true, Bool.false_eq_true, if_false, h, hpath, hwrite]
  rfl

end HasLocation

/-- Without a location there is nothing to generate from. -/
theorem runGenerate_of_nowhere (hgiven : (c.value .openApiPath).isGiven = false) :
    ∃ message, ∀ (printed : List String) (w : World) (here : String), runGenerate c printed w here
      = (Ending.reported message).outcome faultMark printed w.files := by
  refine ⟨"Укажите путь к спецификации или создайте конфиг с --init-config",
    fun printed w here => ?_⟩
  unfold runGenerate
  simp only [hgiven, Bool.not_false, if_true]
  rfl

/-- A location that cannot be written is not even announced. -/
theorem runGenerate_of_unwritable {printed : List String}
    (hgiven : (c.value .openApiPath).isGiven = true)
    (hwritable : (c.value .openApiPath).isWritable = false) :
    runGenerate c printed w here
      = (Ending.crashed .location).outcome faultMark printed w.files := by
  unfold runGenerate
  simp only [hgiven, hwritable, Bool.not_true, Bool.not_false, Bool.false_eq_true, if_false,
    if_true]
  rfl

/-- Without a location that can be announced, a run ends in one way, whatever files there are. -/
theorem runGenerate_of_not_hasLocation (h : ¬HasLocation c) :
    ∃ (e : Ending) (mark : String), ∀ (printed : List String) (w : World) (here : String),
      runGenerate c printed w here = e.outcome mark printed w.files := by
  cases hgiven : (c.value .openApiPath).isGiven with
  | false =>
    obtain ⟨message, hrun⟩ := runGenerate_of_nowhere hgiven
    exact ⟨_, _, hrun⟩
  | true =>
    have hwritable : (c.value .openApiPath).isWritable = false := by
      rw [← Bool.not_eq_true]
      exact fun hwritable => h ⟨hgiven, hwritable⟩
    exact ⟨_, _, fun _ _ _ => runGenerate_of_unwritable hgiven hwritable⟩

/-! ## The course of a run -/

theorem runWith_of_error {e : Ending}
    (h : configurationFrom a.settingsFile w.files = .error e) :
    runWith a w here = e.outcome faultMark [] w.files := by
  unfold runWith
  rw [h]

theorem runWith_of_init {file : Configuration} {printed : List String}
    (h : configurationFrom a.settingsFile w.files = .ok (file, printed)) (hinit : a.isInit = true) :
    runWith a w here = runSave (file.merge a.effective) a.settingsPath printed w.files := by
  unfold runWith
  simp only [h, hinit, if_true]
  rfl

theorem runWith_of_generate {file : Configuration} {printed : List String}
    (h : configurationFrom a.settingsFile w.files = .ok (file, printed))
    (hinit : a.isInit = false) :
    runWith a w here = runGenerate (file.merge a.effective) printed w here := by
  unfold runWith
  simp only [h, hinit, Bool.false_eq_true, if_false]

/-- The ways that a run can go once it has been told what to do.  It stops before anything is
written, with a line or because it strays, or it comes to the point where something is written. -/
inductive Course (a : Arguments) (w : World) : Outcome → Prop
  | reported {mark : String} (hmark : mark = faultMark ∨ mark = generationFaultMark)
      (message : String) (printed : List String) :
      Course a w ((Ending.reported message).outcome mark printed w.files)
  | strayed {crash : Crash} {printed : List String} (hstrays : Strays a w crash)
      (hprinted : ∀ line ∈ printed, ¬IsFaultLine line) (mark : String) :
      Course a w ((Ending.crashed crash).outcome mark printed w.files)
  | saving {c : Configuration} {printed : List String} (hc : Configured a w c)
      (hinit : a.isInit = true) (hprinted : ∀ line ∈ printed, ¬IsFaultLine line) :
      Course a w (runSave c a.settingsPath printed w.files)
  | unwritten {c : Configuration} {code path : String} {f : Source.FileFault}
      {files : Source.Files} (hc : Announced a w c) (hcode : generate c w = .ok code)
      (hpath : c.value .outputPath = .text path)
      (hwrite : writeCode code path w.files = (.error f, files)) (printed : List String) :
      Course a w ((Ending.reported f.message).outcome generationFaultMark printed files)
  | written {c : Configuration} {code path : String} {files : Source.Files}
      (hc : Announced a w c) (hcode : generate c w = .ok code)
      (hpath : c.value .outputPath = .text path)
      (hwrite : writeCode code path w.files = (.ok (), files)) (printed : List String) :
      Course a w ⟨.success, printed, files⟩

theorem Announced.course {printed : List String} (hc : Announced a w c)
    (hprinted : ∀ line ∈ printed, ¬IsFaultLine line) :
    Course a w (runGenerate c printed w here) := by
  have hlines : ∀ line ∈ printed ++ [announcement c], ¬IsFaultLine line := by
    intro line hline
    obtain hline | hline := List.mem_append.1 hline
    · exact hprinted line hline
    · rw [List.mem_singleton.1 hline]
      exact not_isFaultLine_announcement c
  obtain ⟨code, hcode⟩ | ⟨message, hfault⟩ | ⟨crash, hfault, hstrays⟩ := generate_cases c w
  · -- whether there is a path to write to is looked at when there is code
    by_cases htext : ∃ path, c.value .outputPath = .text path
    · obtain ⟨path, hpath⟩ := htext
      cases hwrite : writeCode code path w.files with
      | mk written files =>
        cases written with
        | error f =>
          rw [hc.hasLocation.run_of_unwritten hcode hpath hwrite]
          exact .unwritten hc hcode hpath hwrite _
        | ok u =>
          rw [hc.hasLocation.run_of_written hcode hpath hwrite]
          exact .written hc hcode hpath hwrite _
    · rw [hc.hasLocation.run_of_pathless hcode (not_exists.1 htext)]
      exact .strayed (.outputPath hc hcode (not_exists.1 htext)) hlines _
  · rw [hc.hasLocation.run_of_error hfault]
    exact .reported (.inr rfl) message _
  · rw [hc.hasLocation.run_of_error hfault]
    exact .strayed (.generating hc hstrays) hlines _

theorem runGenerate_course {printed : List String} (hc : Configured a w c)
    (hinit : a.isInit = false) (hprinted : ∀ line ∈ printed, ¬IsFaultLine line) :
    Course a w (runGenerate c printed w here) := by
  cases hgiven : (c.value .openApiPath).isGiven with
  | false =>
    obtain ⟨message, hrun⟩ := runGenerate_of_nowhere hgiven
    rw [hrun]
    exact .reported (.inl rfl) message printed
  | true =>
    cases hwritable : (c.value .openApiPath).isWritable with
    | false =>
      rw [runGenerate_of_unwritable hgiven hwritable]
      exact .strayed (.location hc hinit hgiven hwritable) hprinted _
    | true => exact Announced.course ⟨hc, hinit, hgiven, hwritable⟩ hprinted

theorem runWith_course (a : Arguments) (w : World) (here : String) :
    Course a w (runWith a w here) := by
  obtain ⟨file, printed, hfound, hc, hprinted⟩ | ⟨message, hfault⟩ | ⟨crash, hfault, hstrays⟩ :=
    configurationFrom_cases a w
  · cases hinit : a.isInit with
    | true =>
      rw [runWith_of_init hfound hinit]
      exact .saving hc hinit hprinted
    | false =>
      rw [runWith_of_generate hfound hinit]
      exact runGenerate_course hc hinit hprinted
  · rw [runWith_of_error hfault]
    exact .reported (.inl rfl) message []
  · rw [runWith_of_error hfault]
    exact .strayed hstrays (fun line hline => absurd hline List.not_mem_nil) _

/-! ## How it ends -/

/-- How a run ends that has been told what to do: it succeeds, it reports a fault, or it strays
and reports nothing. -/
inductive Ends (a : Arguments) (w : World) (o : Outcome) : Prop
  | success (h : o.exit = .success)
  | failure (h : o.exit = .failure) (line : ∃ line ∈ o.printed, IsFaultLine line)
  | crash {c : Crash} (h : o.exit = .crash c) (hstrays : Strays a w c)
      (lines : ∀ line ∈ o.printed, ¬IsFaultLine line)

/-- A fault that is reported ends the run with its line. -/
theorem ends_reported {mark : String} (hmark : mark = faultMark ∨ mark = generationFaultMark)
    (message : String) (printed : List String) (files : Source.Files) :
    Ends a w ((Ending.reported message).outcome mark printed files) :=
  .failure rfl ⟨mark ++ message, List.mem_append_right _ (List.mem_singleton.2 rfl),
    isFaultLine_of_mark hmark message⟩

theorem Course.ends {o : Outcome} (h : Course a w o) : Ends a w o := by
  cases h with
  | reported hmark message printed => exact ends_reported hmark message printed w.files
  | strayed hstrays hprinted mark => exact .crash rfl hstrays hprinted
  | @saving c printed hc hinit hprinted =>
    unfold runSave
    cases hsave : c.save w.files a.settingsPath with
    | mk saved files =>
      cases saved with
      | ok u => exact .success rfl
      | error f =>
        have hfault : (c.save w.files a.settingsPath).1 = .error f := by
          rw [hsave]
        exact .crash rfl (.saving hc hinit hfault) hprinted
  | unwritten hc hcode hpath hwrite printed => exact ends_reported (.inr rfl) _ printed _
  | written hc hcode hpath hwrite printed => exact .success rfl

/-- A run that strays ends as a crash. -/
theorem Strays.exit_eq {crash : Crash} (h : Strays a w crash) (here : String) :
    (runWith a w here).exit = .crash crash := by
  cases h with
  | directory h =>
    have hload := load?_eq_file_iff.2 ⟨h, rfl⟩
    have hfault : configurationFrom a.settingsFile w.files
        = .error (.crashed (.configuration (.file (.refused .isDirectory a.settingsPath)))) := by
      rw [configurationFrom_eq, hload]
      rfl
    rw [runWith_of_error hfault]
    rfl
  | @halt why text hwhy hload =>
    have hfault : configurationFrom a.settingsFile w.files
        = .error (.crashed (.configuration (.toml (.halt why) text))) := by
      rw [configurationFrom_eq, hload]
      cases why with
      | unwritable => exact absurd rfl hwhy
      | _ => rfl
    rw [runWith_of_error hfault]
    rfl
  | saving hc hinit h =>
    obtain ⟨file, printed, hfound, rfl⟩ := hc.found
    rw [runWith_of_init hfound hinit]
    unfold runSave
    cases hsave : Configuration.save (file.merge a.effective) w.files a.settingsPath with
    | mk saved files =>
      rw [hsave] at h
      cases h
      rfl
  | location hc hinit hgiven h =>
    obtain ⟨file, printed, hfound, rfl⟩ := hc.found
    rw [runWith_of_generate hfound hinit, runGenerate_of_unwritable hgiven h]
    rfl
  | generating hc h =>
    obtain ⟨file, printed, hfound, rfl⟩ := hc.configured.found
    rw [runWith_of_generate hfound hc.wanted, hc.hasLocation.run_of_error h.generate_eq]
    rfl
  | outputPath hc hcode h =>
    obtain ⟨file, printed, hfound, rfl⟩ := hc.configured.found
    rw [runWith_of_generate hfound hc.wanted, hc.hasLocation.run_of_pathless hcode h]
    rfl

/-- Every run succeeds, or ends with the number for wrong arguments if they are wrong, or prints a
line with the mark of a fault and fails, or ends as a crash without such a line.  It ends as a
crash exactly if it strays. -/
theorem run_ends (arguments : List String) (w : World) (here : String) :
    ((run arguments w here).exit = .success
        ∨ ((run arguments w here).exit = .misuse ∧ parse arguments = .error .misuse)
        ∨ ((run arguments w here).exit = .failure
          ∧ ∃ line ∈ (run arguments w here).printed, IsFaultLine line)
        ∨ ∃ crash, (run arguments w here).exit = .crash crash
          ∧ ∀ line ∈ (run arguments w here).printed, ¬IsFaultLine line)
      ∧ ∀ crash, (run arguments w here).exit = .crash crash ↔
        ∃ a, parse arguments = .ok a ∧ Strays a w crash := by
  unfold run
  cases hparse : parse arguments with
  | error stop =>
    -- nothing is done, so nothing can stray
    cases stop with
    | help =>
      refine ⟨.inl rfl, fun crash => ⟨fun h => ?_, fun ⟨a, h, _⟩ => ?_⟩⟩
      · cases h
      · cases h
    | misuse =>
      refine ⟨.inr (.inl ⟨rfl, rfl⟩), fun crash => ⟨fun h => ?_, fun ⟨a, h, _⟩ => ?_⟩⟩
      · cases h
      · cases h
  | ok a =>
    dsimp only
    have hends := (runWith_course a w here).ends
    constructor
    · cases hends with
      | success h => exact .inl h
      | failure h line => exact .inr (.inr (.inl ⟨h, line⟩))
      | crash h hstrays lines => exact .inr (.inr (.inr ⟨_, h, lines⟩))
    · intro crash
      constructor
      · intro h
        cases hends with
        | success h' =>
          rw [h'] at h
          cases h
        | failure h' line =>
          rw [h'] at h
          cases h
        | crash h' hstrays lines =>
          rw [h'] at h
          cases h
          exact ⟨a, rfl, hstrays⟩
      · rintro ⟨a', h, hstrays⟩
        cases h
        exact hstrays.exit_eq here

/-- Files with a document without operations. -/
def emptyWorld : World where
  files := [(["spec.json"], .file "\x7b\"paths\": \x7b\x7d\x7d".toUTF8.toList)]

/-- A filter that is no search pattern is not reported. -/
theorem run_strays_pattern :
    (∃ crash, (run ["spec.json", "--match-path", "("] emptyWorld "/here").exit = .crash crash)
      ∧ ¬∃ line ∈ (run ["spec.json", "--match-path", "("] emptyWorld "/here").printed,
        IsFaultLine line := by
  have hcode : (run ["spec.json", "--match-path", "("] emptyWorld "/here").exit.code? = none := by
    decide +kernel
  have hprinted : (run ["spec.json", "--match-path", "("] emptyWorld "/here").printed
      = ["🚀 Генерация клиента из spec.json"] := by
    decide +kernel
  constructor
  · cases hexit : (run ["spec.json", "--match-path", "("] emptyWorld "/here").exit with
    | crash crash => exact ⟨crash, rfl⟩
    | _ =>
      rw [hexit] at hcode
      cases hcode
  · rw [hprinted]
    decide

end CommandLine

end OpenApiClient
