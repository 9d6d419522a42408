/-
A run from a saved configuration.

A configuration can be saved, and code be generated from the saved file later on.  This should give
what the run would have given that was asked for the configuration.  Both runs have the same
configuration then, by `ofMembers_written`, but they do not see the same files: the later one finds
the saved configuration where the other one found nothing, or what stood there before.

So the proof is about two trees of files that differ in that one place.  A reference in the
document may name the file, or lead through its place, and the code may be written below it.  The
weak place is writing: see `Source.passes`.
-/
import OpenApiClient.Proofs.Saving

set_option autoImplicit false

namespace OpenApiClient

open Source (World Files)

namespace CommandLine

/-! ## Generating beside two trees -/

/-- Neither the document nor the code of a configuration is the file of a configuration, and the way
to the code does not lead through the place of that file. -/
structure LeavesApart (c : Configuration) (files : Files) : Prop where
  document : ∀ path, c.value .openApiPath = .text path → Source.LiesApart settingsPlace files path
  code : ∀ path, c.value .outputPath = .text path → Source.passes settingsPlace path = false

/-- An ending that is not reported. -/
def Ending.IsCrash (e : Ending) : Prop := ∃ crash, e = .crashed crash

/-- Endings of one kind end a run with one number. -/
theorem Ending.code?_eq {e e' : Ending} (h : e.IsCrash ↔ e'.IsCrash) (mark : String)
    (printed printed' : List String) (files files' : Files) :
    (e.outcome mark printed files).exit.code? = (e'.outcome mark printed' files').exit.code? := by
  cases e with
  | reported message =>
    cases e' with
    | reported message' => rfl
    | crashed crash =>
      obtain ⟨crash, h⟩ := h.2 ⟨crash, rfl⟩
      cases h
  | crashed crash =>
    obtain ⟨crash', rfl⟩ := h.1 ⟨crash, rfl⟩
    rfl

theorem Ending.outcome_files (e : Ending) (mark : String) (printed : List String) (files : Files) :
    (e.outcome mark printed files).files = files := by
  cases e <;> rfl

variable {c : Configuration} {f f' : Files}

/-- The same code is generated beside both trees, or none is, and the ends are of one kind. -/
theorem generate_agrees (h : f.ReadAlike settingsPlace f') (hflat : c.IsFlat)
    (hc : LeavesApart c f) (web : Source.Web) :
    Agrees Ending.IsCrash Eq (generate c ⟨f, web⟩) (generate c ⟨f', web⟩) := by
  have hescapes : ∀ (location : String) (e : Source.LoadFault),
      Ending.IsCrash (Ending.ofDocument location e) ↔ e.Escapes := by
    intro location e
    constructor
    · rintro ⟨crash, hcrash⟩
      exact (ofDocument_eq_crashed_iff.1 hcrash).1
    · exact fun he => ⟨.document e, ofDocument_eq_crashed_iff.2 ⟨he, rfl⟩⟩
  unfold generate
  refine (Agrees.refl _).bind_of_eq fun s s' hs _ heq => ?_
  subst heq
  have hpath := hflat.openApiPath (mapError_eq_ok_iff.1 hs)
  have hload := Source.load_agrees h web (hc.document _ hpath)
  refine (hload.mapError fun e e' hee' => ?_).bind fun d d' heq => ?_
  · exact (hescapes _ e).trans (hee'.trans (hescapes _ e').symm)
  · subst heq
    exact Agrees.refl _

/-- Where code is generated beside both trees, it is written beside both or beside none. -/
theorem written_alike (h : f.AlikeBut settingsPlace f') (hc : LeavesApart c f)
    (hlocation : HasLocation c) {web : Source.Web} {code : String}
    (hcode : generate c ⟨f, web⟩ = .ok code) (hcode' : generate c ⟨f', web⟩ = .ok code)
    (printed printed' : List String) (here : String) :
    (runGenerate c printed ⟨f, web⟩ here).exit.code?
        = (runGenerate c printed' ⟨f', web⟩ here).exit.code?
      ∧ (runGenerate c printed ⟨f, web⟩ here).files.AlikeBut settingsPlace
        (runGenerate c printed' ⟨f', web⟩ here).files := by
  by_cases htext : ∃ path, c.value .outputPath = .text path
  · obtain ⟨path, hpath⟩ := htext
    obtain ⟨hok, hfiles⟩ := writeCode_alike h (hc.code path hpath) code
    cases hwrite : writeCode code path f with
    | mk result files =>
      cases hwrite' : writeCode code path f' with
      | mk result' files' =>
        -- the two trees are alike on the way, so both writings succeed or neither
        rw [hwrite, hwrite'] at hok hfiles
        cases result with
        | ok u =>
          cases result' with
          | ok u' =>
            rw [hlocation.run_of_written hcode hpath hwrite,
              hlocation.run_of_written hcode' hpath hwrite']
            exact ⟨rfl, hfiles⟩
          | error e' => cases hok
        | error e =>
          cases result' with
          | ok u' => cases hok
          | error e' =>
            rw [hlocation.run_of_unwritten hcode hpath hwrite,
              hlocation.run_of_unwritten hcode' hpath hwrite']
            exact ⟨rfl, hfiles⟩
  · rw [hlocation.run_of_pathless hcode (not_exists.1 htext),
      hlocation.run_of_pathless hcode' (not_exists.1 htext)]
    exact ⟨rfl, h⟩

/-- Two runs that generate code beside both trees end alike, and leave trees behind that agree. -/
theorem runGenerate_alike (h : f.ReadAlike settingsPlace f') (hflat : c.IsFlat)
    (hc : LeavesApart c f) (web : Source.Web) (printed printed' : List String) (here : String) :
    (runGenerate c printed ⟨f, web⟩ here).exit.code?
        = (runGenerate c printed' ⟨f', web⟩ here).exit.code?
      ∧ (runGenerate c printed ⟨f, web⟩ here).files.AlikeBut settingsPlace
        (runGenerate c printed' ⟨f', web⟩ here).files := by
  by_cases hlocation : HasLocation c
  · have hgenerate := generate_agrees h hflat hc web
    cases hcode : generate c ⟨f, web⟩ with
    | error e =>
      cases hcode' : generate c ⟨f', web⟩ with
      | error e' =>
        rw [hcode, hcode'] at hgenerate
        cases hgenerate with
        | fault hkind =>
          rw [hlocation.run_of_error hcode, hlocation.run_of_error hcode', Ending.outcome_files,
            Ending.outcome_files]
          exact ⟨Ending.code?_eq hkind _ _ _ _ _, h.alike⟩
      | ok code' =>
        rw [hcode, hcode'] at hgenerate
        cases hgenerate
    | ok code =>
      cases hcode' : generate c ⟨f', web⟩ with
      | error e' =>
        rw [hcode, hcode'] at hgenerate
        cases hgenerate
      | ok code' =>
        rw [hcode, hcode'] at hgenerate
        cases hgenerate with
        | ok heq =>
          subst heq
          exact written_alike h.alike hc hlocation hcode hcode' printed printed' here
  · obtain ⟨e, mark, hrun⟩ := runGenerate_of_not_hasLocation hlocation
    rw [hrun, hrun, Ending.outcome_files, Ending.outcome_files]
    exact ⟨Ending.code?_eq Iff.rfl _ _ _ _ _, h.alike⟩

/-! ## Two runs -/

theorem parse_nil : parse [] = .ok {} := rfl

/-- A run without arguments, after one that may have saved a configuration. -/
def runAfter (saving : List String) (w : World) (here : String) : Outcome :=
  run [] { w with files := (run saving w here).files } here

/-- A saved configuration that is flat and read as it was written is the configuration of a run
without arguments. -/
theorem configured_saved {w : World} {text : String} (hflat : c.IsFlat)
    (hreads : c.ReadsBack text) : Configured {} { w with files := savedIn w.files text } c := by
  have hload : Configuration.load? (savedIn w.files text) Configuration.fileName
      = .ok (some c) := by
    rw [load?_fileName (at?_savedIn w.files text) (Text.decode_toUTF8 text), hreads]
    exact congrArg (fun c => Except.ok (some c)) (Configuration.ofMembers_written hflat)
  exact .file hload

/-- Whoever asks for the configuration has the same one. -/
theorem Configured.saving {a : Arguments} {w : World} (h : Configured a w c) :
    Configured a.saving w c := by
  cases h with
  | file h => exact .file h
  | usual h hname => exact .usual h hname

/-- A run that is asked for a configuration that can be written saves it. -/
theorem run_saving {arguments : List String} {a : Arguments} {w : World} {text : String}
    (here : String) (hparse : parse arguments = .ok a) (hinit : a.isInit = true)
    (hpath : a.settingsFile = "") (hc : Configured a w c) (hwritten : c.Written text) :
    (run arguments w here).exit = .success
      ∧ (run arguments w here).files = savedIn w.files text := by
  have hsave := hwritten.save_eq (hc.at?_ne_directory hpath)
  obtain ⟨file, printed, hfound, rfl⟩ := hc.found
  have hname : a.settingsPath = Configuration.fileName := if_pos hpath
  unfold run
  rw [hparse]
  dsimp only
  rw [runWith_of_init hfound hinit, runSave, hname, hsave]
  exact ⟨rfl, rfl⟩

/-- A run that is asked for code generates it from its configuration. -/
theorem exists_runGenerate {arguments : List String} {a : Arguments} {w : World}
    (here : String) (hparse : parse arguments = .ok a) (hinit : a.isInit = false)
    (hc : Configured a w c) :
    ∃ printed, run arguments w here = runGenerate c printed w here := by
  obtain ⟨file, printed, hfound, rfl⟩ := hc.found
  unfold run
  rw [hparse]
  exact ⟨printed, runWith_of_generate hfound hinit⟩

/-- The configuration of a run on one document. -/
def specConfiguration (namespaceName outputPath : String) : Configuration where
  value
    | .openApiPath => .text "spec.json"
    | .namespaceName => .text namespaceName
    | .outputPath => .text outputPath
    | k => k.default

/-- The lines of its text. -/
def specLines (namespaceName outputPath : String) : List String := [
  "openapi_path = \"spec.json\"\n",
  "namespace = \"" ++ namespaceName ++ "\"\n",
  "output_path = \"" ++ outputPath ++ "\"\n",
  "use_openapi_title = true\n",
  "interface_name = \"ApiClient\"\n",
  "generate_contracts = true\n",
  "generate_xml_doc_code_comments = true\n",
  "add_auto_generated_header = true\n",
  "return_iapi_response = false\n",
  "generate_operation_headers = true\n",
  "type_accessibility = \"public\"\n",
  "use_cancellation_tokens = false\n",
  "use_iso_date_format = false\n",
  "additional_namespaces = []\n",
  "exclude_namespaces = []\n",
  "include_tags = []\n",
  "include_path_matches = []\n"]

theorem isFlat_spec (namespaceName outputPath : String) :
    (specConfiguration namespaceName outputPath).IsFlat := by
  intro k
  cases k <;> exact .inl rfl

/-- A flat configuration is written to its lines. -/
theorem written_join {lines : List String} (hflat : c.IsFlat)
    (hlines : (c.members.filter fun m => !m.2.isNull).mapM Toml.entryLine = .ok lines)
    (hbytes : ((lines.flatMap String.toList).all fun ch => !Text.isHalf ch) = true) :
    c.Written (String.join lines) := by
  refine ⟨by rw [hflat.text_eq, hlines]; rfl, fun ch hch => ?_⟩
  rw [String.toList_join] at hch
  exact (Bool.not_eq_true' _).mp (List.all_eq_true.1 hbytes ch hch)

/-- Files with a document without operations, and with a configuration. -/
def specWorld : World where
  files := [(["spec.json"], .file "\x7b\"paths\": \x7b\x7d\x7d".toUTF8.toList),
    (["refitter.toml"], .file "namespace = \"Shop\"".toUTF8.toList)]

/-- Arguments that name the document. -/
def specArguments : Arguments := ({} : Arguments).set .openApiPath (.text "spec.json")

theorem parse_spec : parse ["spec.json"] = .ok specArguments := by
  have hwords : wordsOf ["spec.json"] = .ok [.plain "spec.json"] := by
    rw [wordsOf, if_neg (by decide), wordOf_plain (by decide +kernel)]
    rfl
  unfold parse
  rw [hwords]
  rfl

theorem at?_spec : specWorld.files.at? settingsPlace
    = some (.file "namespace = \"Shop\"".toUTF8.toList) := rfl

theorem load?_spec : Configuration.load? specWorld.files Configuration.fileName
    = .ok (some (Configuration.ofMembers [(.text "namespace", .text "Shop")])) := by
  have hread : Toml.read (Text.normalizeLineEnds "namespace = \"Shop\"".toList)
      = .ok [(.text "namespace", .text "Shop")] := Members.eq_ok_of_sameFlat (by decide +kernel)
  rw [load?_fileName at?_spec (Text.decode_toUTF8 _), hread]
  rfl

theorem configured_spec :
    Configured specArguments specWorld (specConfiguration "Shop" "Output.cs") := by
  have hmerge : (Configuration.ofMembers [(.text "namespace", .text "Shop")]).merge
      specArguments.effective = specConfiguration "Shop" "Output.cs" :=
    congrArg Configuration.mk (funext fun k => by cases k <;> rfl)
  exact hmerge ▸ .file load?_spec

/-- Arguments with a way to the code that leads through the file of the configuration. -/
def barredArguments : Arguments := specArguments.set .outputPath (.text "refitter.toml/../Out.cs")

/-- Their configuration, if there is no other. -/
def barredConfiguration : Configuration :=
  specConfiguration "GeneratedCode" "refitter.toml/../Out.cs"

theorem parse_barred :
    parse ["spec.json", "--output", "refitter.toml/../Out.cs"] = .ok barredArguments := by
  have hwords : wordsOf ["spec.json", "--output", "refitter.toml/../Out.cs"]
      = .ok [.plain "spec.json", .option (.store .outputPath) none,
        .plain "refitter.toml/../Out.cs"] := by
    rw [wordsOf, if_neg (by decide), wordOf_plain (by decide +kernel), wordsOf, if_neg (by decide),
      wordOf_name (by decide +kernel) rfl, wordsOf, if_neg (by decide),
      wordOf_plain (by decide +kernel)]
    rfl
  unfold parse
  rw [hwords]
  rfl

theorem configured_barred : Configured barredArguments emptyWorld barredConfiguration := by
  have hload : Configuration.load? emptyWorld.files Configuration.fileName = .ok none :=
    if_neg (by decide +kernel)
  have hmerge : Configuration.default.merge barredArguments.effective = barredConfiguration :=
    congrArg Configuration.mk (funext fun k => by cases k <;> rfl)
  exact hmerge ▸ .usual hload rfl

/-- Where a path opens a file below the working directory, a file is left behind. -/
theorem exists_writeText_at? {files : Files} {path : String} {names : List String}
    (h : files.Opens path (.inside names)) (text : String) :
    ∃ content, (files.writeText path text).2.at? (.inside names) = some (.file content) := by
  have hnames : names ≠ [] := by
    rintro rfl
    exact h.free rfl
  cases hencode : Text.encodeFault? .utf8 text.toList with
  | none =>
    rw [h.writeText hencode]
    exact ⟨_, Files.at?_put_self _ hnames⟩
  | some fault =>
    rw [h.writeText_of_fault hencode]
    exact ⟨_, Files.at?_put_self _ hnames⟩

/-- The way leads through a directory that is made for it. -/
theorem run_barred : ∃ content,
    (run ["spec.json", "--output", "refitter.toml/../Out.cs"] emptyWorld "/here").files.at?
      (.inside ["Out.cs"]) = some (.file content) := by
  have hc : Announced barredArguments emptyWorld barredConfiguration :=
    ⟨configured_barred, rfl, rfl, by decide⟩
  have hgenerate : (generate barredConfiguration emptyWorld).isOk = true := by decide +kernel
  obtain ⟨code, hcode⟩ := exists_ok hgenerate
  -- a directory is made in the place of the configuration, which is still free
  have hmade : emptyWorld.files.ensureDirectories (Source.parentPath "refitter.toml/../Out.cs")
      = .ok (emptyWorld.files.put ["refitter.toml"] .directory) := by
    decide +kernel
  have hopens : (emptyWorld.files.put ["refitter.toml"] .directory).Opens "refitter.toml/../Out.cs"
      (.inside ["Out.cs"]) :=
    ⟨.inl (by decide), by decide +kernel, by decide⟩
  have hwrite : writeCode code "refitter.toml/../Out.cs" emptyWorld.files
      = (emptyWorld.files.put ["refitter.toml"] .directory).writeText "refitter.toml/../Out.cs"
        code := by
    unfold writeCode
    dsimp only
    rw [if_neg (by decide), hmade]
  obtain ⟨content, hcontent⟩ := exists_writeText_at? hopens code
  obtain ⟨printed, hdirect⟩ := exists_runGenerate "/here" parse_barred rfl configured_barred
  refine ⟨content, ?_⟩
  rw [hdirect]
  cases hresult : writeCode code "refitter.toml/../Out.cs" emptyWorld.files with
  | mk written files =>
    rw [hwrite] at hresult
    rw [hresult] at hcontent
    cases written with
    | ok u =>
      rw [hc.hasLocation.run_of_written hcode rfl (hwrite.trans hresult)]
      exact hcontent
    | error f =>
      rw [hc.hasLocation.run_of_unwritten hcode rfl (hwrite.trans hresult)]
      exact hcontent

/-- Where the way to the code is barred, nothing is written. -/
theorem runGenerate_of_barred {w : World} {path : String} (hpath : c.value .outputPath = .text path)
    (hdirectory : Source.parentPath path ≠ "")
    (h : (w.files.ensureDirectories (Source.parentPath path)).isOk = false)
    (printed : List String) (here : String) : (runGenerate c printed w here).files = w.files := by
  -- the directories are made before anything is written
  have hwrite : ∀ code, ∃ e, writeCode code path w.files = (.error e, w.files) := by
    intro code
    unfold writeCode
    dsimp only
    rw [if_neg hdirectory]
    cases hresult : w.files.ensureDirectories (Source.parentPath path) with
    | error e => exact ⟨e, rfl⟩
    | ok files =>
      rw [hresult] at h
      cases h
  by_cases hlocation : HasLocation c
  · cases hcode : generate c w with
    | error e =>
      rw [hlocation.run_of_error hcode]
      exact Ending.outcome_files _ _ _ _
    | ok code =>
      obtain ⟨e, hwrite⟩ := hwrite code
      rw [hlocation.run_of_unwritten hcode hpath hwrite]
      exact Ending.outcome_files _ _ _ _
  · obtain ⟨e, mark, hrun⟩ := runGenerate_of_not_hasLocation hlocation
    rw [hrun]
    exact Ending.outcome_files _ _ _ _

/-- It does not lead through a file. -/
theorem runAfter_barred :
    (runAfter ["--init-config", "spec.json", "--output", "refitter.toml/../Out.cs"] emptyWorld
      "/here").files.at? (.inside ["Out.cs"]) = none := by
  have hparse : parse ["--init-config", "spec.json", "--output", "refitter.toml/../Out.cs"]
      = .ok barredArguments.saving := by
    rw [AsksToSave.first.parse_eq, parse_barred]
    rfl
  have hwritten : barredConfiguration.Written
      (String.join (specLines "GeneratedCode" "refitter.toml/../Out.cs")) := by
    refine written_join (isFlat_spec _ _) (by decide +kernel) ?_
    simp only [specLines, List.flatMap_cons, List.flatMap_nil]
    repeat rw [String.toList_ofList]
    decide +kernel
  have hreads : barredConfiguration.ReadsBack
      (String.join (specLines "GeneratedCode" "refitter.toml/../Out.cs")) := by
    unfold Configuration.ReadsBack
    simp only [specLines, String.toList_join, List.flatMap_cons, List.flatMap_nil]
    repeat rw [String.toList_ofList]
    exact Members.eq_ok_of_sameFlat (by decide +kernel)
  obtain ⟨-, hsaved⟩ := run_saving "/here" hparse rfl rfl configured_barred.saving hwritten
  obtain ⟨printed, hafter⟩ :=
    exists_runGenerate "/here" parse_nil rfl (configured_saved (isFlat_spec _ _) hreads)
  -- beside the saved configuration nothing has changed
  have halike : emptyWorld.files.AlikeBut settingsPlace
      (savedIn emptyWorld.files
        (String.join (specLines "GeneratedCode" "refitter.toml/../Out.cs"))) :=
    savedIn_alike (by decide) _
  unfold runAfter
  rw [hsaved, hafter, runGenerate_of_barred rfl (by decide) (by decide +kernel)]
  exact (halike.same _ (by decide)).symm

end CommandLine

end OpenApiClient
