/-
Saving a configuration.

A run that is asked for the configuration writes what it would have generated code from.  Its
arguments are otherwise taken as they are (`AsksToSave.parse_eq`), so the question is what becomes
of the configuration in the file.  It is written without its absent values and read with default
values in their place.  Only the location of the document can be absent, and its default value is
absent as well, so a configuration that is a flat table is read as it was (`ofMembers_written`).

That the text of a table is read as the table is assumed here, for the one table that is written:
`Configuration.ReadsBack`.

The saved file is no JSON text, whatever it says: it begins with a key.
-/
import OpenApiClient.Proofs.Artifacts
import OpenApiClient.Proofs.Consulting
import OpenApiClient.Proofs.DeclaredTypes
import OpenApiClient.Proofs.Encoding

set_option autoImplicit false

namespace OpenApiClient

namespace CommandLine

/-! ## Asking for the configuration -/

/-- Arguments that ask for the configuration to be saved, and say the same otherwise.  After the
mark for plain words nothing can be asked for. -/
inductive AsksToSave (arguments : List String) : List String → Prop
  | first : AsksToSave arguments ("--init-config" :: arguments)
  | last (h : "--" ∉ arguments) : AsksToSave arguments (arguments ++ ["--init-config"])

namespace Arguments

/-- The arguments that say the same and ask for the configuration to be saved. -/
def saving (a : Arguments) : Arguments := { a with isInit := true }

variable {a b : Arguments}

theorem applyValue_saving (a : Arguments) (action : Action) (text : String) :
    a.saving.applyValue action text = (a.applyValue action text).saving := by
  cases action with
  | append key =>
    unfold applyValue saving
    dsimp only
    split <;> rfl
  | _ => rfl

theorem apply_saving (a : Arguments) (action : Action) :
    a.saving.apply action = (a.apply action).map saving := by
  cases action <;> rfl

/-- What is asked for at first is asked for in the end. -/
theorem read_saving (isFree isWrong : Bool) (a : Arguments) (ws : List Word) :
    read isFree isWrong a.saving ws = (read isFree isWrong a ws).map saving := by
  fun_induction read isFree isWrong a ws with
  | case1 => rfl
  | case2 isFree isWrong a hright => rw [read, if_neg hright]; rfl
  | case3 isFree isWrong a action value rest htakes ih =>
    rw [read, if_pos htakes, applyValue_saving, ih]
  | case4 isFree isWrong a action value rest htakes => rw [read, if_neg htakes]; rfl
  | case5 isFree isWrong a action text rest htakes ih =>
    rw [read, if_pos htakes, applyValue_saving, ih]
  | case6 isFree isWrong a action text rest htakes ih =>
    rw [read, if_neg htakes, apply_saving]
    cases a.apply action with
    | error stop => rfl
    | ok a => exact ih a
  | case7 isFree isWrong a action rest hplain htakes =>
    rw [read, if_pos htakes]
    · rfl
    · exact hplain
  | case8 isFree isWrong a action rest hplain htakes ih =>
    rw [read, if_neg htakes, apply_saving]
    · cases a.apply action with
      | error stop => rfl
      | ok a => exact ih a
    · exact hplain
  | case9 isFree isWrong a rest ih => rw [read, ih]
  | case10 isWrong a rest ih => rw [read, if_pos rfl, ih]
  | case11 isFree isWrong a rest hfree ih => rw [read, if_neg hfree, ih]
  | case12 isWrong a text rest ih => rw [read, if_pos rfl]; exact ih
  | case13 isFree isWrong a text rest hfree ih => exact (if_neg hfree).trans ih
  | case14 isWrong a text rest hmark ih =>
    rw [read, if_pos rfl]
    · exact ih
    · exact hmark
  | case15 isFree isWrong a text rest hmark hfree ih =>
    rw [read, if_neg hfree, ih]
    exact hmark

/-- A last word is the first one only if there is no other. -/
theorem append_ne_cons {w last : Word} {rest : List Word} (hlast : w ≠ last)
    (h : ∀ more, rest = w :: more → False) (more : List Word) :
    rest ++ [last] = w :: more → False := by
  intro hmore
  cases rest with
  | nil => exact hlast (List.cons.inj hmore).1.symm
  | cons first rest => exact h rest (by rw [(List.cons.inj hmore).1])

/-- The option that asks for it can stand behind all other arguments. -/
theorem read_append_saving (isFree isWrong : Bool) (a : Arguments) (ws : List Word) :
    read isFree isWrong a (ws ++ [.option .initConfig none])
      = (read isFree isWrong a ws).map saving := by
  fun_induction read isFree isWrong a ws with
  | case1 => rfl
  | case2 isFree isWrong a hright =>
    change (if isWrong then _ else _) = _
    rw [if_neg hright]; rfl
  | case3 isFree isWrong a action value rest htakes ih => exact (if_pos htakes).trans ih
  | case4 isFree isWrong a action value rest htakes => exact if_neg htakes
  | case5 isFree isWrong a action text rest htakes ih => exact (if_pos htakes).trans ih
  | case6 isFree isWrong a action text rest htakes ih =>
    rw [List.cons_append, List.cons_append, read, if_neg htakes]
    cases a.apply action with
    | error stop => rfl
    | ok a => exact ih a
  | case7 isFree isWrong a action rest hplain htakes =>
    rw [List.cons_append, read, if_pos htakes]
    · rfl
    · exact fun text => append_ne_cons (fun h => by cases h) (hplain text)
  | case8 isFree isWrong a action rest hplain htakes ih =>
    rw [List.cons_append, read, if_neg htakes]
    · cases a.apply action with
      | error stop => rfl
      | ok a => exact ih a
    · exact fun text => append_ne_cons (fun h => by cases h) (hplain text)
  | case9 isFree isWrong a rest ih => exact ih
  | case10 isWrong a rest ih => exact ih
  | case11 isFree isWrong a rest hfree ih => exact (if_neg hfree).trans ih
  | case12 isWrong a text rest ih => exact ih
  | case13 isFree isWrong a text rest hfree ih => exact (if_neg hfree).trans ih
  | case14 isWrong a text rest hmark ih =>
    rw [List.cons_append, read, if_pos rfl]
    · exact ih
    · exact append_ne_cons (fun h => by cases h) hmark
  | case15 isFree isWrong a text rest hmark hfree ih =>
    rw [List.cons_append, read, if_neg hfree, ih]
    exact append_ne_cons (fun h => by cases h) hmark

end Arguments

theorem wordOf_plain {s : String} (h : s.startsWith "-" = false) : wordOf s = .ok (.plain s) := by
  unfold wordOf
  rw [h]
  rfl

/-- An argument that is the name of an option. -/
theorem wordOf_name {s : String} {action : Action} (h : s.startsWith "-" = true)
    (hlookup : options.lookup s = some action) : wordOf s = .ok (.option action none) := by
  unfold wordOf
  rw [h, hlookup]
  rfl

theorem wordOf_initConfig : wordOf "--init-config" = .ok (.option .initConfig none) :=
  wordOf_name (by decide +kernel) rfl

theorem wordsOf_append {arguments : List String} (h : "--" ∉ arguments) {last : String}
    (hlast : last ≠ "--") :
    wordsOf (arguments ++ [last])
      = wordsOf arguments >>= fun ws => (wordOf last).map fun w => ws ++ [w] := by
  induction arguments with
  | nil =>
    have hwords : wordsOf [last] = wordOf last >>= fun w => .ok [w] := if_neg hlast
    rw [List.nil_append, hwords]
    cases wordOf last <;> rfl
  | cons s rest ih =>
    have hs : s ≠ "--" := fun heq => h (heq ▸ List.mem_cons_self)
    rw [List.cons_append, wordsOf, if_neg hs, wordsOf, if_neg hs,
      ih fun hrest => h (List.mem_cons_of_mem s hrest)]
    cases wordOf s with
    | error stop => rfl
    | ok w =>
      cases wordsOf rest with
      | error stop => rfl
      | ok ws => cases wordOf last <;> rfl

/-- The arguments say the same, and ask for the configuration to be saved. -/
theorem AsksToSave.parse_eq {arguments more : List String} (h : AsksToSave arguments more) :
    parse more = (parse arguments).map Arguments.saving := by
  cases h with
  | first =>
    have hwords : wordsOf ("--init-config" :: arguments)
        = (wordsOf arguments).map (.option .initConfig none :: ·) := by
      rw [wordsOf, if_neg (by decide), wordOf_initConfig]
      cases wordsOf arguments <;> rfl
    unfold parse
    rw [hwords]
    cases wordsOf arguments with
    | error stop => rfl
    | ok ws =>
      -- this option takes no value, so the words after it are read as before
      have hfirst : Arguments.read true false {} (.option .initConfig none :: ws)
          = Arguments.read true false (Arguments.saving {}) ws := by
        cases ws with
        | nil => rfl
        | cons w ws => cases w <;> rfl
      exact hfirst.trans (Arguments.read_saving true false {} ws)
  | last hmark =>
    unfold parse
    rw [wordsOf_append hmark (by decide), wordOf_initConfig]
    cases wordsOf arguments with
    | error stop => rfl
    | ok ws => exact Arguments.read_append_saving true false {} ws

end CommandLine

/-! ## What is written of a configuration -/

namespace ConfigKey

theorem mem_all (k : ConfigKey) : k ∈ all := by
  cases k <;> decide

theorem name_injective {k k' : ConfigKey} (h : k.name = k'.name) : k = k' := by
  have hall : ∀ k ∈ all, ∀ k' ∈ all, k.name = k'.name → k = k' := by decide +kernel
  exact hall k (mem_all k) k' (mem_all k') h

end ConfigKey

namespace Configuration

variable {c : Configuration}

/-- All that has to be known about the file that a configuration is written to: the configuration
has a text, and the text has a form in bytes. -/
structure Written (c : Configuration) (text : String) : Prop where
  text_eq : c.text = .ok text
  bytes : HasBytes text

/-- A text that a configuration is written to is read as what is not absent in the configuration. -/
def ReadsBack (c : Configuration) (text : String) : Prop :=
  Toml.read (Text.normalizeLineEnds text.toList) = .ok (c.members.filter fun m => !m.2.isNull)

/-- A key is looked up among the members that are not absent. -/
theorem getText?_written (c : Configuration) (k : ConfigKey) :
    Members.getText? (c.members.filter fun m => !m.2.isNull) k.name
      = if (c.value k).isNull then none else some (c.value k) := by
  have hmem : ∀ m, m ∈ (c.members.filter fun m => !m.2.isNull) → m.1.isText k.name = true →
      m.2 = c.value k ∧ (c.value k).isNull = false := by
    intro m hm hkey
    obtain ⟨hm, hnull⟩ := List.mem_filter.1 hm
    obtain ⟨k', -, rfl⟩ := List.mem_map.1 hm
    cases ConfigKey.name_injective (beq_iff_eq.1 hkey)
    exact ⟨rfl, by simpa using hnull⟩
  unfold Members.getText?
  cases hfind : (c.members.filter fun m => !m.2.isNull).find? fun m => m.1.isText k.name with
  | some m =>
    have hkey := List.find?_some hfind
    obtain ⟨hvalue, hnull⟩ := hmem m (List.mem_of_find?_eq_some hfind) hkey
    rw [hnull, Option.map_some, hvalue]
    rfl
  | none =>
    cases hnull : (c.value k).isNull with
    | true => rfl
    | false =>
      -- the member of the key is not absent, so it would have been found
      have hk : (.text k.name, c.value k) ∈ c.members.filter fun m => !m.2.isNull :=
        List.mem_filter.2 ⟨List.mem_map.2 ⟨k, ConfigKey.mem_all k, rfl⟩, by simp [hnull]⟩
      exact absurd (beq_iff_eq.2 rfl) (List.find?_eq_none.1 hfind _ hk)

/-- The members that are not absent are those of the configuration itself. -/
theorem ofMembers_written (h : c.IsFlat) :
    ofMembers (c.members.filter fun m => !m.2.isNull) = c := by
  have hvalue : ∀ k,
      (Members.getText? (c.members.filter fun m => !m.2.isNull) k.name).getD k.default
        = c.value k := by
    intro k
    rw [getText?_written]
    cases hnull : (c.value k).isNull with
    | false => rfl
    | true =>
      obtain hfits | ⟨rfl, hvalue⟩ := h k
      · rw [ConfigKey.not_isNull_of_fits hfits] at hnull
        cases hnull
      · exact hvalue.symm
  exact congrArg Configuration.mk (funext hvalue)

end Configuration

/-! ## The text of a flat table -/

/-- Whether a value is written in the line of its key. -/
def Value.isLine : Value → Bool
  | .object _ _ => false
  | .list items => !items.any Value.isObject
  | v => !v.isNull

namespace Toml

/-- The line of an entry. -/
def entryLine (entry : Scalar × Value) : Except Halt String := do
  return (← writeKey entry.1.display) ++ " = " ++ (← writeValue entry.2) ++ "\n"

section Entries

variable {write : TableWriter} {fuel : Nat} {above : String}

theorem writeEntry_of_isLine (w : Written) {entry : Scalar × Value} (h : entry.2.isLine = true) :
    writeEntry write fuel above w entry
      = (entryLine entry).map fun line => { w with lines := w.lines ++ line } := by
  obtain ⟨key, v⟩ := entry
  have hline : ∀ key,
      (do return { w with lines := w.lines ++ key ++ " = " ++ (← writeValue v) ++ "\n" })
        = (do return key ++ " = " ++ (← writeValue v) ++ "\n" : Except Halt String).map
          fun line => { w with lines := w.lines ++ line } := by
    intro key
    cases writeValue v with
    | error e => rfl
    | ok text =>
      simp only [String.append_assoc]
      rfl
  unfold writeEntry entryLine
  cases writeKey key.display with
  | error e => rfl
  | ok key =>
    refine Eq.trans ?_ (hline key)
    -- what is written is the same text in all cases but those that `isLine` leaves out
    cases v with
    | object n ms => cases h
    | list items => exact if_neg ((Bool.not_eq_true' _).mp h ▸ Bool.false_ne_true)
    | scalar s =>
      have hnull : (Value.scalar s).isNull = false := (Bool.not_eq_true' _).mp h
      exact if_neg (hnull ▸ Bool.false_ne_true)
    | _ => rfl

/-- Entries that are written in lines leave their lines behind. -/
theorem writeEntries_of_isLine {entries : Members} (h : ∀ m ∈ entries, m.2.isLine = true)
    (w : Written) :
    entries.foldlM (writeEntry write fuel above) w = (entries.mapM entryLine).map fun lines =>
      { w with lines := w.lines ++ String.join lines } := by
  induction entries generalizing w with
  | nil =>
    change Except.ok w = Except.ok { w with lines := w.lines ++ String.join [] }
    rw [String.join_nil, String.append_empty]
  | cons entry entries ih =>
    obtain ⟨hentry, hrest⟩ := List.forall_mem_cons.1 h
    rw [List.foldlM_cons, List.mapM_cons, writeEntry_of_isLine w hentry]
    cases entryLine entry with
    | error e => rfl
    | ok line =>
      refine (ih hrest _).trans ?_
      cases entries.mapM entryLine with
      | error e => rfl
      | ok lines =>
        change Except.ok { w with lines := w.lines ++ line ++ String.join lines }
          = Except.ok { w with lines := w.lines ++ String.join (line :: lines) }
        rw [String.join_cons, String.append_assoc]

end Entries

/-- A table of entries that are written in lines is its lines. -/
theorem write_of_isLine {ms : Members} (h : ∀ m ∈ ms, m.2.isLine = true) :
    write ms = (ms.mapM entryLine).map String.join := by
  have htable : ∀ fuel, writeTable (fuel + 1) "" (.object 0 ms)
      = ms.foldlM (writeEntry (writeTable fuel) fuel "") {} := fun _ => rfl
  unfold write
  dsimp only
  rw [htable, writeEntries_of_isLine h]
  cases ms.mapM entryLine with
  | error e => rfl
  | ok lines =>
    -- there are no tables inside, so the lines are the whole text
    change Except.ok (({} : Written).lines ++ String.join lines ++ ({} : Written).lists) = _
    rw [String.append_empty, String.empty_append]
    rfl

/-- The line of an entry with a plain key begins with the key. -/
theorem toList_entryLine {key line : String} {v : Value} (hkey : isBareName key.toList = true)
    (h : entryLine (.text key, v) = .ok line) : ∃ more, line.toList = key.toList ++ more := by
  have hwritten : writeKey (Scalar.display (.text key)) = .ok key := by
    unfold writeKey Scalar.display
    simp only [hkey, Bool.true_or, if_true]
  unfold entryLine at h
  obtain ⟨_, hname, h⟩ := bind_eq_ok_iff.1 h
  cases hname.symm.trans hwritten
  obtain ⟨value, -, h⟩ := bind_eq_ok_iff.1 h
  cases h
  refine ⟨(" = " ++ value ++ "\n").toList, ?_⟩
  rw [← String.toList_append]
  simp only [String.append_assoc]

end Toml

theorem ConfigKey.isLine_of_fits {k : ConfigKey} {v : Value} (h : k.fits v = true) :
    v.isLine = true := by
  unfold fits at h
  split at h
  case h_4 items =>
    refine (Bool.not_eq_true' _).mpr (List.any_eq_false.2 fun item hitem hobject => ?_)
    have htext := List.all_eq_true.1 h item hitem
    cases item with
    | object n ms => cases htext
    | _ => cases hobject
  all_goals first | rfl | cases h

/-- The text of a flat configuration is its lines. -/
theorem Configuration.IsFlat.text_eq {c : Configuration} (h : c.IsFlat) :
    c.text
      = ((c.members.filter fun m => !m.2.isNull).mapM Toml.entryLine).map String.join := by
  refine Toml.write_of_isLine fun m hm => ?_
  obtain ⟨hm, hnull⟩ := List.mem_filter.1 hm
  obtain ⟨k, -, rfl⟩ := List.mem_map.1 hm
  obtain hfits | ⟨-, hvalue⟩ := h k
  · exact ConfigKey.isLine_of_fits hfits
  · rw [hvalue] at hnull
    cases hnull

/-! ## A saved text is no JSON -/

theorem Json.readFrom_ne_ok {a b : Char} (rest : List Char) (h : a = 'o' ∨ a = 'n' ∧ b = 'a')
    (r : Value × Json.Cursor) : Json.readFrom 0 (a :: b :: rest) ≠ .ok r := by
  obtain rfl | ⟨rfl, rfl⟩ := h
  · intro h
    cases h
  · intro h
    cases h

/-! ## The file of the configuration -/

/-- The place of the file that holds the configuration. -/
def settingsPlace : Source.Place := .inside [Configuration.fileName]

theorem place_fileName (files : Source.Files) :
    files.place Configuration.fileName = .ok (some settingsPlace) := by
  have hnames : Source.pathNames Configuration.fileName = [Configuration.fileName] := by decide
  have hstart : Configuration.fileName.startsWith "/" = false := by decide +kernel
  unfold Source.Files.place
  rw [if_neg (by decide), if_neg (by decide), hnames, hstart]
  rfl

/-- The file that a flat configuration is written to holds no JSON text. -/
theorem Configuration.IsFlat.readFrom_ne_ok {c : Configuration} (h : c.IsFlat) {text : String}
    (htext : c.text = .ok text) (r : Value × Json.Cursor) :
    Json.readFrom 0 text.toList ≠ .ok r := by
  -- the location of the document comes first, and if it is absent the name of the namespace
  have hfirst : ∃ key s ms, (c.members.filter fun m => !m.2.isNull) = (.text key, .text s) :: ms
      ∧ (key = "openapi_path" ∨ key = "namespace") := by
    obtain ⟨s, hs⟩ : ∃ s, c.value .namespaceName = .text s := by
      obtain hfits | ⟨hk, -⟩ := h .namespaceName
      · exact ConfigKey.exists_text_of_fits (.inr rfl) hfits
      · cases hk
    unfold Configuration.members ConfigKey.all
    rw [List.map_cons, List.map_cons, List.filter_cons, List.filter_cons, hs]
    obtain hfits | ⟨-, hnull⟩ := h .openApiPath
    · obtain ⟨s', hs'⟩ := ConfigKey.exists_text_of_fits (.inl rfl) hfits
      rw [hs']
      exact ⟨_, s', _, rfl, .inl rfl⟩
    · rw [hnull]
      exact ⟨_, s, _, rfl, .inr rfl⟩
  obtain ⟨key, s, ms, hms, hkey⟩ := hfirst
  rw [h.text_eq, hms, List.mapM_cons] at htext
  obtain ⟨lines, hlines, rfl⟩ := map_eq_ok_iff.1 htext
  obtain ⟨line, hline, hlines⟩ := bind_eq_ok_iff.1 hlines
  obtain ⟨rest, -, hlines⟩ := bind_eq_ok_iff.1 hlines
  cases hlines
  have hbare : Toml.isBareName key.toList = true := by
    obtain rfl | rfl := hkey <;> decide
  obtain ⟨more, hmore⟩ := Toml.toList_entryLine hbare hline
  rw [String.join_cons, String.toList_append, hmore]
  obtain rfl | rfl := hkey
  · exact Json.readFrom_ne_ok _ (.inl rfl) r
  · exact Json.readFrom_ne_ok _ (.inr ⟨rfl, rfl⟩) r

/-! ## A configuration that is saved -/

theorem find?_fileName (files : Source.Files) :
    files.find? Configuration.fileName = files.at? settingsPlace := by
  unfold Source.Files.find?
  rw [place_fileName]

/-- What stands in the file of the configuration is read as a table. -/
theorem load?_fileName {files : Source.Files} {content : List UInt8} {text : List Char}
    (h : files.at? settingsPlace = some (.file content))
    (hdecode : Text.decode content = .ok text) :
    Configuration.load? files Configuration.fileName
      = ((Toml.read (Text.normalizeLineEnds text)).mapError fun f =>
          Configuration.LoadFault.toml f (Text.normalizeLineEnds text)).map fun ms =>
            some (Configuration.ofMembers ms) := by
  have hfind : files.find? Configuration.fileName = some (.file content) :=
    (find?_fileName files).trans h
  have hhas : files.has Configuration.fileName = true := by
    rw [Source.Files.has, hfind]
    rfl
  have hbytes : files.read Configuration.fileName = .ok content := by
    unfold Source.Files.read
    rw [Source.Files.entry_eq_ok_of_find? hfind]
    rfl
  unfold Configuration.load? Configuration.read
  rw [if_pos hhas, hbytes]
  change (((Text.decode content).mapError Configuration.LoadFault.notUtf8 >>= _).map some) = _
  rw [hdecode]
  change (((Toml.read (Text.normalizeLineEnds text)).mapError _ >>= _).map some) = _
  cases Toml.read (Text.normalizeLineEnds text) <;> rfl

/-- Where a configuration is found, or none is looked for, no directory stands in its place. -/
theorem CommandLine.Configured.at?_ne_directory {a : CommandLine.Arguments} {w : Source.World}
    {c : Configuration} (h : CommandLine.Configured a w c) (ha : a.settingsFile = "") :
    w.files.at? settingsPlace ≠ some .directory := by
  intro hdirectory
  have hpath : a.settingsPath = Configuration.fileName := if_pos ha
  have hfind : w.files.hasDirectory a.settingsPath = true := by
    unfold Source.Files.hasDirectory
    rw [hpath, find?_fileName, hdirectory]
    rfl
  have hload := CommandLine.load?_eq_file_iff.2 ⟨hfind, rfl⟩
  cases h with
  | file h =>
    rw [hload] at h
    cases h
  | usual h _ =>
    rw [hload] at h
    cases h

/-- The files after a text was saved as the configuration.  The file is emptied twice before that,
when it is opened and when nothing has been written to it. -/
def savedIn (files : Source.Files) (text : String) : Source.Files :=
  ((files.set settingsPlace []).set settingsPlace []).set settingsPlace text.toUTF8.toList

theorem at?_savedIn (files : Source.Files) (text : String) :
    (savedIn files text).at? settingsPlace = some (.file text.toUTF8.toList) :=
  Source.Files.at?_put_self _ (List.cons_ne_nil _ _)

/-- Nothing else has changed. -/
theorem savedIn_alike {files : Source.Files} (hfree : files.at? settingsPlace ≠ some .directory)
    (text : String) : files.AlikeBut settingsPlace (savedIn files text) := by
  refine ⟨fun p hp => ?_, hfree, ?_⟩
  · unfold savedIn
    rw [Source.Files.at?_set_of_ne hp, Source.Files.at?_set_of_ne hp, Source.Files.at?_set_of_ne hp]
  · rw [at?_savedIn]
    exact fun heq => by cases heq

/-- A configuration is saved if there is no directory in the place of its file. -/
theorem Configuration.Written.save_eq {c : Configuration} {text : String} (h : c.Written text)
    {files : Source.Files} (hfree : files.at? settingsPlace ≠ some .directory) :
    c.save files Configuration.fileName = (.ok (), savedIn files text) := by
  have hopens : files.Opens Configuration.fileName settingsPlace :=
    ⟨.inl (by decide), place_fileName files, hfree⟩
  have hencode : Text.encodeFault? .utf8 text.toList = none := encodeFault?_eq_none_iff.2 h.bytes
  unfold Configuration.save savedIn
  rw [hopens.write, h.text_eq]
  dsimp only
  rw [(hopens.set []).writeText hencode]
  rfl

/-! ## Comparing flat tables -/

namespace Value

/-- Whether two lists are the same list of texts. -/
def sameTexts : List Value → List Value → Bool
  | [], [] => true
  | .scalar (.text s) :: vs, .scalar (.text t) :: ws => s = t && sameTexts vs ws
  | _, _ => false

/-- Whether two values are the same text, the same boolean or the same list of texts. -/
def sameFlat : Value → Value → Bool
  | .scalar (.text s), .scalar (.text t) => s = t
  | .scalar (.bool a), .scalar (.bool b) => a = b
  | .list vs, .list ws => sameTexts vs ws
  | _, _ => false

theorem eq_of_sameTexts {vs ws : List Value} (h : sameTexts vs ws = true) : vs = ws := by
  fun_induction sameTexts vs ws with
  | case1 => rfl
  | case2 s vs t ws ih =>
    obtain ⟨hst, hrest⟩ := (Bool.and_eq_true _ _).mp h
    rw [of_decide_eq_true hst, ih hrest]
  | case3 => cases h

theorem eq_of_sameFlat {v w : Value} (h : v.sameFlat w = true) : v = w := by
  unfold sameFlat at h
  split at h
  · rw [of_decide_eq_true h]
  · rw [of_decide_eq_true h]
  · rw [eq_of_sameTexts h]
  · cases h

end Value

/-- Whether two tables are the same flat table. -/
def Members.sameFlat : Members → Members → Bool
  | [], [] => true
  | (.text key, v) :: ms, (.text key', v') :: ms' => key = key' && v.sameFlat v' && sameFlat ms ms'
  | _, _ => false

theorem Members.eq_of_sameFlat {ms ms' : Members} (h : Members.sameFlat ms ms' = true) :
    ms = ms' := by
  fun_induction Members.sameFlat ms ms' with
  | case1 => rfl
  | case2 key v ms key' v' ms' ih =>
    obtain ⟨hfirst, hrest⟩ := (Bool.and_eq_true _ _).mp h
    obtain ⟨hkey, hvalue⟩ := (Bool.and_eq_true _ _).mp hfirst
    rw [of_decide_eq_true hkey, Value.eq_of_sameFlat hvalue, ih hrest]
  | case3 => cases h

/-- A result is a flat table if the comparison says so. -/
theorem Members.eq_ok_of_sameFlat {ε : Type} {r : Except ε Members} {ms : Members}
    (h : r.toOption.any (Members.sameFlat · ms) = true) : r = .ok ms := by
  cases r with
  | error e => cases h
  | ok ms' => exact congrArg Except.ok (Members.eq_of_sameFlat h)

end OpenApiClient
