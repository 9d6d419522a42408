/-
What writing does to the files.

`Files.content?` is all that is known of the files here: the bytes that a name stands for.
Making directories leaves it as it is, and so does every operation that fails.  Writing a file
changes it for one name, and `Wrote` says for which: the one that the path leads to, afterwards as
before, since no place on the way to it is a file.

The weak place is a text without a form in bytes.  The file is opened, and thereby emptied, before
that is noticed (`Opens.writeText_of_fault`).
-/
import OpenApiClient.Proofs.Outcomes
import OpenApiClient.Source.Files

set_option autoImplicit false

namespace OpenApiClient.Source.Files

variable {files files' : Files} {path : String} {p : Place}

/-! ## Contents -/

/-- The content of the file with some names from the working directory on. -/
def content? (files : Files) (names : List String) : Option (List UInt8) :=
  match files.at? (.inside names) with
  | some (.file content) => some content
  | _ => none

/-- Every file has the content it had, and none has been made. -/
def Kept (files files' : Files) : Prop :=
  ∀ names, files'.content? names = files.content? names

/-- The one file that a path leads to holds a content, and every other file has the content it
had.  The null device takes everything and stays empty. -/
inductive Wrote (path : String) (content : List UInt8) (files files' : Files) : Prop
  | file {names : List String} (hplace : files'.place path = .ok (some (.inside names)))
      (hcontent : files'.content? names = some content)
      (hothers : ∀ others, others ≠ names → files'.content? others = files.content? others)
  | device (hplace : files'.place path = .ok (some .nullDevice)) (hkept : files.Kept files')

theorem Kept.refl (files : Files) : files.Kept files := fun _ => rfl

theorem Kept.trans {files'' : Files} (h : files.Kept files') (h' : files'.Kept files'') :
    files.Kept files'' :=
  fun names => (h' names).trans (h names)

theorem Kept.wrote {files'' : Files} {content : List UInt8} (h : files.Kept files')
    (hwrote : files'.Wrote path content files'') : files.Wrote path content files'' := by
  cases hwrote with
  | file hplace hcontent hothers =>
    exact .file hplace hcontent fun others hne => (hothers others hne).trans (h others)
  | device hplace hkept => exact .device hplace (h.trans hkept)

/-! ## Looking something up -/

theorem find?_eq_some_iff {e : Entry} :
    files.find? path = some e ↔ ∃ p, files.place path = .ok (some p) ∧ files.at? p = some e := by
  unfold Files.find?
  constructor
  · intro h
    split at h
    next p hplace => exact ⟨p, hplace, h⟩
    next => cases h
  · rintro ⟨p, hplace, hat⟩
    rw [hplace]
    exact hat

/-- What is read at a place is what stands there. -/
theorem entry_eq {place : Option Place} (h : files.place path = .ok place) :
    files.entry path = match place.bind files.at? with
      | some e => .ok e
      | none => .error (.refused .notFound path) := by
  unfold Files.entry
  rw [h]
  rfl

theorem entry_eq_ok_of_find? {e : Entry} (h : files.find? path = some e) :
    files.entry path = .ok e := by
  obtain ⟨p, hplace, hat⟩ := find?_eq_some_iff.1 h
  rw [entry_eq hplace, Option.bind_some, hat]

/-- Something that is there can be read unless it is a directory. -/
theorem read_cases (h : files.has path) :
    (∃ content, files.find? path = some (.file content) ∧ files.read path = .ok content)
      ∨ files.hasDirectory path ∧ files.read path = .error (.refused .isDirectory path) := by
  obtain ⟨e, he⟩ := Option.isSome_iff_exists.1 h
  have hentry := entry_eq_ok_of_find? he
  unfold Files.read
  rw [hentry]
  cases e with
  | file content => exact .inl ⟨content, he, rfl⟩
  | directory => exact .inr ⟨by rw [Files.hasDirectory, he]; rfl, rfl⟩

/-! ## Putting an entry at a place -/

/-- An entry with other names stays where it was. -/
theorem lookup_put_of_ne {names others : List String} (e : Entry) (h : others ≠ names) :
    (files.put names e).lookup others = files.lookup others := by
  have hne : (others == names) = false := beq_eq_false_iff_ne.2 h
  unfold Files.put
  split
  next hsome =>
    clear hsome
    induction files with
    | nil => rfl
    | cons f files ih =>
      obtain ⟨key, value⟩ := f
      rw [List.map_cons]
      by_cases hkey : key = names
      · rw [if_pos hkey, List.lookup_cons, List.lookup_cons, hkey, hne, ih]
      · rw [if_neg hkey, List.lookup_cons, List.lookup_cons, ih]
  next => rw [List.lookup_append, List.lookup_cons, hne, List.lookup_nil, Option.or_none]

/-- The entry that has been put stands under its names. -/
theorem lookup_put_self (files : Files) (names : List String) (e : Entry) :
    (files.put names e).lookup names = some e := by
  unfold Files.put
  -- what is there is overwritten in its place, and what is new comes last
  split
  next hsome =>
    induction files with
    | nil => cases hsome
    | cons f files ih =>
      obtain ⟨key, value⟩ := f
      rw [List.map_cons]
      by_cases hkey : key = names
      · rw [if_pos hkey, List.lookup_cons_self]
      · have hne : (names == key) = false := beq_eq_false_iff_ne.2 (Ne.symm hkey)
        rw [List.lookup_cons, hne] at hsome
        rw [if_neg hkey, List.lookup_cons, hne]
        exact ih hsome
  next hnone =>
    have hlookup : files.lookup names = none := Option.not_isSome_iff_eq_none.1 hnone
    rw [List.lookup_append, hlookup, List.lookup_cons_self, Option.none_or]

/-- What stands at a place other than the one where something is put. -/
theorem at?_put_of_ne {names : List String} (e : Entry) (h : p ≠ .inside names) :
    (files.put names e).at? p = files.at? p := by
  cases p with
  | inside others =>
    cases others with
    | nil => rfl
    | cons name rest => exact lookup_put_of_ne e fun heq => h (congrArg Place.inside heq)
  | _ => rfl

/-- What stands at the place where something is put.  The working directory stays. -/
theorem at?_put_self {names : List String} (e : Entry) (h : names ≠ []) :
    (files.put names e).at? (.inside names) = some e := by
  cases names with
  | nil => exact absurd rfl h
  | cons name rest => exact lookup_put_self files (name :: rest) e

/-- A directory that is put where nothing was leaves all contents as they are. -/
theorem kept_put_directory {names : List String} (h : files.at? (.inside names) = none) :
    files.Kept (files.put names .directory) := by
  have hnames : names ≠ [] := by
    rintro rfl
    cases h
  intro others
  unfold Files.content?
  by_cases hothers : others = names
  · rw [hothers, at?_put_self _ hnames, h]
  · rw [at?_put_of_ne _ fun heq => hothers (Place.inside.inj heq)]

/-! ## Opening a file -/

/-- A path leads to a place where a file is or can be. -/
structure Opens (files : Files) (path : String) (p : Place) : Prop where
  slashless : withoutEndSlashes path = path ∨ withoutEndSlashes path = ""
  place : files.place path = .ok (some p)
  free : files.at? p ≠ some .directory

/-- The files with a content at a place.  The null device stays empty. -/
def set (files : Files) (p : Place) (content : List UInt8) : Files :=
  match p with
  | .inside names => files.put names (.file content)
  | _ => files

/-- A file can only be below the working directory, or the null device. -/
theorem Opens.cases (h : files.Opens path p) :
    (∃ names, names ≠ [] ∧ p = .inside names) ∨ p = .nullDevice := by
  have hfree := h.free
  cases p with
  | inside names =>
    refine .inl ⟨names, ?_, rfl⟩
    rintro rfl
    exact hfree rfl
  | nullDevice => exact .inr rfl
  | _ => exact absurd rfl hfree

/-- Where a path opens a file, everything can be written. -/
theorem Opens.write (h : files.Opens path p) (content : List UInt8) :
    files.write path content = .ok (files.set p content) := by
  have hslashless : ¬(withoutEndSlashes path ≠ path ∧ withoutEndSlashes path ≠ "") := by
    rintro ⟨hne, hne'⟩
    exact h.slashless.elim hne hne'
  unfold Files.write
  dsimp only
  simp only [if_neg hslashless, h.place]
  obtain ⟨names, -, rfl⟩ | rfl := h.cases
  · cases hat : files.at? (.inside names) with
    | none => rfl
    | some e =>
      cases e with
      | directory => exact absurd hat h.free
      | file old => rfl
  · rfl

/-- Where a path opens no file, nothing can be written, and the fault does not depend on what. -/
theorem exists_write_eq_error (h : ∀ p, ¬files.Opens path p) :
    ∃ f, ∀ content, files.write path content = .error f := by
  unfold Files.write
  dsimp only
  by_cases hslashed : withoutEndSlashes path ≠ path ∧ withoutEndSlashes path ≠ ""
  · -- with a slash at its end a path is that of a directory, whatever it leads to
    simp only [if_pos hslashed]
    cases files.place (withoutEndSlashes path) with
    | error f => cases f <;> exact ⟨_, fun _ => rfl⟩
    | ok p => cases p <;> exact ⟨_, fun _ => rfl⟩
  · have hslashless : withoutEndSlashes path = path ∨ withoutEndSlashes path = "" := by
      by_cases h : withoutEndSlashes path = path
      · exact .inl h
      · exact .inr (Classical.not_not.1 fun h' => hslashed ⟨h, h'⟩)
    simp only [if_neg hslashed]
    cases hplace : files.place path with
    | error f => cases f <;> exact ⟨_, fun _ => rfl⟩
    | ok p =>
      cases p with
      | none => exact ⟨_, fun _ => rfl⟩
      | some p =>
        have hdirectory : files.at? p = some .directory :=
          Classical.not_not.1 fun hfree => h p ⟨hslashless, hplace, hfree⟩
        simp only [hdirectory]
        exact ⟨_, fun _ => rfl⟩

/-! ## The way to a file -/

/-- Nothing but the content of a file changes where a content is set. -/
theorem at?_set_of_ne {q : Place} {content : List UInt8} (h : q ≠ p) :
    (files.set p content).at? q = files.at? q := by
  cases p with
  | inside names => exact at?_put_of_ne _ h
  | _ => rfl

/-- A place where a content is set is free before and after. -/
theorem at?_set_self {content : List UInt8} (h : files.at? p ≠ some .directory) :
    (files.set p content).at? p ≠ some .directory := by
  cases p with
  | inside names =>
    have hnames : names ≠ [] := by
      rintro rfl
      exact h rfl
    rw [Files.set, at?_put_self _ hnames]
    intro heq
    cases heq
  | _ => exact h

theorem needDirectory_eq_ok_iff {u : Unit} :
    files.needDirectory p = .ok u ↔ files.at? p = some .directory := by
  unfold Files.needDirectory
  constructor
  · intro h
    split at h
    next hat => exact hat
    next => cases h
    next => cases h
  · intro h
    rw [h]

/-- A walk goes through directories only, so no file that is written is in its way. -/
theorem walk_set {content : List UInt8} (h : files.at? p ≠ some .directory)
    {names : List String} {start : Place} {q : Option Place}
    (hwalk : files.walk start names = .ok q) :
    (files.set p content).walk start names = .ok q := by
  induction names generalizing start with
  | nil => exact hwalk
  | cons name rest ih =>
    rw [Files.walk] at hwalk ⊢
    obtain ⟨u, hdirectory, hwalk⟩ := bind_eq_ok_iff.1 hwalk
    have hstart : files.at? start = some .directory := needDirectory_eq_ok_iff.1 hdirectory
    have hne : start ≠ p := by
      rintro rfl
      exact h hstart
    have hstart' : (files.set p content).at? start = some .directory := by
      rw [at?_set_of_ne hne, hstart]
    refine bind_eq_ok_iff.2 ⟨u, needDirectory_eq_ok_iff.2 hstart', ?_⟩
    -- the name is taken in the same way, and the rest of the walk is shorter
    by_cases hdot : name = "" ∨ name = "."
    · rw [if_pos hdot] at hwalk ⊢
      exact ih hwalk
    · rw [if_neg hdot] at hwalk ⊢
      by_cases hlong : maxNameSize < name.utf8ByteSize
      · rw [if_pos hlong] at hwalk
        cases hwalk
      · rw [if_neg hlong] at hwalk ⊢
        by_cases hup : name = ".."
        · rw [if_pos hup] at hwalk ⊢
          exact ih hwalk
        · rw [if_neg hup] at hwalk ⊢
          cases hchild : start.child? name with
          | none =>
            rw [hchild] at hwalk
            exact hwalk
          | some next =>
            rw [hchild] at hwalk
            exact ih hwalk

/-- A path that leads somewhere leads there still when a content is set. -/
theorem place_set {content : List UInt8} (h : files.at? p ≠ some .directory) {q : Option Place}
    (hplace : files.place path = .ok q) : (files.set p content).place path = .ok q := by
  unfold Files.place at hplace ⊢
  by_cases hnull : path.toList.contains '\x00'
  · rw [if_pos hnull] at hplace
    cases hplace
  · rw [if_neg hnull] at hplace ⊢
    by_cases hempty : path = ""
    · rw [if_pos hempty] at hplace
      cases hplace
    · rw [if_neg hempty] at hplace ⊢
      exact mapError_eq_ok_iff.2 (walk_set h (mapError_eq_ok_iff.1 hplace))

/-- A file that has been written can be written again. -/
theorem Opens.set (h : files.Opens path p) (content : List UInt8) :
    (files.set p content).Opens path p :=
  ⟨h.slashless, place_set h.free h.place, at?_set_self h.free⟩

/-! ## A file that is written -/

/-- A path opens a file, and nothing has changed since some earlier time but what that file
holds. -/
structure Opened (before files : Files) (path : String) (p : Place) : Prop where
  opens : files.Opens path p
  others : ∀ q, q ≠ p → files.at? q = before.at? q

variable {before : Files} {content : List UInt8}

theorem Opens.opened (h : files.Opens path p) : files.Opened files path p :=
  ⟨h, fun _ _ => rfl⟩

theorem Opened.set (h : before.Opened files path p) (content : List UInt8) :
    before.Opened (files.set p content) path p :=
  ⟨h.opens.set content, fun q hne => (at?_set_of_ne hne).trans (h.others q hne)⟩

/-- Whatever was written before, the last content is the one that counts. -/
theorem Opened.wrote (h : before.Opened files path p) (content : List UInt8) :
    before.Wrote path content (files.set p content) := by
  have hplace := (h.opens.set content).place
  obtain ⟨names, hnames, rfl⟩ | rfl := h.opens.cases
  · refine .file hplace ?_ fun others hne => ?_
    · unfold Files.content? Files.set
      rw [at?_put_self _ hnames]
    · have hne' : Place.inside others ≠ .inside names := fun heq => hne (Place.inside.inj heq)
      unfold Files.content?
      rw [(h.set content).others _ hne']
  · refine .device hplace fun names => ?_
    have hne : Place.inside names ≠ .nullDevice := by
      intro heq
      cases heq
    unfold Files.content?
    rw [(h.set content).others _ hne]

/-! ## A text that is written -/

/-- A text with a form in bytes is written.  The file is open still when that is known. -/
theorem Opens.writeText (h : files.Opens path p) {text : String}
    (hencode : Text.encodeFault? .utf8 text.toList = none) :
    files.writeText path text = (.ok (), (files.set p []).set p text.toUTF8.toList) := by
  have hreopened : (files.set p []).Opens path p := h.set []
  unfold Files.writeText
  rw [h.write, hencode]
  dsimp only
  rw [hreopened.write]

/-- A text without a form in bytes leaves an empty file behind. -/
theorem Opens.writeText_of_fault (h : files.Opens path p) {text : String} {f : Text.EncodeFault}
    (hencode : Text.encodeFault? .utf8 text.toList = some f) :
    files.writeText path text = (.error (.unwritable f), files.set p []) := by
  unfold Files.writeText
  rw [h.write, hencode]

/-- Where no file can be opened, nothing happens. -/
theorem exists_writeText_eq_error (h : ∀ p, ¬files.Opens path p) (text : String) :
    ∃ f, files.writeText path text = (.error f, files) := by
  obtain ⟨f, hfault⟩ := exists_write_eq_error h
  refine ⟨f, ?_⟩
  unfold Files.writeText
  rw [hfault]

/-! ## Directories -/

theorem kept_makeDirectory (h : files.makeDirectory path = .ok files') : files.Kept files' := by
  unfold Files.makeDirectory at h
  dsimp only at h
  split at h
  next => cases h
  next => cases h
  next => cases h
  next p hplace =>
    split at h
    next => cases h
    next names hat =>
      cases h
      exact kept_put_directory hat
    next => cases h

theorem kept_ensureDirectory (h : files.ensureDirectory path = .ok files') :
    files.Kept files' := by
  unfold Files.ensureDirectory at h
  split at h
  next made hmade =>
    cases h
    exact kept_makeDirectory hmade
  next =>
    split at h
    next =>
      cases h
      exact Kept.refl files
    next => cases h

/-- Making a directory, and all that have to be above it, changes no file. -/
theorem kept_ensureDirectoriesFrom {fuel : Nat}
    (h : files.ensureDirectoriesFrom fuel path = .ok files') : files.Kept files' := by
  induction fuel generalizing path files' with
  | zero => exact kept_ensureDirectory h
  | succ fuel ih =>
    rw [Files.ensureDirectoriesFrom] at h
    dsimp only at h
    split at h
    next =>
      -- what stands above is made or was there, and then the last directory is made
      have hlast : ∀ above : Files, files.Kept above →
          (if (splitDirectory path).2 = "." then pure above
            else above.ensureDirectory path : Except FileFault Files) = .ok files' →
          files.Kept files' := by
        intro above hkept hmade
        split at hmade
        next =>
          cases hmade
          exact hkept
        next => exact hkept.trans (kept_ensureDirectory hmade)
      split at h
      next above habove =>
        rw [pure_bind] at h
        exact hlast above (ih habove) h
      next =>
        rw [pure_bind] at h
        exact hlast files (Kept.refl files) h
      next => cases h
    next => exact kept_ensureDirectory h

theorem kept_ensureDirectories (h : files.ensureDirectories path = .ok files') :
    files.Kept files' :=
  kept_ensureDirectoriesFrom h

end OpenApiClient.Source.Files
