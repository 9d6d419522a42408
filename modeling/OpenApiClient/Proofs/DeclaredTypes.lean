/-
Values of the declared types.

A key is declared with the type of its default value, but neither the file of a configuration nor
the arguments are checked against that.  A configuration whose values are of the declared types is
flat: a table of strings, booleans and lists of strings.

The arguments keep a flat configuration flat, with one exception.  An option that adds to a list
takes the mark for plain words for no value, and then it adds an empty list.  So what the arguments
say about a key is of its type, or nothing, or a list in which an empty list stands (`Says`), and
this is what going through the arguments preserves (`read_says`).
-/
import OpenApiClient.Proofs.RunEnds

set_option autoImplicit false

namespace OpenApiClient

open Validation (Checked)

/-! ## Flat configurations -/

namespace ConfigKey

/-- Whether a value is of the declared type of a key. -/
def fits (k : ConfigKey) (v : Value) : Bool :=
  match k.default, v with
  | .scalar (.bool _), .scalar (.bool _) => true
  | .scalar (.text _), .scalar (.text _) | .scalar .null, .scalar (.text _) => true
  | .list _, .list items => items.all (·.text?.isSome)
  | _, _ => false

variable {k : ConfigKey}

theorem fits_text (h : k.fits (.text "") = true) (s : String) : k.fits (.text s) = true := by
  cases k <;> first | rfl | cases h

theorem fits_list (h : k.fits (.list []) = true) (items : List Value) :
    k.fits (.list items) = items.all (·.text?.isSome) := by
  cases k <;> first | rfl | cases h

theorem not_isNull_of_fits {v : Value} (h : k.fits v = true) : v.isNull = false := by
  unfold fits at h
  split at h <;> first | rfl | cases h

theorem exists_text_of_fits (hk : k = .openApiPath ∨ k = .namespaceName) {v : Value}
    (h : k.fits v = true) : ∃ s, v = .text s := by
  obtain rfl | rfl := hk
  all_goals
    cases v with
    | scalar s => cases s <;> first | exact ⟨_, rfl⟩ | cases h
    | _ => cases h

end ConfigKey

namespace Configuration

variable {c : Configuration}

/-- A configuration is a flat table of values of the declared types.  It may not say where the
document is. -/
def IsFlat (c : Configuration) : Prop :=
  ∀ k : ConfigKey, k.fits (c.value k) = true ∨ k = .openApiPath ∧ c.value k = .null

theorem isFlat_default : default.IsFlat := by
  intro k
  cases k with
  | openApiPath => exact .inr ⟨rfl, rfl⟩
  | _ => exact .inl rfl

/-- What is said above a flat configuration leaves it flat, if it is of the declared types. -/
theorem IsFlat.merge (h : c.IsFlat) {o : Overrides}
    (ho : ∀ k, saysNothing (o k) = true ∨ k.fits (o k) = true) : (c.merge o).IsFlat := by
  intro k
  unfold Configuration.merge
  dsimp only
  split
  · exact h k
  next hsays => exact .inl ((ho k).resolve_left hsays)

end Configuration

/-! ## The location of the document -/

/-- What holds of all that the left one of two checks gives holds of all that both give. -/
theorem Validation.Checked.forall_seq {α β : Type} {P : β → Prop} {f : Checked (α → β)}
    {c : Checked α} (h : ∀ g, f = .ok g → ∀ a, P (g a)) (b : β) (hb : f <*> c = .ok b) : P b := by
  obtain ⟨g, a, hg, -, rfl⟩ := seq_eq_ok_iff.1 hb
  exact h g hg a

/-- The location is the first of the settings that are checked. -/
theorem Settings.checkWith_openApiPath {naming : Checked NamingSettings} {ms : Members} :
    ∀ s, checkWith naming ms = .ok s →
      Validation.required ms "openapi_path" Validation.text = .ok s.openApiPath := by
  unfold checkWith
  iterate 14 refine Checked.forall_seq ?_
  intro g hg
  obtain ⟨path, hpath, rfl⟩ := Checked.map_eq_ok_iff.1 hg
  intros
  exact hpath

namespace Configuration

theorem getText?_members (c : Configuration) (k : ConfigKey) :
    Members.getText? c.members k.name = some (c.value k) := by
  cases k <;> rfl

/-- The location in the settings is that of the configuration. -/
theorem IsFlat.openApiPath {c : Configuration} (h : c.IsFlat) {s : Settings}
    (hs : c.settings = .ok s) : c.value .openApiPath = .text s.openApiPath := by
  unfold settings at hs
  split at hs
  · cases hs
  next hgiven =>
    obtain ⟨naming, -, hs⟩ := bind_eq_ok_iff.1 hs
    have hpath : ∃ path, c.value .openApiPath = .text path := by
      obtain hfits | ⟨-, hnull⟩ := h .openApiPath
      · exact ConfigKey.exists_text_of_fits (.inl rfl) hfits
      · rw [hnull] at hgiven
        exact absurd rfl hgiven
    obtain ⟨path, hpath⟩ := hpath
    unfold settle at hs
    split at hs
    next hchecked =>
      cases hs
      have hrequired := Settings.checkWith_openApiPath s hchecked
      have hmember : Members.getText? c.members "openapi_path" = some (.text path) :=
        hpath ▸ getText?_members c .openApiPath
      unfold Validation.required at hrequired
      rw [hmember] at hrequired
      rw [hpath]
      exact congrArg Value.text (Checked.ok.inj hrequired)
    all_goals cases hs

end Configuration

/-! ## What arguments say -/

namespace CommandLine

/-- What the arguments can say about a key: nothing, or something of its declared type, or a list
that an empty list was added to. -/
inductive Says (k : ConfigKey) : Value → Prop
  | nothing {v : Value} (h : Configuration.saysNothing v = true) : Says k v
  | fits {v : Value} (h : k.fits v = true) : Says k v
  | marked {items : List Value} (h : .list [] ∈ items) : Says k (.list items)

/-- An option gives its key values of the declared type. -/
def Action.fits : Action → Bool
  | .store key => key.fits (.text "")
  | .append key => key.fits (.list [])
  | .set key value => key.fits value
  | _ => true

/-- An argument that is an option has one that fits. -/
def Word.fits : Word → Bool
  | .option action _ => action.fits
  | _ => true

namespace Arguments

variable {a b : Arguments} {k : ConfigKey}

theorem says_valueOf (h : k.fits (.text "") = true) (text : String) : Says k (valueOf text) := by
  unfold valueOf
  split
  · exact .nothing rfl
  · exact .fits (ConfigKey.fits_text h text)

/-- A value is added behind a list. -/
theorem says_append (hk : k.fits (.list []) = true) {items : List Value} (h : Says k (.list items))
    (text : String) : Says k (.list (items ++ [valueOf text])) := by
  by_cases hmark : text = "--"
  · refine .marked (List.mem_append_right items ?_)
    rw [valueOf, if_pos hmark]
    exact List.mem_singleton.2 rfl
  · have htext : valueOf text = .text text := if_neg hmark
    have hadd : items.all (·.text?.isSome) = true → Says k (.list (items ++ [valueOf text])) := by
      intro hall
      refine .fits ?_
      rw [ConfigKey.fits_list hk, List.all_append, hall, htext]
      rfl
    cases h with
    | nothing h =>
      cases items with
      | nil => exact hadd rfl
      | cons => cases h
    | fits h => exact hadd ((ConfigKey.fits_list hk items).symm.trans h)
    | marked h => exact .marked (List.mem_append_left _ h)

theorem says_set (h : ∀ k, Says k (a.overrides k)) {key : ConfigKey} {v : Value} (hv : Says key v)
    (k : ConfigKey) : Says k ((a.set key v).overrides k) := by
  unfold set
  dsimp only
  split
  next heq => exact heq ▸ hv
  · exact h k

/-- An option with a value. -/
theorem says_applyValue (h : ∀ k, Says k (a.overrides k)) {action : Action}
    (hfits : action.fits = true) (text : String) (k : ConfigKey) :
    Says k ((a.applyValue action text).overrides k) := by
  cases action with
  | store key => exact says_set h (says_valueOf hfits text) k
  | append key =>
    unfold applyValue
    dsimp only
    split
    next items hitems => exact says_set h (says_append hfits (hitems ▸ h key) text) k
    · exact says_set h (says_append hfits (.nothing rfl : Says key (.list [])) text) k
  | _ => exact h k

/-- An option without a value. -/
theorem says_apply (h : ∀ k, Says k (a.overrides k)) {action : Action}
    (hfits : action.fits = true) (hb : a.apply action = .ok b) (k : ConfigKey) :
    Says k (b.overrides k) := by
  cases action with
  | help => cases hb
  | set key value =>
    cases hb
    exact says_set h (.fits hfits) k
  | _ =>
    cases hb
    exact h k

/-- Arguments whose options fit say no more than `Says` allows. -/
theorem read_says {isFree isWrong : Bool} {ws : List Word} (hfits : ∀ w ∈ ws, w.fits = true)
    (h : ∀ k, Says k (a.overrides k)) (hb : read isFree isWrong a ws = .ok b) :
    ∀ k, Says k (b.overrides k) := by
  fun_induction read isFree isWrong a ws
  case case1 | case4 | case7 => cases hb
  case case2 =>
    cases hb
    exact h
  case case3 action value rest htakes ih =>
    obtain ⟨haction, hrest⟩ := List.forall_mem_cons.1 hfits
    exact ih hrest (says_applyValue h haction value) hb
  case case5 action text rest htakes ih =>
    obtain ⟨haction, hrest⟩ := List.forall_mem_cons.1 hfits
    exact ih (List.forall_mem_cons.1 hrest).2 (says_applyValue h haction text) hb
  case case6 ih | case8 ih =>
    obtain ⟨haction, hrest⟩ := List.forall_mem_cons.1 hfits
    obtain ⟨a', ha', hb⟩ := bind_eq_ok_iff.1 hb
    exact ih a' hrest (says_apply h haction ha') hb
  case case12 ih =>
    have hrest := (List.forall_mem_cons.1 (List.forall_mem_cons.1 hfits).2).2
    exact ih hrest (says_set h (.fits rfl)) hb
  case case14 ih => exact ih (List.forall_mem_cons.1 hfits).2 (says_set h (.fits rfl)) hb
  -- a word that says nothing
  case case9 ih | case10 ih | case11 ih | case13 ih | case15 ih =>
    exact ih (List.forall_mem_cons.1 hfits).2 h hb

end Arguments

/-! ## The options -/

theorem fits_of_mem_options : ∀ o ∈ options, o.2.fits = true := by decide +kernel

theorem fits_of_lookup {name : String} {action : Action} (h : options.lookup name = some action) :
    action.fits = true :=
  fits_of_mem_options _ (mem_of_lookup h)

theorem notOption_fits (s : String) : (notOption s).fits = true := by
  unfold notOption
  split <;> rfl

theorem longWord_fits {s : String} {w : Word} (h : longWord s = .ok w) : w.fits = true := by
  unfold longWord at h
  split at h
  next name value heq =>
  split at h
  next v hlookup =>
    cases h
    split <;> rfl
  next v action hnot hlookup =>
    cases h
    exact fits_of_lookup hlookup
  next hnone hnot =>
    split at h
    · split at h
      next => exact (Except.ok.inj h) ▸ notOption_fits s
      next o hfilter =>
        cases h
        have hmem : o ∈ options.filter fun o => o.1.startsWith name :=
          hfilter ▸ List.mem_singleton.2 rfl
        exact fits_of_mem_options o (List.mem_filter.1 hmem).1
      next => cases h
    · split at h
      · cases h
        rfl
      · exact (Except.ok.inj h) ▸ notOption_fits s

theorem wordOf_fits {s : String} {w : Word} (h : wordOf s = .ok w) : w.fits = true := by
  unfold wordOf at h
  split at h
  · cases h
    rfl
  · split at h
    next action hlookup =>
      cases h
      exact fits_of_lookup hlookup
    next =>
      split at h
      · cases h
        rfl
      · exact longWord_fits h

theorem wordsOf_fits {arguments : List String} {ws : List Word} (h : wordsOf arguments = .ok ws) :
    ∀ w ∈ ws, w.fits = true := by
  induction arguments generalizing ws with
  | nil =>
    cases h
    exact List.forall_mem_nil _
  | cons s rest ih =>
    unfold wordsOf at h
    split at h
    · cases h
      refine List.forall_mem_cons.2 ⟨rfl, fun w hw => ?_⟩
      obtain ⟨text, -, rfl⟩ := List.mem_map.1 hw
      rfl
    · obtain ⟨first, hfirst, h⟩ := bind_eq_ok_iff.1 h
      obtain ⟨ws, hws, h⟩ := bind_eq_ok_iff.1 h
      cases h
      exact List.forall_mem_cons.2 ⟨wordOf_fits hfirst, ih hws⟩

/-- What arguments say about a key is of its type, or nothing, or a list with an empty list. -/
theorem parse_says {arguments : List String} {a : Arguments} (h : parse arguments = .ok a)
    (k : ConfigKey) : Says k (a.overrides k) := by
  obtain ⟨ws, hws, h⟩ := bind_eq_ok_iff.1 h
  exact Arguments.read_says (wordsOf_fits hws) (fun _ => .nothing rfl) h k

/-! ## The configuration of a run -/

/-- No option adds an empty list to a list. -/
def Arguments.AddsTexts (a : Arguments) : Prop :=
  ∀ k items, a.overrides k = .list items → .list [] ∉ items

/-- Arguments above a flat configuration leave it flat, unless an option adds an empty list. -/
theorem Arguments.AddsTexts.isFlat_merge {arguments : List String} {a : Arguments}
    (h : a.AddsTexts) (hparse : parse arguments = .ok a) {file : Configuration}
    (hfile : file.IsFlat) : (file.merge a.effective).IsFlat := by
  have hsays : ∀ k, Configuration.saysNothing (a.overrides k) = true
      ∨ k.fits (a.overrides k) = true := by
    intro k
    have hvalue := parse_says hparse k
    have hadds := h k
    generalize a.overrides k = v at hvalue hadds
    cases hvalue with
    | nothing h => exact .inl h
    | fits h => exact .inr h
    | marked hmark => exact absurd hmark (hadds _ rfl)
  refine hfile.merge fun k => ?_
  unfold Arguments.effective
  split
  · unfold Arguments.set
    dsimp only
    split
    next hk =>
      subst hk
      exact .inr rfl
    · exact hsays k
  · exact hsays k

/-- A run has a flat configuration if the file of the configuration is flat. -/
theorem Configured.isFlat {arguments : List String} {a : Arguments} {w : Source.World}
    {c : Configuration} (h : Configured a w c) (hparse : parse arguments = .ok a)
    (hadds : a.AddsTexts)
    (hfile : ∀ file, Configuration.load? w.files a.settingsPath = .ok (some file) → file.IsFlat) :
    c.IsFlat := by
  cases h with
  | file h => exact hadds.isFlat_merge hparse (hfile _ h)
  | usual => exact hadds.isFlat_merge hparse Configuration.isFlat_default

end CommandLine

end OpenApiClient
