/-
Two trees of files that differ in one place.

The trees agree on what stands at every place but one, the `spot`, where neither has a directory.
So the spot is no step of any way: a path that goes through it is refused in both trees.  What is
asked of a path has the same answer in both trees, or both refuse to give one (`AlikeBut.place`),
unless the path leads to the spot.

Writing needs more.  Directories are made on the way to a file, so a path that was refused at first
can lead through the spot when they are there.  A path that never `passes` the spot, whatever stands
on its way, behaves in the same way in both trees, and leaves trees behind that agree again.
-/
import OpenApiClient.CommandLine.Run
import OpenApiClient.Proofs.FileWrites
import Mathlib.Data.List.TakeWhile

set_option autoImplicit false

namespace OpenApiClient

variable {ε ε' α α' β β' : Type}

/-! ## Outcomes that agree -/

/-- Both outcomes are results that are related, or both are faults, and both of these are of a
special kind or none is. -/
inductive Agrees (S : ε → Prop) (R : α → α' → Prop) : Except ε α → Except ε α' → Prop where
  | ok {a : α} {a' : α'} (h : R a a') : Agrees S R (.ok a) (.ok a')
  | fault {e e' : ε} (h : S e ↔ S e') : Agrees S R (.error e) (.error e')

namespace Agrees

variable {S : ε → Prop} {T : ε' → Prop} {R : α → α' → Prop} {Q : β → β' → Prop}
  {x : Except ε α} {x' : Except ε α'}

theorem refl (x : Except ε α) : Agrees S Eq x x := by
  cases x with
  | error e => exact .fault Iff.rfl
  | ok a => exact .ok rfl

theorem bind_of_eq {k : α → Except ε β} {k' : α' → Except ε β'} (h : Agrees S R x x')
    (hk : ∀ a a', x = .ok a → x' = .ok a' → R a a' → Agrees S Q (k a) (k' a')) :
    Agrees S Q (x >>= k) (x' >>= k') := by
  cases h with
  | ok h => exact hk _ _ rfl rfl h
  | fault h => exact .fault h

theorem bind {k : α → Except ε β} {k' : α' → Except ε β'} (h : Agrees S R x x')
    (hk : ∀ a a', R a a' → Agrees S Q (k a) (k' a')) : Agrees S Q (x >>= k) (x' >>= k') :=
  h.bind_of_eq fun a a' _ _ haa' => hk a a' haa'

theorem mapError {g : ε → ε'} (h : Agrees S R x x')
    (hg : ∀ e e', (S e ↔ S e') → (T (g e) ↔ T (g e'))) :
    Agrees T R (x.mapError g) (x'.mapError g) := by
  cases h with
  | ok h => exact .ok h
  | fault h => exact .fault (hg _ _ h)

theorem eq_ok {x' : Except ε α} {a : α} (h : Agrees S Eq x x') (hx : x = .ok a) :
    x' = .ok a := by
  subst hx
  cases h with
  | ok h => rw [h]

/-- If no fault is special, it is enough that both are faults. -/
theorem of_failed {S : ε → Prop} (hS : ∀ e, ¬S e) (h : ∀ a, x ≠ .ok a) (h' : ∀ a, x' ≠ .ok a) :
    Agrees S R x x' := by
  cases x with
  | ok a => exact absurd rfl (h a)
  | error e =>
    cases x' with
    | ok a => exact absurd rfl (h' a)
    | error e' => exact .fault ⟨fun h => absurd h (hS e), fun h => absurd h (hS e')⟩

end Agrees

namespace Source

/-! ## Paths that pass a place -/

/-- The place that a name leads to from a place, if there can be one. -/
def Place.next? (p : Place) (name : String) : Option Place :=
  if name = "" ∨ name = "." then some p else if name = ".." then some p.parent else p.child? name

/-- Whether the way along some names leads to a place or through it, whatever stands there. -/
def Place.passes (spot p : Place) : List String → Bool
  | [] => p = spot
  | name :: rest => p = spot || (p.next? name).any fun q => spot.passes q rest

/-- The place where a path begins. -/
def startOf (path : String) : Place := if path.startsWith "/" then .root else .inside []

/-- Whether a path leads to a place or through it, whatever stands on the way. -/
def passes (spot : Place) (path : String) : Bool := spot.passes (startOf path) (pathNames path)

variable {spot p : Place} {path : String}

theorem Place.not_passes_start {names : List String} (h : spot.passes p names = false) :
    p ≠ spot := by
  cases names <;> simp_all [Place.passes]

theorem Place.not_passes_next {name : String} {rest : List String} {q : Place}
    (h : spot.passes p (name :: rest) = false) (hq : p.next? name = some q) :
    spot.passes q rest = false := by
  rw [Place.passes, hq] at h
  exact (Bool.or_eq_false_iff.1 h).2

/-- A way that is left early passes no more than the whole way. -/
theorem Place.not_passes_of_append {names more : List String}
    (h : spot.passes p (names ++ more) = false) : spot.passes p names = false := by
  induction names generalizing p with
  | nil =>
    rw [Place.passes, decide_eq_false_iff_not]
    exact Place.not_passes_start h
  | cons name rest ih =>
    rw [Place.passes, Bool.or_eq_false_iff, decide_eq_false_iff_not]
    refine ⟨Place.not_passes_start h, ?_⟩
    cases hq : p.next? name with
    | none => rfl
    | some q => exact ih (Place.not_passes_next h hq)

/-! ## Paths cut at a slash -/

theorem startsWith_slash_iff {s : List Char} :
    (String.ofList s).startsWith "/" = true ↔ s.head? = some '/' := by
  rw [String.startsWith_string_iff, String.toList_ofList]
  cases s with
  | nil => simp
  | cons c s => simp [List.cons_prefix_cons, eq_comm]

/-- The path up to a slash passes no more than the whole path. -/
theorem not_passes_before {before after : List Char} (hbefore : before ≠ [])
    (h : passes spot (.ofList (before ++ '/' :: after)) = false) :
    passes spot (.ofList before) = false := by
  obtain ⟨c, before, rfl⟩ := List.exists_cons_of_ne_nil hbefore
  have hstart : startOf (.ofList (c :: before ++ '/' :: after))
      = startOf (.ofList (c :: before)) := by
    unfold startOf
    simp only [startsWith_slash_iff, List.cons_append, List.head?_cons]
  unfold passes pathNames at h ⊢
  rw [hstart, String.toList_ofList, Text.splitOn_append, List.map_append] at h
  rw [String.toList_ofList]
  exact Place.not_passes_of_append h

/-- The empty path and paths of slashes lead to a directory that is always there. -/
theorem not_passes_slashes (hroot : spot ≠ .root) (hhere : spot ≠ .inside []) {s : List Char}
    (h : ∀ c ∈ s, c = '/') : passes spot (.ofList s) = false := by
  -- between slashes there are only empty names
  have hnames : ∀ name ∈ pathNames (.ofList s), name = "" := by
    unfold pathNames
    rw [String.toList_ofList]
    induction s with
    | nil => simp [Text.splitOn]
    | cons c s ih =>
      rw [h c List.mem_cons_self, Text.splitOn, if_pos (Eq.refl '/'), List.map_cons]
      intro name hname
      obtain rfl | hname := List.mem_cons.1 hname
      · rfl
      · exact ih (fun c hc => h c (List.mem_cons_of_mem _ hc)) name hname
  -- an empty name leads nowhere
  have hstays : ∀ {names : List String} {p : Place}, p ≠ spot → (∀ name ∈ names, name = "") →
      spot.passes p names = false := by
    intro names p hp hnames
    induction names with
    | nil => exact decide_eq_false hp
    | cons name rest ih =>
      have hnext : p.next? name = some p := if_pos (.inl (hnames name List.mem_cons_self))
      rw [Place.passes, hnext, decide_eq_false hp, Bool.false_or]
      exact ih fun name hname => hnames name (List.mem_cons_of_mem _ hname)
  refine hstays ?_ hnames
  unfold startOf
  split
  · exact hroot.symm
  · exact hhere.symm

/-- A text is what stands before the slashes at its end, and these. -/
theorem exists_slashes (s : List Char) :
    ∃ slashes, s = (s.reverse.dropWhile (· = '/')).reverse ++ slashes ∧ ∀ c ∈ slashes, c = '/' := by
  refine ⟨(s.reverse.takeWhile (· = '/')).reverse, ?_, ?_⟩
  · rw [← List.reverse_append, List.takeWhile_append_dropWhile, List.reverse_reverse]
  · intro c hc
    have hslash := List.mem_takeWhile_imp (List.mem_reverse.1 hc)
    exact of_decide_eq_true hslash

theorem not_passes_withoutEndSlashes (hroot : spot ≠ .root) (hhere : spot ≠ .inside [])
    (h : passes spot path = false) : passes spot (withoutEndSlashes path) = false := by
  obtain ⟨slashes, hpath, hslashes⟩ := exists_slashes path.toList
  unfold withoutEndSlashes
  by_cases hempty : (path.toList.reverse.dropWhile (· = '/')).reverse = []
  · rw [hempty]
    exact not_passes_slashes hroot hhere (by simp)
  · cases slashes with
    | nil =>
      rw [List.append_nil] at hpath
      rw [← hpath, String.ofList_toList]
      exact h
    | cons c slashes =>
      rw [hslashes c List.mem_cons_self] at hpath
      have hpath : path = .ofList _ := String.toList_inj.1 (hpath.trans (String.toList_ofList).symm)
      rw [hpath] at h
      exact not_passes_before hempty h

/-- A path is its head, which ends in a slash unless it is empty, and the name after it. -/
theorem exists_head (s : List Char) :
    ∃ head, s = head ++ (s.reverse.takeWhile (· ≠ '/')).reverse
      ∧ (head = [] ∨ ∃ before, head = before ++ ['/']) := by
  refine ⟨(s.reverse.dropWhile (· ≠ '/')).reverse, ?_, ?_⟩
  · rw [← List.reverse_append, List.takeWhile_append_dropWhile, List.reverse_reverse]
  · cases hrest : s.reverse.dropWhile (· ≠ '/') with
    | nil => exact .inl rfl
    | cons c rest =>
      have hc : c = '/' := by
        have hfirst := List.head?_dropWhile_not (· ≠ '/') s.reverse
        rw [hrest] at hfirst
        exact Classical.not_not.1 (of_decide_eq_false hfirst)
      exact .inr ⟨rest.reverse, by rw [List.reverse_cons, hc]⟩

/-- The directory of a path passes no more than the path. -/
theorem not_passes_splitPath (hroot : spot ≠ .root) (hhere : spot ≠ .inside [])
    (h : passes spot path = false) : passes spot (splitPath path).1 = false := by
  obtain ⟨head, hpath, hhead⟩ := exists_head path.toList
  generalize htail : (path.toList.reverse.takeWhile (· ≠ '/')).reverse = tail at hpath
  have htake : path.toList.take (path.length - tail.length) = head := by
    have hlength : path.length - tail.length = head.length := by
      rw [← String.length_toList, hpath, List.length_append, Nat.add_sub_cancel]
    rw [hlength, hpath, List.take_left]
  unfold splitPath
  rw [htail]
  dsimp only
  rw [htake]
  by_cases hall : head.all (· = '/') = true
  · rw [if_pos hall]
    exact not_passes_slashes hroot hhere fun c hc =>
      of_decide_eq_true (List.all_eq_true.1 hall c hc)
  · rw [if_neg hall, String.ofList_toList]
    obtain rfl | ⟨before, rfl⟩ := hhead
    · exact absurd rfl hall
    · -- without the slash at its end, and those before, the head is what stands before a slash
      have hbefore : before ≠ [] := by
        rintro rfl
        exact hall rfl
      have hslash : withoutEndSlashes (.ofList (before ++ ['/']))
          = withoutEndSlashes (.ofList before) := by
        unfold withoutEndSlashes
        rw [String.toList_ofList, String.toList_ofList, List.reverse_append]
        rfl
      rw [hslash]
      have hpath : path = .ofList (before ++ '/' :: tail) := by
        rw [← String.toList_inj, String.toList_ofList, hpath, List.append_assoc]
        rfl
      rw [hpath] at h
      exact not_passes_withoutEndSlashes hroot hhere (not_passes_before hbefore h)

theorem not_passes_splitDirectory (hroot : spot ≠ .root) (hhere : spot ≠ .inside [])
    (h : passes spot path = false) : passes spot (splitDirectory path).1 = false := by
  have hhead := not_passes_splitPath hroot hhere h
  unfold splitDirectory
  dsimp only
  split
  · exact not_passes_splitPath hroot hhere hhead
  · exact hhead

/-! ## Ways -/

namespace Files

variable {files : Files}

/-- Nothing can be reached through a place without a directory. -/
theorem exists_refusal (h : files.at? p ≠ some .directory) :
    ∃ why, files.needDirectory p = .error why := by
  cases hneed : files.needDirectory p with
  | error why => exact ⟨why, rfl⟩
  | ok u => exact absurd (needDirectory_eq_ok_iff.1 hneed) h

/-- A way goes on from a directory to the next place, or ends there and leads nowhere. -/
theorem walk_cons_cases (p : Place) (name : String) (rest : List String) :
    (∃ q, p.next? name = some q ∧ ∀ files : Files,
        files.walk p (name :: rest) = files.needDirectory p >>= fun _ => files.walk q rest)
      ∨ ∃ r : Except Refusal (Option Place), (∀ q, r ≠ .ok (some q)) ∧ ∀ files : Files,
        files.walk p (name :: rest) = files.needDirectory p >>= fun _ => r := by
  unfold Place.next?
  -- a step stays, goes up or goes down, or is refused in one way beside every tree
  by_cases hdot : name = "" ∨ name = "."
  · exact .inl ⟨p, if_pos hdot, fun files => by simp only [walk, if_pos hdot]⟩
  by_cases hlong : maxNameSize < name.utf8ByteSize
  · refine .inr ⟨.error .longName, (fun q hq => by cases hq), fun files => ?_⟩
    simp only [walk, if_neg hdot, if_pos hlong]
    rfl
  by_cases hup : name = ".."
  · refine .inl ⟨p.parent, by rw [if_neg hdot, if_pos hup], fun files => ?_⟩
    simp only [walk, if_neg hdot, if_neg hlong, if_pos hup]
  cases hchild : p.child? name with
  | some q =>
    refine .inl ⟨q, by rw [if_neg hdot, if_neg hup], fun files => ?_⟩
    simp only [walk, if_neg hdot, if_neg hlong, if_neg hup, hchild]
  | none =>
    refine .inr ⟨if rest.all (· = "") then .ok none else .error .notFound, fun q hq => ?_,
      fun files => ?_⟩
    · split at hq <;> cases hq
    · simp only [walk, if_neg hdot, if_neg hlong, if_neg hup, hchild]
      rfl

/-- A way that does not pass a place does not end there. -/
theorem ne_of_walk {names : List String} {p q : Place} (hpasses : spot.passes p names = false)
    (h : files.walk p names = .ok (some q)) : q ≠ spot := by
  induction names generalizing p with
  | nil =>
    cases h
    exact Place.not_passes_start hpasses
  | cons name rest ih =>
    obtain ⟨next, hnext, hstep⟩ | ⟨r, hr, hend⟩ := walk_cons_cases p name rest
    · rw [hstep] at h
      obtain ⟨-, -, h⟩ := bind_eq_ok_iff.1 h
      exact ih (Place.not_passes_next hpasses hnext) h
    · rw [hend] at h
      obtain ⟨-, -, h⟩ := bind_eq_ok_iff.1 h
      exact absurd h (hr q)

theorem ne_of_place {q : Place} (hpath : passes spot path = false)
    (h : files.place path = .ok (some q)) : q ≠ spot := by
  unfold place at h
  split at h
  · cases h
  · split at h
    · cases h
    · exact ne_of_walk hpath (mapError_eq_ok_iff.1 h)

end Files

/-- A fault that says that something is there already. -/
def FileFault.IsThere (e : FileFault) : Prop := ∃ path, e = .refused .exists_ path

namespace Files

/-- The tree after what stands above a path has been made; it may have been there before. -/
def withAbove (files : Files) : Except FileFault Files → Except FileFault Files
  | .error (.refused .exists_ _) => .ok files
  | above => above

theorem withAbove_of_not_isThere {files : Files} {e : FileFault} (h : ¬e.IsThere) :
    withAbove files (.error e) = .error e := by
  unfold withAbove
  split
  next p heq =>
    cases heq
    exact absurd ⟨p, rfl⟩ h
  next => rfl

theorem ensureDirectoriesFrom_succ (files : Files) (fuel : Nat) (path : String) :
    files.ensureDirectoriesFrom (fuel + 1) path
      = if (splitDirectory path).1 ≠ "" ∧ (splitDirectory path).2 ≠ ""
          ∧ !files.has (splitDirectory path).1 then
        withAbove files (files.ensureDirectoriesFrom fuel (splitDirectory path).1) >>= fun above =>
          if (splitDirectory path).2 = "." then .ok above else above.ensureDirectory path
      else files.ensureDirectory path := by
  rw [Files.ensureDirectoriesFrom]
  dsimp only
  split
  · cases files.ensureDirectoriesFrom fuel (splitDirectory path).1 with
    | ok above => rfl
    | error e =>
      cases e with
      | refused why p => cases why <;> rfl
      | _ => rfl
  · rfl

end Files

/-! ## Trees that differ in one place -/

/-- Two trees agree on what stands at every place but one, where neither has a directory. -/
structure Files.AlikeBut (spot : Place) (f f' : Files) : Prop where
  same : ∀ p, p ≠ spot → f.at? p = f'.at? p
  free : f.at? spot ≠ some .directory
  free' : f'.at? spot ≠ some .directory

namespace Files.AlikeBut

variable {f f' : Files}

theorem ne_root (h : f.AlikeBut spot f') : spot ≠ .root := by
  rintro rfl
  exact h.free rfl

theorem ne_here (h : f.AlikeBut spot f') : spot ≠ .inside [] := by
  rintro rfl
  exact h.free rfl

/-- Trees that agree do so after the same entry has been put elsewhere. -/
theorem put (h : f.AlikeBut spot f') {names : List String} (e : Entry)
    (hnames : Place.inside names ≠ spot) : (f.put names e).AlikeBut spot (f'.put names e) := by
  refine ⟨fun p hp => ?_, ?_, ?_⟩
  · by_cases hput : p = .inside names
    · subst hput
      by_cases hhere : names = []
      · subst hhere
        rfl
      · rw [at?_put_self e hhere, at?_put_self e hhere]
    · rw [at?_put_of_ne e hput, at?_put_of_ne e hput, h.same p hp]
  · rw [at?_put_of_ne e hnames.symm]
    exact h.free
  · rw [at?_put_of_ne e hnames.symm]
    exact h.free'

/-! ### Going somewhere -/

theorem needDirectory (h : f.AlikeBut spot f') (hp : p ≠ spot) :
    f.needDirectory p = f'.needDirectory p := by
  unfold Files.needDirectory
  rw [h.same p hp]

theorem needDirectory_agrees (h : f.AlikeBut spot f') (p : Place) :
    Agrees (fun _ => False) Eq (f.needDirectory p) (f'.needDirectory p) := by
  by_cases hp : p = spot
  · obtain ⟨why, hwhy⟩ := exists_refusal h.free
    obtain ⟨why', hwhy'⟩ := exists_refusal h.free'
    rw [hp, hwhy, hwhy']
    exact .fault Iff.rfl
  · rw [h.needDirectory hp]
    exact Agrees.refl _

/-- A way leads to the same place in both trees, or is refused in both. -/
theorem walk (h : f.AlikeBut spot f') (names : List String) (p : Place) :
    Agrees (fun _ => False) Eq (f.walk p names) (f'.walk p names) := by
  induction names generalizing p with
  | nil => exact .ok rfl
  | cons name rest ih =>
    obtain ⟨q, -, hstep⟩ | ⟨r, -, hend⟩ := walk_cons_cases p name rest
    · rw [hstep, hstep]
      exact (h.needDirectory_agrees p).bind fun _ _ _ => ih q
    · rw [hend, hend]
      exact (h.needDirectory_agrees p).bind fun _ _ _ => Agrees.refl r

/-- A way that does not pass the spot is the same in both trees. -/
theorem walk_eq (h : f.AlikeBut spot f') {names : List String} {p : Place}
    (hpasses : spot.passes p names = false) : f.walk p names = f'.walk p names := by
  induction names generalizing p with
  | nil => rfl
  | cons name rest ih =>
    have hneed := h.needDirectory (Place.not_passes_start hpasses)
    obtain ⟨q, hq, hstep⟩ | ⟨r, -, hend⟩ := walk_cons_cases p name rest
    · rw [hstep, hstep, hneed]
      exact bind_congr fun _ => ih (Place.not_passes_next hpasses hq)
    · rw [hend, hend, hneed]

theorem place (h : f.AlikeBut spot f') (path : String) :
    Agrees (fun _ => False) Eq (f.place path) (f'.place path) := by
  unfold Files.place
  split
  · exact .fault Iff.rfl
  · split
    · exact .fault Iff.rfl
    · exact (h.walk _ _).mapError fun _ _ _ => Iff.rfl

theorem place_eq (h : f.AlikeBut spot f') (hpath : passes spot path = false) :
    f.place path = f'.place path := by
  unfold Files.place
  split
  · rfl
  · split
    · rfl
    · exact congrArg (Except.mapError fun why => FileFault.refused why path) (h.walk_eq hpath)

theorem find?_eq (h : f.AlikeBut spot f') (hpath : passes spot path = false) :
    f.find? path = f'.find? path := by
  unfold Files.find?
  rw [← h.place_eq hpath]
  cases hplace : f.place path with
  | error e => rfl
  | ok q =>
    cases q with
    | none => rfl
    | some q => exact h.same q (ne_of_place hpath hplace)

theorem has_eq (h : f.AlikeBut spot f') (hpath : passes spot path = false) :
    f.has path = f'.has path := by
  rw [Files.has, Files.has, h.find?_eq hpath]

theorem hasDirectory_eq (h : f.AlikeBut spot f') (hpath : passes spot path = false) :
    f.hasDirectory path = f'.hasDirectory path := by
  unfold Files.hasDirectory
  rw [h.find?_eq hpath]

/-! ### Reading -/

/-- What stands at a path is the same in both trees, or nothing is found in both, unless the path
leads to the spot. -/
theorem entry (h : f.AlikeBut spot f') (hpath : f.place path ≠ .ok (some spot)) :
    Agrees (fun _ => False) Eq (f.entry path) (f'.entry path) := by
  unfold Files.entry
  refine (h.place path).bind_of_eq fun q q' hq _ heq => ?_
  subst heq
  have hsame : q.bind f.at? = q.bind f'.at? := by
    cases q with
    | none => rfl
    | some q => exact h.same q fun heq => hpath (by rw [hq, heq])
  rw [hsame]
  exact Agrees.refl _

theorem read (h : f.AlikeBut spot f') (hpath : f.place path ≠ .ok (some spot)) :
    Agrees (fun _ => False) Eq (f.read path) (f'.read path) := by
  unfold Files.read
  refine (h.entry hpath).bind fun e e' heq => ?_
  subst heq
  exact Agrees.refl _

/-! ### Making directories -/

theorem makeDirectory (h : f.AlikeBut spot f') (hpath : passes spot path = false) :
    Agrees FileFault.IsThere (Files.AlikeBut spot) (f.makeDirectory path)
      (f'.makeDirectory path) := by
  unfold Files.makeDirectory
  dsimp only
  have hbody : passes spot (if path.toList.all (· = '/') then path else withoutEndSlashes path)
      = false := by
    split
    · exact hpath
    · exact not_passes_withoutEndSlashes h.ne_root h.ne_here hpath
  generalize (if path.toList.all (· = '/') then path else withoutEndSlashes path) = body at hbody
  -- the path leads to one place in both trees, and not to the spot
  rw [← h.place_eq hbody]
  cases hplace : f.place body with
  | error e => cases e <;> exact .fault Iff.rfl
  | ok q =>
    cases q with
    | none => exact .fault Iff.rfl
    | some q =>
      have hne : q ≠ spot := ne_of_place hbody hplace
      dsimp only
      rw [← h.same q hne]
      cases f.at? q with
      | some e => exact .fault Iff.rfl
      | none =>
        cases q with
        | inside names => exact .ok (h.put .directory hne)
        | _ => exact .fault Iff.rfl

theorem ensureDirectory (h : f.AlikeBut spot f') (hpath : passes spot path = false) :
    Agrees FileFault.IsThere (Files.AlikeBut spot) (f.ensureDirectory path)
      (f'.ensureDirectory path) := by
  unfold Files.ensureDirectory
  have hmade := h.makeDirectory hpath
  generalize f.makeDirectory path = made, f'.makeDirectory path = made' at hmade
  cases hmade with
  | ok hmade => exact .ok hmade
  | fault hfault =>
    dsimp only
    rw [← h.hasDirectory_eq hpath]
    split
    · exact .ok h
    · exact .fault hfault

/-- All the directories above a path pass no more than the path, so they are made in both trees or
in none. -/
theorem ensureDirectoriesFrom (h : f.AlikeBut spot f') (fuel : Nat)
    (hpath : passes spot path = false) :
    Agrees FileFault.IsThere (Files.AlikeBut spot) (f.ensureDirectoriesFrom fuel path)
      (f'.ensureDirectoriesFrom fuel path) := by
  induction fuel generalizing path with
  | zero => exact h.ensureDirectory hpath
  | succ fuel ih =>
    have hhead := not_passes_splitDirectory h.ne_root h.ne_here hpath
    have habove : Agrees FileFault.IsThere (Files.AlikeBut spot)
        (withAbove f (f.ensureDirectoriesFrom fuel (splitDirectory path).1))
        (withAbove f' (f'.ensureDirectoriesFrom fuel (splitDirectory path).1)) := by
      have hmade := ih hhead
      generalize f.ensureDirectoriesFrom fuel (splitDirectory path).1 = made,
        f'.ensureDirectoriesFrom fuel (splitDirectory path).1 = made' at hmade
      cases hmade with
      | ok hmade => exact .ok hmade
      | @fault e e' hfault =>
        -- a directory that is there already is as good as one that is made
        by_cases hthere : e.IsThere
        · obtain ⟨p, rfl⟩ := hthere
          obtain ⟨p', rfl⟩ := hfault.1 ⟨p, rfl⟩
          exact .ok h
        · rw [withAbove_of_not_isThere hthere, withAbove_of_not_isThere (mt hfault.2 hthere)]
          exact .fault hfault
    rw [ensureDirectoriesFrom_succ, ensureDirectoriesFrom_succ, ← h.has_eq hhead]
    split
    · refine habove.bind fun above above' halike => ?_
      split
      · exact .ok halike
      · exact halike.ensureDirectory hpath
    · exact h.ensureDirectory hpath

/-! ### Writing -/

theorem opens (h : f.AlikeBut spot f') (hpath : passes spot path = false)
    (hopens : f.Opens path p) : f'.Opens path p :=
  ⟨hopens.slashless, h.place_eq hpath ▸ hopens.place,
    h.same p (ne_of_place hpath hopens.place) ▸ hopens.free⟩

theorem set (h : f.AlikeBut spot f') (content : List UInt8) (hp : p ≠ spot) :
    (f.set p content).AlikeBut spot (f'.set p content) := by
  cases p with
  | inside names => exact h.put _ hp
  | _ => exact h

theorem symm (h : f.AlikeBut spot f') : f'.AlikeBut spot f :=
  ⟨fun p hp => (h.same p hp).symm, h.free', h.free⟩

/-- A text is written in both trees or in none, and what it leaves behind is alike. -/
theorem writeText (h : f.AlikeBut spot f') (hpath : passes spot path = false) (text : String) :
    (f.writeText path text).1.isOk = (f'.writeText path text).1.isOk
      ∧ (f.writeText path text).2.AlikeBut spot (f'.writeText path text).2 := by
  by_cases hopens : ∃ p, f.Opens path p
  · obtain ⟨p, hopens⟩ := hopens
    have hopens' := h.opens hpath hopens
    have hne : p ≠ spot := ne_of_place hpath hopens.place
    cases hencode : Text.encodeFault? .utf8 text.toList with
    | none =>
      rw [hopens.writeText hencode, hopens'.writeText hencode]
      exact ⟨rfl, (h.set [] hne).set _ hne⟩
    | some fault =>
      rw [hopens.writeText_of_fault hencode, hopens'.writeText_of_fault hencode]
      exact ⟨rfl, h.set [] hne⟩
  · have hopens' : ∀ p, ¬f'.Opens path p := fun p hp => hopens ⟨p, h.symm.opens hpath hp⟩
    obtain ⟨fault, hfault⟩ := exists_writeText_eq_error (not_exists.1 hopens) text
    obtain ⟨fault', hfault'⟩ := exists_writeText_eq_error hopens' text
    rw [hfault, hfault']
    exact ⟨rfl, h⟩

end Files.AlikeBut

end Source

namespace CommandLine

open Source (Files)

/-- Code is written in both trees or in none, and what it leaves behind is alike. -/
theorem writeCode_alike {spot : Source.Place} {f f' : Files} (h : f.AlikeBut spot f')
    {path : String} (hpath : Source.passes spot path = false) (code : String) :
    (writeCode code path f).1.isOk = (writeCode code path f').1.isOk
      ∧ (writeCode code path f).2.AlikeBut spot (writeCode code path f').2 := by
  have hparent := Source.not_passes_splitPath h.ne_root h.ne_here hpath
  unfold writeCode
  dsimp only
  by_cases hdirectory : Source.parentPath path = ""
  · simp only [if_pos hdirectory]
    exact h.writeText hpath code
  · simp only [if_neg hdirectory]
    have hmade : Agrees Source.FileFault.IsThere (Files.AlikeBut spot)
        (f.ensureDirectories (Source.parentPath path))
        (f'.ensureDirectories (Source.parentPath path)) :=
      h.ensureDirectoriesFrom _ hparent
    generalize f.ensureDirectories (Source.parentPath path) = made,
      f'.ensureDirectories (Source.parentPath path) = made' at hmade
    cases hmade with
    | ok hmade => exact hmade.writeText hpath code
    | fault => exact ⟨rfl, h⟩

end CommandLine

end OpenApiClient
