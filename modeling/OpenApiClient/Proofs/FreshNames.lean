/-
Fresh names are free, and stay different.

`Naming.fresh` looks through finitely many numbered forms of a name.  That the search
cannot fail is a count: different numbers give different names, there is one number more
than there are taken names, so not all of the numbered forms can be taken
(`exists_numbered_not_mem`).  Which form is found, `fresh_of_mem` says, and everything else here
follows from that.

Since it is bounded by the count, `fresh` does not show the search as it goes.  `Seeks` does: one
look at a time, for as long as the form at hand is taken, and nothing that says when to stop.
`seeks_iff` says that the two agree, so that the search has a result whatever is taken, and
`freshAll_draws` is the same for several names in turn.

The weak spot of a numbered form is that it can be the name of something else: `Item2` may be
wanted itself, before or after the second `Item`.  So the least number is one at the moment when
the name is drawn, where what was drawn before is taken too, and this is what the induction over
the names carries along.
-/
import OpenApiClient.Naming.Fresh
import OpenApiClient.Naming.Identifier
import Mathlib.Data.List.Nodup
import Mathlib.Data.List.Perm.Subperm
import Mathlib.Order.Bounds.Basic

set_option autoImplicit false

namespace OpenApiClient.Naming

/-! ## Numbered names -/

/-- The digits of a number tell which number it is, so a name with a number behind it does
too. -/
theorem numbered_injective (name : String) {j k : Nat} (h : numbered name j = numbered name k) :
    j = k := by
  have hchars : (numbered name j).toList = (numbered name k).toList := by rw [h]
  rw [numbered, numbered, String.toList_append, String.toList_append] at hchars
  have hdigits := List.append_cancel_left hchars
  rw [Nat.toString_eq_repr, Nat.toString_eq_repr, Nat.toList_repr, Nat.toList_repr] at hdigits
  have hread : Nat.ofDigitChars 10 (Nat.toDigits 10 j) 0
      = Nat.ofDigitChars 10 (Nat.toDigits 10 k) 0 := by rw [hdigits]
  simpa using hread

/-- The numbered forms that the search goes through. -/
def candidates (taken : List String) (name : String) : List String :=
  (List.range (taken.length + 1)).map fun i => numbered name (i + 2)

theorem candidates_length (taken : List String) (name : String) :
    (candidates taken name).length = taken.length + 1 := by
  rw [candidates, List.length_map, List.length_range]

theorem candidates_nodup (taken : List String) (name : String) :
    (candidates taken name).Nodup := by
  refine List.Nodup.map ?_ List.nodup_range
  intro j k hjk
  have h := numbered_injective name hjk
  omega

/-- One of the numbered forms is free: they are more than the taken names. -/
theorem exists_numbered_not_mem (taken : List String) (name : String) :
    ∃ n ∈ candidates taken name, n ∉ taken := by
  by_contra hall
  have hsub : candidates taken name ⊆ taken := by
    intro n hn
    by_contra hfree
    exact hall ⟨n, hn, hfree⟩
  have hle := (List.subperm_of_subset (candidates_nodup taken name) hsub).length_le
  rw [candidates_length] at hle
  omega

/-! ## One fresh name -/

section

variable {taken : List String} {name : String}

/-- The numbers from `first` on with which a name is free. -/
def freeNumbers (taken : List String) (name : String) (first : Nat) : Set Nat :=
  {k | first ≤ k ∧ numbered name k ∉ taken}

/-- A name that is free is kept. -/
theorem fresh_of_not_mem (h : name ∉ taken) : fresh taken name = name := by
  unfold fresh
  rw [if_neg (by simpa using h)]

/-- A taken name gets the least number from two on that makes it free. -/
theorem fresh_of_mem (h : name ∈ taken) :
    ∃ k, IsLeast (freeNumbers taken name 2) k ∧ fresh taken name = numbered name k := by
  unfold fresh
  rw [if_pos (by simpa using h), List.find?_map]
  cases hfind : (List.range (taken.length + 1)).find?
      ((fun n => !taken.contains n) ∘ fun i => numbered name (i + 2)) with
  | none =>
    -- all numbers of the range would be taken, and they are too many for that
    obtain ⟨n, hn, hfree⟩ := exists_numbered_not_mem taken name
    obtain ⟨i, hi, rfl⟩ := List.mem_map.1 hn
    have htaken := List.find?_eq_none.1 hfind i hi
    simp [hfree] at htaken
  | some i =>
    obtain ⟨hfree, -, hbefore⟩ := List.find?_range_eq_some.1 hfind
    refine ⟨i + 2, ⟨⟨by omega, by simpa using hfree⟩, ?_⟩, rfl⟩
    rintro k ⟨hk, hkfree⟩
    by_contra hlt
    -- a smaller number would have been met before
    have htaken := hbefore (k - 2) (by omega)
    rw [Function.comp_apply, Nat.sub_add_cancel hk] at htaken
    simp [hkfree] at htaken

/-- A fresh name is the wanted one, or the wanted one with a number from two on. -/
theorem fresh_eq (taken : List String) (name : String) :
    fresh taken name = name ∨ ∃ k, 2 ≤ k ∧ fresh taken name = numbered name k := by
  by_cases h : name ∈ taken
  · obtain ⟨k, hk, heq⟩ := fresh_of_mem h
    exact .inr ⟨k, hk.1.1, heq⟩
  · exact .inl (fresh_of_not_mem h)

/-- A fresh name is not taken. -/
theorem fresh_not_mem (taken : List String) (name : String) : fresh taken name ∉ taken := by
  by_cases h : name ∈ taken
  · obtain ⟨k, hk, heq⟩ := fresh_of_mem h
    rw [heq]
    exact hk.1.2
  · rw [fresh_of_not_mem h]
    exact h

/-! ### The form of a fresh name -/

/-- The form in which a name is drawn while some names are taken: as it is if it is free, and
otherwise with the least number from two on that makes it free. -/
inductive IsDrawn (taken : List String) (name : String) : String → Prop where
  | plain (h : name ∉ taken) : IsDrawn taken name name
  | counted {k : Nat} (h : name ∈ taken) (hk : IsLeast (freeNumbers taken name 2) k) :
    IsDrawn taken name (numbered name k)

theorem isDrawn_fresh (taken : List String) (name : String) :
    IsDrawn taken name (fresh taken name) := by
  by_cases h : name ∈ taken
  · obtain ⟨k, hk, heq⟩ := fresh_of_mem h
    rw [heq]
    exact .counted h hk
  · rw [fresh_of_not_mem h]
    exact .plain h

/-- There is no choice about the form. -/
theorem IsDrawn.unique {r s : String} (hr : IsDrawn taken name r) (hs : IsDrawn taken name s) :
    r = s := by
  cases hr with
  | plain hfree =>
    cases hs with
    | plain _ => rfl
    | counted h _ => exact absurd h hfree
  | counted h hk =>
    cases hs with
    | plain hfree => exact absurd h hfree
    | counted _ hj => rw [hk.unique hj]

theorem isDrawn_iff {r : String} : IsDrawn taken name r ↔ r = fresh taken name := by
  constructor
  · exact fun h => h.unique (isDrawn_fresh taken name)
  · rintro rfl
    exact isDrawn_fresh taken name

/-- The form depends on what is taken only as a set. -/
theorem IsDrawn.congr {taken' : List String} {r : String} (h : IsDrawn taken name r)
    (hsame : ∀ n, n ∈ taken' ↔ n ∈ taken) : IsDrawn taken' name r := by
  have hnumbers : freeNumbers taken' name 2 = freeNumbers taken name 2 := by
    ext k
    simp only [freeNumbers, Set.mem_ofPred_eq, hsame]
  cases h with
  | plain hfree => exact .plain (mt (hsame name).1 hfree)
  | counted h hk =>
    apply IsDrawn.counted ((hsame name).2 h)
    rw [hnumbers]
    exact hk

/-! ### The search -/

/-- The search, from a candidate on and with the number that is tried next.  A candidate that is
free is the result; after a taken one the search goes on with the next form. -/
inductive Seeks (taken : List String) (name : String) : String → Nat → String → Prop where
  | found {candidate : String} {next : Nat} (h : candidate ∉ taken) :
    Seeks taken name candidate next candidate
  | onward {candidate result : String} {next : Nat} (h : candidate ∈ taken)
    (hrest : Seeks taken name (numbered name next) (next + 1) result) :
    Seeks taken name candidate next result

/-- The search is settled by what is taken. -/
theorem Seeks.unique {candidate r s : String} {next : Nat} (hr : Seeks taken name candidate next r)
    (hs : Seeks taken name candidate next s) : r = s := by
  induction hr with
  | found hfree =>
    cases hs with
    | found _ => rfl
    | onward h _ => exact absurd h hfree
  | onward h _ ih =>
    cases hs with
    | found hfree => exact absurd h hfree
    | onward _ hs => exact ih hs

/-- Numbers that are not free are passed over. -/
theorem isLeast_freeNumbers_succ {first k : Nat} (h : IsLeast (freeNumbers taken name first) k)
    (htaken : numbered name first ∈ taken) : IsLeast (freeNumbers taken name (first + 1)) k := by
  obtain ⟨⟨hle, hfree⟩, hleast⟩ := h
  have hne : first ≠ k := fun heq => hfree (heq ▸ htaken)
  refine ⟨⟨by omega, hfree⟩, ?_⟩
  rintro j ⟨hj, hjfree⟩
  exact hleast ⟨by omega, hjfree⟩

/-- From a number on the search ends at the least one that makes the name free.  The induction is
on how far this is away. -/
theorem seeks_numbered {first k : Nat} (h : IsLeast (freeNumbers taken name first) k) :
    Seeks taken name (numbered name first) (first + 1) (numbered name k) := by
  obtain ⟨d, hd⟩ := Nat.exists_eq_add_of_le h.1.1
  induction d generalizing first with
  | zero =>
    rw [Nat.add_zero] at hd
    rw [← hd]
    exact .found (hd ▸ h.1.2)
  | succ d ih =>
    by_cases htaken : numbered name first ∈ taken
    · apply Seeks.onward htaken
      exact ih (isLeast_freeNumbers_succ h htaken) (by omega)
    · -- the first number would be free, and it is smaller than the least one
      have hle : k ≤ first := h.2 ⟨Nat.le_refl first, htaken⟩
      omega

theorem IsDrawn.seeks {r : String} (h : IsDrawn taken name r) : Seeks taken name name 2 r := by
  cases h with
  | plain hfree => exact .found hfree
  | counted h hk => exact .onward h (seeks_numbered hk)

/-- The search ends, and a fresh name is where. -/
theorem seeks_iff {r : String} : Seeks taken name name 2 r ↔ r = fresh taken name := by
  have hfresh := (isDrawn_fresh taken name).seeks
  constructor
  · exact fun h => h.unique hfresh
  · rintro rfl
    exact hfresh

end

/-! ## Several fresh names -/

theorem freshAll_cons (taken : List String) (name : String) (names : List String) :
    freshAll taken (name :: names)
      = (fresh taken name :: (freshAll (taken ++ [fresh taken name]) names).1,
        (freshAll (taken ++ [fresh taken name]) names).2) := rfl

theorem freshAll_length (taken names : List String) :
    (freshAll taken names).1.length = names.length := by
  induction names generalizing taken with
  | nil => rfl
  | cons n ns ih =>
    rw [freshAll]
    simp only [List.length_cons, ih]

/-- Each of several fresh names is a fresh one for a name that was wanted. -/
theorem exists_fresh_of_mem_freshAll {taken names : List String} {name : String}
    (h : name ∈ (freshAll taken names).1) :
    ∃ wanted ∈ names, ∃ taken', name = fresh taken' wanted := by
  induction names generalizing taken with
  | nil => cases h
  | cons n ns ih =>
    rw [freshAll] at h
    rcases List.mem_cons.1 h with rfl | h
    · exact ⟨n, List.mem_cons_self, taken, rfl⟩
    · obtain ⟨wanted, hwanted, hfresh⟩ := ih h
      exact ⟨wanted, List.mem_cons_of_mem _ hwanted, hfresh⟩

/-- The names that are taken at the end are those that were taken, and the new ones. -/
theorem freshAll_snd (taken names : List String) :
    (freshAll taken names).2 = taken ++ (freshAll taken names).1 := by
  induction names generalizing taken with
  | nil => rw [freshAll, List.append_nil]
  | cons n ns ih =>
    rw [freshAll]
    dsimp only
    rw [ih, List.append_assoc, List.singleton_append]

/-- Fresh names are different from each other and from the taken ones. -/
theorem freshAll_nodup (taken names : List String) :
    (freshAll taken names).1.Nodup ∧ ∀ n ∈ (freshAll taken names).1, n ∉ taken := by
  induction names generalizing taken with
  | nil => exact ⟨List.nodup_nil, by simp [freshAll]⟩
  | cons n ns ih =>
    rw [freshAll]
    obtain ⟨hnodup, hfree⟩ := ih (taken ++ [fresh taken n])
    refine ⟨List.nodup_cons.2 ⟨?_, hnodup⟩, ?_⟩
    · intro hmem
      exact hfree _ hmem (by simp)
    · intro m hm
      rcases List.mem_cons.1 hm with rfl | hm
      · exact fresh_not_mem taken n
      · intro htaken
        exact hfree m hm (List.mem_append_left _ htaken)

/-- Names that come later change nothing for those before them. -/
theorem freshAll_append (taken names more : List String) :
    (freshAll taken (names ++ more)).1
      = (freshAll taken names).1 ++ (freshAll (freshAll taken names).2 more).1 := by
  induction names generalizing taken with
  | nil => rfl
  | cons name names ih =>
    rw [List.cons_append, freshAll_cons, freshAll_cons]
    simp only [ih, List.cons_append]

/-- Each name is drawn while the first taken names and the results before it are taken. -/
theorem isDrawn_getElem? (taken names : List String) (i : Nat) :
    Option.Rel (IsDrawn (taken ++ (freshAll taken names).1.take i)) names[i]?
      (freshAll taken names).1[i]? := by
  induction names generalizing taken i with
  | nil =>
    rw [freshAll, List.getElem?_nil]
    exact .none
  | cons name names ih =>
    rw [freshAll_cons]
    cases i with
    | zero =>
      rw [List.take_zero, List.append_nil]
      exact .some (isDrawn_fresh taken name)
    | succ i =>
      -- one step on, the first result is among the taken names
      have hrest := ih (taken ++ [fresh taken name]) i
      rw [List.append_assoc, List.singleton_append] at hrest
      exact hrest

/-- Which names are drawn depends on what is taken only as a set. -/
theorem freshAll_congr {taken taken' : List String} (h : ∀ n, n ∈ taken' ↔ n ∈ taken)
    (names : List String) : (freshAll taken' names).1 = (freshAll taken names).1 := by
  induction names generalizing taken taken' with
  | nil => rfl
  | cons name names ih =>
    have hfirst : fresh taken' name = fresh taken name :=
      (isDrawn_iff.1 ((isDrawn_fresh taken name).congr h)).symm
    have hrest : ∀ n, n ∈ taken' ++ [fresh taken name] ↔ n ∈ taken ++ [fresh taken name] := by
      intro n
      rw [List.mem_append, List.mem_append, h]
    rw [freshAll_cons, freshAll_cons, hfirst, ih hrest]

/-! ### Searches in turn -/

/-- A search for each of several names, one after the other: what is found is taken from then on.
The last list holds the names that are taken at the end. -/
inductive Draws : List String → List String → List String → List String → Prop where
  | nil (taken : List String) : Draws taken [] [] taken
  | cons {taken names results final : List String} {name result : String}
    (hfirst : Seeks taken name name 2 result)
    (hrest : Draws (taken ++ [result]) names results final) :
    Draws taken (name :: names) (result :: results) final

/-- The searches end, each with the fresh name for its moment. -/
theorem draws_iff {taken names results final : List String} :
    Draws taken names results final ↔ freshAll taken names = (results, final) := by
  constructor
  · intro h
    induction h with
    | nil taken => rfl
    | cons hfirst _ ih => rw [freshAll_cons, ← seeks_iff.1 hfirst, ih]
  · intro h
    induction names generalizing taken results final with
    | nil =>
      obtain ⟨rfl, rfl⟩ := Prod.mk.inj h
      exact .nil taken
    | cons name names ih =>
      rw [freshAll_cons] at h
      obtain ⟨rfl, rfl⟩ := Prod.mk.inj h
      exact .cons (seeks_iff.2 rfl) (ih rfl)

/-- Free names are sought for some names in turn.  The searches end, whatever is taken, and there is
one outcome.  The results differ from each other and from the names that were taken; the names taken
at the end are those and the results, and no others.  Each result is its name, if this is free when
its turn comes, and otherwise its name with the least number from two on that is free then.  The
results do not depend on the names that come later, nor on the order in which the taken names are
listed. -/
theorem freshAll_draws (taken names : List String) :
    ∃ results final, freshAll taken names = (results, final)
      ∧ (∀ rs f, Draws taken names rs f ↔ rs = results ∧ f = final)
      ∧ results.Nodup
      ∧ (∀ n ∈ results, n ∉ taken)
      ∧ (∀ n, n ∈ final ↔ n ∈ taken ∨ n ∈ results)
      ∧ (∀ i, Option.Rel (IsDrawn (taken ++ results.take i)) names[i]? results[i]?)
      ∧ (∀ more, (freshAll taken (names ++ more)).1.take names.length = results)
      ∧ ∀ taken', (∀ n, n ∈ taken' ↔ n ∈ taken) → (freshAll taken' names).1 = results := by
  obtain ⟨hnodup, hfree⟩ := freshAll_nodup taken names
  refine ⟨(freshAll taken names).1, (freshAll taken names).2, rfl, ?_, hnodup, hfree, ?_,
    isDrawn_getElem? taken names, ?_, fun taken' h => freshAll_congr h names⟩
  · intro rs f
    rw [draws_iff, Prod.ext_iff, eq_comm, eq_comm (a := f)]
  · intro n
    rw [freshAll_snd, List.mem_append]
  · intro more
    rw [freshAll_append, ← freshAll_length taken names, List.take_left]

/-- The number of a name can have been given away already. -/
example : (freshAll ["Item2"] ["Item", "Item", "Item2"]).1 = ["Item", "Item3", "Item22"] := by
  decide

end OpenApiClient.Naming
