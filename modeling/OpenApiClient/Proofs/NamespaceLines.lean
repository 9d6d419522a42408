/-
The namespaces of a file: the ones it imports, and the one it opens.

The wanted namespaces are taken through three steps: the empty names go, then the repetitions,
then the names in which an exclusion pattern occurs.  Repetitions are dropped by a list that grows
at its end, so it is followed from the end of the wanted names (`distinct_append`), and the thing
to check is that it does not matter whether names go before or after that (`distinct_filter`).  So
the imported namespaces are the first occurrences of wanted ones, and what is dropped leaves their
order as it is.  A file is made from this list twice: it gives the directives, and it gives the
prefixes that are taken out of the contracts, both in the order of the list
(`namespaces_imported`).

The interface and the contracts are put into the same namespace, but the contracts are shortened
by the imported namespaces afterwards, and that is done on their whole text.  The first line of
the text is the one that opens their namespace.  It stays if no prefix that is taken out touches
it, and for imported namespaces without a line feed, which cannot reach into the text behind it,
only then.  In any case the line is the one that was written, without those prefixes
(`segment_opens`).  So a namespace such as `Shop.Refit.Client` is the one of the interface, while
the contracts are in `Shop.Client`.
-/
import OpenApiClient.Proofs.ChosenNames
import OpenApiClient.Proofs.Erasing
import OpenApiClient.Proofs.Outcomes

set_option autoImplicit false

namespace OpenApiClient

namespace Imports

/-! ## First occurrences -/

theorem distinct_append (ns : List String) (n : String) :
    distinct (ns ++ [n]) = if n ∈ distinct ns then distinct ns else distinct ns ++ [n] := by
  unfold distinct
  rw [List.foldl_append, List.foldl_cons, List.foldl_nil]
  simp only [List.contains_iff_mem]

theorem mem_distinct_iff {n : String} {ns : List String} : n ∈ distinct ns ↔ n ∈ ns := by
  induction ns using List.reverseRecOn with
  | nil => rfl
  | append_singleton ns m ih =>
    rw [distinct_append, List.mem_append, List.mem_singleton, ← ih]
    by_cases hm : m ∈ distinct ns
    · rw [if_pos hm]
      refine ⟨.inl, ?_⟩
      rintro (h | rfl)
      · exact h
      · exact hm
    · rw [if_neg hm, List.mem_append, List.mem_singleton]

/-- It is the same to drop names before the repetitions of names and after them. -/
theorem distinct_filter (keeps : String → Bool) (ns : List String) :
    distinct (ns.filter keeps) = (distinct ns).filter keeps := by
  induction ns using List.reverseRecOn with
  | nil => rfl
  | append_singleton ns n ih =>
    rw [List.filter_append, List.filter_singleton, distinct_append]
    cases hn : keeps n with
    | false =>
      rw [cond_false, List.append_nil, ih]
      split
      · rfl
      · rw [List.filter_append, List.filter_singleton, hn, cond_false, List.append_nil]
    | true =>
      have hmem : n ∈ (distinct ns).filter keeps ↔ n ∈ distinct ns := by
        rw [List.mem_filter, hn]
        exact and_iff_left rfl
      rw [cond_true, distinct_append, ih]
      simp only [hmem]
      split
      · rfl
      · rw [List.filter_append, List.filter_singleton, hn, cond_true]

/-- The names come in the order of their first occurrences. -/
theorem distinct_ordered (ns : List String) :
    (distinct ns).Pairwise fun a b => ns.idxOf a < ns.idxOf b := by
  induction ns using List.reverseRecOn with
  | nil => exact List.Pairwise.nil
  | append_singleton ns n ih =>
    -- the names so far occur first where they did, and a new one occurs behind them all
    have hkept : ∀ {a}, a ∈ distinct ns → (ns ++ [n]).idxOf a = ns.idxOf a :=
      fun h => List.idxOf_append_of_mem (mem_distinct_iff.1 h)
    have hbefore : (distinct ns).Pairwise fun a b => (ns ++ [n]).idxOf a < (ns ++ [n]).idxOf b := by
      refine ih.imp_of_mem fun ha hb hlt => ?_
      rwa [hkept ha, hkept hb]
    rw [distinct_append]
    split
    · exact hbefore
    · rename_i hnew
      refine List.pairwise_append.2 ⟨hbefore, List.pairwise_singleton _ _, ?_⟩
      intro a ha b hb
      rw [List.mem_singleton.1 hb, hkept ha,
        List.idxOf_append_of_notMem (mt mem_distinct_iff.2 hnew)]
      have hlt := List.idxOf_lt_length_iff.2 (mem_distinct_iff.1 ha)
      omega

/-! ## The imported namespaces -/

/-- Whether a namespace is imported if it is wanted. -/
def isKept (patterns : List Pattern) (n : String) : Bool :=
  !patterns.any (·.occursIn n) && n ≠ ""

theorem isKept_iff {patterns : List Pattern} {n : String} :
    isKept patterns n ↔ n ≠ "" ∧ ∀ p ∈ patterns, ¬ p.occursIn n := by
  simp [isKept, and_comm]

variable {s : Settings} {patterns : List Pattern}

/-- Where the patterns can be read, the list of imported namespaces can be had. -/
theorem imported_of_readAll (h : Pattern.readAll s.excludeNamespaces = .ok patterns) :
    imported s = .ok ((distinct (wanted s)).filter (isKept patterns)) := by
  unfold imported
  rw [h, distinct_filter]
  change Except.ok _ = _
  rw [List.filter_filter]
  rfl

theorem mem_wanted_iff {n : String} :
    n ∈ wanted s ↔ n ∈ defaults ∨ (s.useCancellationTokens ∧ n = "System.Threading")
      ∨ n ∈ s.additionalNamespaces := by
  unfold wanted
  rw [List.mem_append, List.mem_append, or_assoc]
  by_cases htokens : s.useCancellationTokens <;> simp [htokens]

/-! ## The lines of the directives -/

/-- The directive of a namespace, with the end of its line. -/
def importLine (name : String) : String := "using " ++ name ++ ";\n"

theorem importLine_eq (name : String) : importLine name = "using " ++ name ++ ";" ++ "\n" := by
  have hend : ";\n" = ";" ++ "\n" := rfl
  rw [importLine, hend, String.append_assoc, String.append_assoc, String.append_assoc]

theorem directives_lines {names : List String} (h : names ≠ []) :
    directives names ++ "\n" = String.join (names.map importLine) := by
  obtain ⟨n, names, rfl⟩ := List.exists_cons_of_ne_nil h
  unfold directives
  induction names generalizing n with
  | nil =>
    rw [List.map_singleton, String.intercalate_singleton, List.map_singleton, String.join_cons,
      String.join_nil, String.append_empty, importLine_eq]
  | cons m names ih =>
    have hrest := ih m (List.cons_ne_nil m names)
    rw [List.map_cons] at hrest ⊢
    rw [List.map_cons, String.intercalate_cons_cons, String.append_assoc, hrest, List.map_cons,
      List.map_cons, List.map_cons, String.join_cons, String.join_cons, importLine_eq n,
      String.join_cons]

/-- The directives of namespaces without line feeds are as many lines. -/
theorem splitOn_importLines {names : List String} (h : ∀ n ∈ names, '\n' ∉ n.toList) :
    Text.splitOn '\n' (String.join (names.map importLine)).toList
      = names.map (fun n => ("using " ++ n ++ ";").toList) ++ [[]] := by
  induction names with
  | nil => rfl
  | cons n names ih =>
    obtain ⟨hn, hnames⟩ := List.forall_mem_cons.1 h
    have hline : '\n' ∉ ("using " ++ n ++ ";").toList := by
      rw [String.toList_append, String.toList_append]
      simp [hn]
    have hcut : (String.join ((n :: names).map importLine)).toList
        = ("using " ++ n ++ ";").toList ++ '\n' :: (String.join (names.map importLine)).toList := by
      rw [List.map_cons, String.join_cons, importLine]
      simp
    rw [hcut, Text.splitOn_append, Text.splitOn_of_not_mem hline, ih hnames, List.map_cons]
    rfl

end Imports

namespace Generate

open CSharp
open Schema
open Text (Touches)

variable {s : Settings} {d : Document}

/-- The steps in which a file is made. -/
theorem client_eq_ok_iff {out : String} :
    client s d = .ok out ↔
      ∃ cs i l l' names, Returns (contracts (.of s d)) {} cs l
        ∧ Returns (interfaceDecl (.of s d)) l i l' ∧ Imports.imported s = .ok names
        ∧ out = Assembly.assemble s (Imports.directives names) (renderInterface i)
          (some (Imports.stripAll (renderContracts s cs) names)) := by
  unfold client
  constructor
  · intro h
    obtain ⟨r, hr, h⟩ := bind_eq_ok_iff.1 h
    obtain ⟨names, hnames, h⟩ := bind_eq_ok_iff.1 h
    obtain ⟨l', hparts⟩ := result_eq_ok_iff.1 hr
    obtain ⟨l, hcontracts, hinterface⟩ := returns_parts_iff.1 hparts
    refine ⟨r.1, r.2, l, l', names, hcontracts, hinterface, mapError_eq_ok_iff.1 hnames, ?_⟩
    exact (pure_eq_ok_iff.1 h).symm
  · rintro ⟨cs, i, l, l', names, hcontracts, hinterface, hnames, rfl⟩
    have hparts : Returns (parts (.of s d)) {} (cs, i) l' :=
      returns_parts_iff.2 ⟨l, hcontracts, hinterface⟩
    refine bind_eq_ok_iff.2 ⟨(cs, i), result_eq_ok_iff.2 ⟨l', hparts⟩, ?_⟩
    exact bind_eq_ok_iff.2 ⟨names, mapError_eq_ok_iff.2 hnames, rfl⟩

/-- A file with contracts ends with them. -/
theorem assemble_of_given (hgiven : s.generateContracts = true)
    (imports interfaceBody code : String) :
    Assembly.assemble s imports interfaceBody (some code)
      = Assembly.clientBlock s imports interfaceBody ++ "\n" ++ "\n" ++ code ++ "\n" := by
  unfold Assembly.assemble
  rw [if_pos hgiven, Option.getD_some]

/-! ## Files and the namespaces they import -/

/-- What precedes the contracts in a file, in terms of the lines of the directives. -/
theorem assemble_eq (s : Settings) (names : List String) (interfaceBody code : String) :
    Assembly.assemble s (Imports.directives names) interfaceBody (some code)
      = (if s.addAutoGeneratedHeader then Assembly.header ++ "\n" else "")
        ++ (if names = [] then "\n" else String.join (names.map Imports.importLine)) ++ "\n"
        ++ Assembly.namespaceBlock s.namespaceName interfaceBody ++ "\n" ++ "\n" ++ "\n"
        ++ (if s.generateContracts then code else "") ++ "\n" := by
  have hlines : Imports.directives names ++ "\n"
      = if names = [] then "\n" else String.join (names.map Imports.importLine) := by
    by_cases hnames : names = []
    · rw [if_pos hnames, hnames]
      rfl
    · rw [if_neg hnames, Imports.directives_lines hnames]
  unfold Assembly.assemble Assembly.clientBlock
  rw [Option.getD_some, ← hlines]
  simp only [String.append_assoc]

/-- If the exclusion patterns can be read, there is a list of imported namespaces: those wanted
names that are not empty and in which no pattern occurs, each once, in the order in which they are
first wanted.  Every file that is made has one directive for each of them, in this order, between
the comment at its top and the interface, and the prefixes that are taken out of its contracts are
those of these namespaces, in this order.  The directives are as many lines, if there is no line
feed in a namespace. -/
theorem namespaces_imported (s : Settings) {patterns : List Pattern}
    (hpatterns : Pattern.readAll s.excludeNamespaces = .ok patterns) :
    ∃ names, Imports.imported s = .ok names ∧ names.Nodup
      ∧ (∀ n, n ∈ names ↔ n ≠ ""
        ∧ (n ∈ Imports.defaults ∨ (s.useCancellationTokens ∧ n = "System.Threading")
          ∨ n ∈ s.additionalNamespaces)
        ∧ ∀ p ∈ patterns, ¬ p.occursIn n)
      ∧ names.Pairwise (fun a b => (Imports.wanted s).idxOf a < (Imports.wanted s).idxOf b)
      ∧ (∀ d out, client s d = .ok out ↔
        ∃ cs i l l', Returns (contracts (.of s d)) {} cs l
          ∧ Returns (interfaceDecl (.of s d)) l i l'
          ∧ out = (if s.addAutoGeneratedHeader then Assembly.header ++ "\n" else "")
            ++ (if names = [] then "\n" else String.join (names.map Imports.importLine)) ++ "\n"
            ++ Assembly.namespaceBlock s.namespaceName (renderInterface i) ++ "\n" ++ "\n" ++ "\n"
            ++ (if s.generateContracts then
                names.foldl (fun code n => Text.eraseAll (n ++ ".") code) (renderContracts s cs)
              else "") ++ "\n")
      ∧ ((∀ n ∈ names, '\n' ∉ n.toList) →
        Text.splitOn '\n' (String.join (names.map Imports.importLine)).toList
          = names.map (fun n => ("using " ++ n ++ ";").toList) ++ [[]]) := by
  have himported := Imports.imported_of_readAll hpatterns
  have hordered := (Imports.distinct_ordered (Imports.wanted s)).filter (Imports.isKept patterns)
  refine ⟨_, himported, ?_, ?_, hordered, ?_, Imports.splitOn_importLines⟩
  · -- no name comes before itself
    refine hordered.imp fun hlt heq => ?_
    rw [heq] at hlt
    exact Nat.lt_irrefl _ hlt
  · intro n
    rw [List.mem_filter, Imports.mem_distinct_iff, Imports.mem_wanted_iff, Imports.isKept_iff,
      and_left_comm]
  · intro d out
    rw [client_eq_ok_iff]
    constructor
    · rintro ⟨cs, i, l, l', names, hcontracts, hinterface, hnames, rfl⟩
      rw [himported] at hnames
      cases hnames
      exact ⟨cs, i, l, l', hcontracts, hinterface, assemble_eq _ _ _ _⟩
    · rintro ⟨cs, i, l, l', hcontracts, hinterface, rfl⟩
      exact ⟨cs, i, l, l', _, hcontracts, hinterface, himported, (assemble_eq _ _ _ _).symm⟩

/-- A document with one schema. -/
def shopDocument : Document where
  title := "Shop"
  schemas := [("Item", .object 1 [(.text "properties", .object 2 [
    (.text "made", .object 3 [(.text "type", .text "string"), (.text "format", .text "date")])])])]

/-- Settings that add namespaces, some of them more than once, and exclude one of the defaults. -/
def addingSettings : Settings where
  openApiPath := "shop.json"
  useCancellationTokens := true
  addAutoGeneratedHeader := false
  additionalNamespaces := ["Shop.Models", "", "Refit", "Shop.Models", "System.Text"]
  excludeNamespaces := ["Text"]

/-- The namespaces that they import. -/
def addedNamespaces : List String :=
  ["Refit", "System.Collections.Generic", "System.Threading.Tasks", "System.Threading",
    "Shop.Models"]

theorem namespaces_imported_adding :
    ∃ patterns, Pattern.readAll addingSettings.excludeNamespaces = .ok patterns
      ∧ Imports.imported addingSettings = .ok addedNamespaces
      ∧ ∃ out rest, client addingSettings shopDocument = .ok out
        ∧ out = "using Refit;\nusing System.Collections.Generic;\n"
          ++ ("using System.Threading.Tasks;\nusing System.Threading;\nusing Shop.Models;\n"
            ++ rest) := by
  have hread : (Pattern.readAll addingSettings.excludeNamespaces).isOk := by decide +kernel
  have hrun : (client addingSettings shopDocument).isOk := by decide +kernel
  have hnames : Imports.imported addingSettings = .ok addedNamespaces := by decide +kernel
  obtain ⟨patterns, hpatterns⟩ := exists_ok hread
  obtain ⟨out, hout⟩ := exists_ok hrun
  obtain ⟨names, himported, -, -, -, hfiles, -⟩ := namespaces_imported addingSettings hpatterns
  obtain ⟨cs, i, l, l', -, -, hfile⟩ := (hfiles shopDocument out).1 hout
  rw [hnames] at himported
  cases himported
  have hhead : (if addingSettings.addAutoGeneratedHeader then Assembly.header ++ "\n" else "")
      ++ (if addedNamespaces = [] then "\n"
        else String.join (addedNamespaces.map Imports.importLine))
      = "using Refit;\nusing System.Collections.Generic;\n"
        ++ "using System.Threading.Tasks;\nusing System.Threading;\nusing Shop.Models;\n" := by
    decide +kernel
  rw [hhead] at hfile
  simp only [String.append_assoc] at hfile
  exact ⟨patterns, hpatterns, hnames, out, _, hout, hfile⟩

/-! ## The line that opens the namespace -/

/-- The line that opens the namespace of the settings. -/
def namespaceLine (s : Settings) : String := "namespace " ++ s.namespaceName

/-- The contracts begin with the line of their namespace. -/
theorem toList_renderContracts (s : Settings) (cs : List Contract) :
    ∃ rest, (renderContracts s cs).toList = (namespaceLine s).toList ++ '\n' :: rest := by
  unfold renderContracts Assembly.namespaceBlock namespaceLine
  simp only [String.toList_append, List.append_assoc]
  exact ⟨_, rfl⟩

variable {names : List String} {code : String} {rest : List Char}

/-- What is left of the line that opens a text, when the prefixes of some namespaces are taken
out of the text. -/
theorem segment_opens (names : List String) {line : String}
    (hcode : code.toList = line.toList ++ '\n' :: rest) :
    ((∀ n ∈ names, ¬ Touches (Imports.stripped n) (line ++ "\n").toList) →
        (line ++ "\n").toList <+: (Imports.stripAll code names).toList)
      ∧ ((∀ n ∈ names, '\n' ∉ n.toList) →
        (Imports.stripAll line names ++ "\n").toList <+: (Imports.stripAll code names).toList
          ∧ ((line ++ "\n").toList <+: (Imports.stripAll code names).toList ↔
            ∀ n ∈ names, ¬ Touches (Imports.stripped n) (line ++ "\n").toList)) := by
  have hfeed : "\n".toList = ['\n'] := rfl
  simp only [Imports.toList_stripAll, String.toList_append, hfeed, hcode]
  refine ⟨fun hspared => ?_, fun hnames => ?_⟩
  · have hcut : line.toList ++ '\n' :: rest = (line.toList ++ ['\n']) ++ rest := by simp
    rw [hcut]
    refine Text.prefix_eraseEach (fun w hw => ?_) rest
    obtain ⟨n, hn, rfl⟩ := List.mem_map.1 hw
    exact ⟨Imports.stripped_ne_nil n, hspared n hn⟩
  · have hws := Imports.stripped_without_lineFeed hnames
    refine ⟨?_, ?_⟩
    · rw [Text.eraseEach_append_separator hws]
      exact ⟨Text.eraseEach (names.map Imports.stripped) rest, by simp⟩
    · rw [Text.prefix_eraseEach_iff hws, List.forall_mem_map]
      refine forall₂_congr fun n hn => not_congr ?_
      exact (Text.touches_separator_iff (hws _ (List.mem_map_of_mem hn)).2).symm

/-- A file with contracts is the client block, with the interface in the namespace of the
settings, and the contracts without the prefixes of the imported namespaces.  The contracts open
with the line of the same namespace if none of these prefixes touches it.  If no imported
namespace has a line feed, then they open with that line only if none of them touches it, and
always with that line without them. -/
theorem contracts_open (s : Settings) (d : Document) {out : String}
    (hgiven : s.generateContracts = true) (hout : client s d = .ok out) :
    ∃ cs i l l' names segment, Returns (contracts (.of s d)) {} cs l
      ∧ Returns (interfaceDecl (.of s d)) l i l' ∧ Imports.imported s = .ok names
      ∧ segment = Imports.stripAll (renderContracts s cs) names
      ∧ out = (if s.addAutoGeneratedHeader then Assembly.header ++ "\n" else "")
          ++ Imports.directives names ++ "\n" ++ "\n"
          ++ Assembly.namespaceBlock s.namespaceName (renderInterface i) ++ "\n" ++ "\n" ++ "\n"
          ++ segment ++ "\n"
      ∧ ((∀ n ∈ names, ¬ Touches (Imports.stripped n) (namespaceLine s ++ "\n").toList) →
          (namespaceLine s ++ "\n").toList <+: segment.toList)
      ∧ ((∀ n ∈ names, '\n' ∉ n.toList) →
          (Imports.stripAll (namespaceLine s) names ++ "\n").toList <+: segment.toList
            ∧ ((namespaceLine s ++ "\n").toList <+: segment.toList ↔
              ∀ n ∈ names, ¬ Touches (Imports.stripped n) (namespaceLine s ++ "\n").toList)) := by
  obtain ⟨cs, i, l, l', names, hcontracts, hinterface, hnames, rfl⟩ := client_eq_ok_iff.1 hout
  obtain ⟨rest, hrest⟩ := toList_renderContracts s cs
  obtain ⟨hspared, hlines⟩ := segment_opens names hrest
  refine ⟨cs, i, l, l', names, _, hcontracts, hinterface, hnames, rfl, ?_, hspared, hlines⟩
  rw [assemble_of_given hgiven, Assembly.clientBlock]

/-- Settings with a namespace in which an imported namespace stands. -/
def shopSettings : Settings := { openApiPath := "shop.json", namespaceName := "Shop.Refit.Client" }

theorem imported_shopSettings : Imports.imported shopSettings = .ok Imports.defaults := by
  rfl

theorem exists_client_shop : ∃ out, client shopSettings shopDocument = .ok out := by
  have hok : (client shopSettings shopDocument).isOk := by decide +kernel
  exact exists_ok hok

theorem contracts_open_shop :
    shopSettings.generateContracts = true ∧ ∃ out segment before,
      client shopSettings shopDocument = .ok out ∧ out = before ++ segment ++ "\n"
        ∧ "namespace Shop.Client\n".toList <+: segment.toList := by
  obtain ⟨out, hout⟩ := exists_client_shop
  obtain ⟨cs, i, l, l', names, segment, -, -, hnames, -, hfile, -, hlines⟩ :=
    contracts_open shopSettings shopDocument rfl hout
  rw [imported_shopSettings] at hnames
  cases hnames
  have hgiven : shopSettings.generateContracts = true := rfl
  refine ⟨hgiven, out, segment, _, hout, hfile, ?_⟩
  have hline : Imports.stripAll (namespaceLine shopSettings) Imports.defaults ++ "\n"
      = "namespace Shop.Client\n" := by
    decide +kernel
  have hopens := (hlines (by decide)).1
  rwa [hline] at hopens

/-- The interface of that document is in the namespace of the settings, and its contracts do not
open with it. -/
theorem contracts_elsewhere :
    ∃ cs i l l', Returns (contracts (.of shopSettings shopDocument)) {} cs l
      ∧ Returns (interfaceDecl (.of shopSettings shopDocument)) l i l'
      ∧ client shopSettings shopDocument
        = .ok (Assembly.clientBlock shopSettings (Imports.directives Imports.defaults)
            (renderInterface i) ++ "\n" ++ "\n"
          ++ Imports.stripAll (renderContracts shopSettings cs) Imports.defaults ++ "\n")
      ∧ ¬ (namespaceLine shopSettings ++ "\n").toList
        <+: (Imports.stripAll (renderContracts shopSettings cs) Imports.defaults).toList := by
  obtain ⟨out, hout⟩ := exists_client_shop
  obtain ⟨cs, i, l, l', names, hcontracts, hinterface, hnames, hfile⟩ := client_eq_ok_iff.1 hout
  rw [imported_shopSettings] at hnames
  cases hnames
  rw [hfile, assemble_of_given rfl] at hout
  refine ⟨cs, i, l, l', hcontracts, hinterface, hout, fun hopens => ?_⟩
  obtain ⟨rest, hrest⟩ := toList_renderContracts shopSettings cs
  have hspared := ((segment_opens _ hrest).2 (by decide)).2.1 hopens
  -- the prefix of the first default stands in the middle of the namespace
  have htouches : Touches "Refit.".toList "namespace Shop.Refit.Client\n".toList :=
    ⟨"Refit.Client\n".toList, by decide, by decide, .inl (by decide)⟩
  exact hspared "Refit" List.mem_cons_self htouches

end Generate

end OpenApiClient
