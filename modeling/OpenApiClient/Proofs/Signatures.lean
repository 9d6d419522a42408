/-
What a method takes.

A method has a parameter for every one of its operation that is sent in the path, the query or,
if headers are wanted, a header; and what is read off such a parameter, from its attributes and
its name, is where it is sent and under which name (`sent`).  Whether that is right can be said
without the names that have been chosen on the way: for the parameters of a method, `sent` gives
the locations and names of the parameters of the operation, in the order of the document within
each location, those that may be left out after all others (`signature_faithful`).

The names come from three steps that know nothing of each other.  The name in the code is respelled
and numbered, an attribute is added if it is not the name on the wire any more, and a reserved word
gets a sign.  The attribute is decided on before the sign is there, so the sign must not count when
the name is read back (`sent_of_paramFor`).  The rest is about the order.

The thing to check is that `sent` looks at the parameter of the method alone.  It takes the text
between the quotation marks of an attribute as it stands there, and not as the language reads it;
the two are the same for a name without marks, backslashes and ends of lines
(`readLiteral_plain_iff`).
-/
import OpenApiClient.Proofs.DistinctNames
import OpenApiClient.Proofs.WireTexts

set_option autoImplicit false

namespace OpenApiClient

/-- The parameters of an operation at a location, in the order of the document. -/
def Operation.parametersAt (o : Operation) (location : String) : List Parameter :=
  o.parameters.filter (·.location == location)

namespace Generate

open CSharp
open Schema

/-! ## Reading a parameter -/

/-- A text without the quotation marks around it. -/
def unquoted (s : String) : String := .ofList (s.toList.drop 1).dropLast

/-- The first argument of an attribute of a parameter with one of some names. -/
def argumentOf? (names : List String) (p : MethodParam) : Option String :=
  (p.attributes.find? (names.contains ·.name)).bind (·.arguments.head?)

/-- Where a parameter of a method is sent: an attribute says that it is a header or stands in the
query, and otherwise it stands in the path. -/
def sentAt (p : MethodParam) : String :=
  if p.attributes.any (·.name == "Header") then "header"
  else if p.attributes.any (·.name == "Query") then "query"
  else "path"

/-- The name under which a parameter of a method is sent: the one that an attribute says, or else
its own one, without the sign. -/
def sentAs (p : MethodParam) : String :=
  match argumentOf? ["Header", "AliasAs"] p with
  | some literal => unquoted literal
  | none => withoutSign p.name

theorem unquoted_plainLiteral (s : String) : unquoted (plainLiteral s) = s := by
  have hquote : "\"".toList = ['"'] := rfl
  unfold unquoted plainLiteral
  rw [String.toList_append, String.toList_append, hquote, List.cons_append, List.nil_append,
    List.cons_append, List.drop_one, List.tail_cons, List.dropLast_concat, String.ofList_toList]

variable {x : Context}

/-! ## What is read of one parameter -/

/-- The location that a channel is for. -/
def Channel.location : Channel → String
  | .path => "path"
  | .query => "query"
  | .header => "header"

theorem ofName?_eq_some_iff {location : String} {channel : Channel} :
    Channel.ofName? location = some channel ↔ location = channel.location := by
  constructor
  · intro h
    unfold Channel.ofName? at h
    split at h
    · cases h
      rfl
    · cases h
      rfl
    · cases h
      rfl
    · cases h
  · rintro rfl
    cases channel <;> rfl

section Reading

variable {name : String} {p : Parameter} {m : MethodParam}

/-- A parameter that has its own name says no other, and one that has another says its own. -/
theorem sentAs_of_alias {attributes : List Attribute}
    (hattributes : m.attributes = attributes
      ++ if name ≠ p.name then [⟨"AliasAs", [plainLiteral p.name]⟩] else [])
    (hnone : ∀ a ∈ attributes, a.name ∉ ["Header", "AliasAs"])
    (hname : withoutSign m.name = name) : sentAs m = p.name := by
  have hfind : attributes.find? (["Header", "AliasAs"].contains ·.name) = none := by
    apply List.find?_eq_none.2
    intro a ha
    rw [List.contains_iff_mem]
    exact hnone a ha
  unfold sentAs argumentOf?
  rw [hattributes, List.find?_append, hfind, Option.none_or]
  by_cases hsame : name = p.name
  · rw [if_neg (not_not.2 hsame), List.find?_nil, Option.bind_none]
    exact hname.trans hsame
  · rw [if_pos hsame]
    exact unquoted_plainLiteral p.name

/-- What is written for a parameter under a name says where it is sent, and as what. -/
theorem sent_of_paramFor {channel : Channel} (hname : Naming.IsSpelled name.toList)
    (h : ParamFor x (name, channel, p) m) :
    sentAt m = channel.location ∧ sentAs m = p.name := by
  -- the name that the attributes have been chosen for is the one without the sign
  have hsign : withoutSign m.name = name := by
    rw [h.name]
    exact withoutSign_escapeKeyword hname
  have hattributes := h.attributes
  dsimp only at hattributes
  unfold sentAt
  cases channel with
  | path =>
    have halias : m.attributes = []
        ++ if name ≠ p.name then [⟨"AliasAs", [plainLiteral p.name]⟩] else [] := by
      simpa [channelAttributes, aliasAttributes] using hattributes
    refine ⟨?_, sentAs_of_alias halias (by simp) hsign⟩
    rw [halias]
    by_cases hsame : name = p.name <;> simp [hsame, Channel.location]
  | query =>
    obtain ⟨arguments, hquery⟩ : ∃ arguments, channelAttributes x .query p
        = [⟨"Query", arguments⟩] := by
      dsimp only [channelAttributes]
      split
      · exact ⟨_, rfl⟩
      · exact ⟨_, rfl⟩
    have halias : m.attributes = [⟨"Query", arguments⟩]
        ++ if name ≠ p.name then [⟨"AliasAs", [plainLiteral p.name]⟩] else [] := by
      simpa [hquery, aliasAttributes] using hattributes
    refine ⟨?_, sentAs_of_alias halias (by simp) hsign⟩
    rw [halias]
    by_cases hsame : name = p.name <;> simp [hsame, Channel.location]
  | header =>
    have hheader : m.attributes = [⟨"Header", [plainLiteral p.name]⟩] := by
      simpa [channelAttributes, aliasAttributes] using hattributes
    constructor
    · rw [hheader]
      rfl
    · unfold sentAs argumentOf?
      rw [hheader]
      exact unquoted_plainLiteral p.name

end Reading

/-! ## The parameters of an operation -/

/-- Whether a parameter of an operation is sent: cookies are not, and headers only if they are
wanted. -/
def isSent (x : Context) (p : Parameter) : Bool :=
  p.location == "path" || p.location == "query"
    || x.settings.generateOperationHeaders && p.location == "header"

/-- The parameters that are sent, in the order of their locations, and within each in that of the
document. -/
def sentParameters (x : Context) (o : Operation) : List Parameter :=
  o.parametersAt "path" ++ o.parametersAt "query"
    ++ if x.settings.generateOperationHeaders then o.parametersAt "header" else []

theorem parametersOf_eq (o : Operation) (channel : Channel) :
    parametersOf o channel = o.parametersAt channel.location := by
  unfold parametersOf Operation.parametersAt
  refine List.filter_congr fun p _ => ?_
  rw [Bool.eq_iff_iff, beq_iff_eq, beq_iff_eq]
  exact ofName?_eq_some_iff

theorem orderedParameters_eq (x : Context) (o : Operation) :
    orderedParameters x o = (o.parametersAt "path").map (.path, ·)
      ++ (o.parametersAt "query").map (.query, ·)
      ++ (if x.settings.generateOperationHeaders then o.parametersAt "header" else []).map
        (.header, ·) := by
  unfold orderedParameters
  rw [parametersOf_eq, parametersOf_eq, parametersOf_eq]
  rfl

theorem location_of_mem_parametersAt {o : Operation} {location : String} {p : Parameter}
    (h : p ∈ o.parametersAt location) : p.location = location := by
  simpa using (List.mem_filter.1 h).2

/-- Every parameter that is sent has the channel of its location. -/
theorem location_of_mem_orderedParameters {o : Operation} {e : Channel × Parameter}
    (h : e ∈ orderedParameters x o) : e.1.location = e.2.location := by
  rw [orderedParameters_eq, List.mem_append, List.mem_append] at h
  rcases h with (h | h) | h
  · obtain ⟨p, hp, rfl⟩ := List.mem_map.1 h
    exact (location_of_mem_parametersAt hp).symm
  · obtain ⟨p, hp, rfl⟩ := List.mem_map.1 h
    exact (location_of_mem_parametersAt hp).symm
  · obtain ⟨p, hp, rfl⟩ := List.mem_map.1 h
    split at hp
    · exact (location_of_mem_parametersAt hp).symm
    · cases hp

theorem map_snd_orderedParameters (x : Context) (o : Operation) :
    (orderedParameters x o).map (·.2) = sentParameters x o := by
  rw [orderedParameters_eq, sentParameters, List.map_append, List.map_append, List.map_map,
    List.map_map, List.map_map]
  simp [Function.comp_def]

/-- Two choices from a list that exclude one another are one choice, in another order. -/
theorem filter_append_filter_perm {α : Type} {P Q : α → Bool} (hPQ : ∀ a, P a → ¬ Q a)
    (as : List α) : (as.filter P ++ as.filter Q).Perm (as.filter fun a => P a || Q a) := by
  induction as with
  | nil => exact .nil
  | cons a as ih =>
    by_cases hP : P a
    · simpa [List.filter_cons, hP, hPQ a hP] using ih
    · by_cases hQ : Q a
      · simpa [List.filter_cons, hP, hQ] using List.perm_middle.trans (ih.cons a)
      · simpa [List.filter_cons, hP, hQ] using ih

/-- No parameter that is sent is missing or there twice: they are those of the document, in another
order. -/
theorem sentParameters_perm (x : Context) (o : Operation) :
    (sentParameters x o).Perm (o.parameters.filter (isSent x)) := by
  have hheaders : (if x.settings.generateOperationHeaders then o.parametersAt "header" else [])
      = o.parameters.filter fun p =>
        x.settings.generateOperationHeaders && p.location == "header" := by
    cases x.settings.generateOperationHeaders
    · simp
    · simp [Operation.parametersAt]
  rw [sentParameters, hheaders]
  unfold Operation.parametersAt
  refine List.Perm.trans (List.Perm.append_right _ (filter_append_filter_perm ?_ _)) ?_
  · intro p hpath hquery
    rw [beq_iff_eq] at hpath hquery
    exact absurd (hpath.symm.trans hquery) (by decide)
  · refine filter_append_filter_perm ?_ _
    intro p hbefore hheader
    simp only [Bool.or_eq_true, Bool.and_eq_true, beq_iff_eq] at hbefore hheader
    rcases hbefore with h | h
    · exact absurd (h.symm.trans hheader.2) (by decide)
    · exact absurd (h.symm.trans hheader.2) (by decide)

/-! ## The parameters of a method -/

/-- Whether a parameter has to be given: one in the path always has to. -/
def isNeeded (p : Parameter) : Bool := p.required || p.location == "path"

/-- A parameter of a method is sent where one of an operation says and under its name, and may be
left out if the other one may. -/
structure SentFor (p : Parameter) (m : MethodParam) : Prop where
  location : sentAt m = p.location
  name : sentAs m = p.name
  default : m.default = if isNeeded p then none else some "default"

theorem sentFor_of_paramFor {e : String × Channel × Parameter} {m : MethodParam}
    (hname : Naming.IsSpelled e.1.toList) (hchannel : e.2.1.location = e.2.2.location)
    (h : ParamFor x e m) : SentFor e.2.2 m := by
  obtain ⟨name, channel, p⟩ := e
  obtain ⟨hlocation, hsent⟩ := sent_of_paramFor hname h
  refine ⟨hlocation.trans hchannel, hsent, ?_⟩
  have hdefault := h.default
  dsimp only [mayBeLeftOut, isOptional] at hdefault hchannel
  have hpath : (p.location == "path") = decide (channel = .path) := by
    rw [← hchannel]
    cases channel <;> rfl
  dsimp only
  rw [hdefault, isNeeded, hpath]
  by_cases hrequired : p.required <;> cases channel <;> simp [hrequired]

/-- The parameters of a method are sent for those of its operation, in the order of these. -/
theorem sentFor_methodParams {o : Operation} {rows : List (MethodParam × Option ParamNote)}
    {taken : List String} {l l' : Ledger}
    (h : Returns (methodParams x o.name [] (orderedParameters x o)) l (rows, taken) l') :
    List.Forall₂ SentFor (sentParameters x o) (rows.map (·.1)) := by
  have hfor : List.Forall₂ (ParamFor x) (namedParameters x o) (rows.map (·.1)) :=
    paramFor_methodParams h
  have hknown : ∀ e ∈ namedParameters x o,
      Naming.IsSpelled e.1.toList ∧ e.2.1.location = e.2.2.location := by
    intro e he
    obtain ⟨hname, hordered⟩ := List.of_mem_zip he
    refine ⟨Naming.isSpelled_freshAll [] ?_ e.1 hname, location_of_mem_orderedParameters hordered⟩
    intro wanted hwanted
    obtain ⟨e, -, rfl⟩ := List.mem_map.1 hwanted
    exact (isName_wantedParameter e.2).isSpelled
  -- there is a name for each of them, so that none is lost when they are paired
  have hparameters : (namedParameters x o).map (·.2.2) = sentParameters x o := by
    have hlength := Naming.freshAll_length [] ((orderedParameters x o).map fun e =>
      wantedParameter e.2)
    rw [List.length_map] at hlength
    rw [← map_snd_orderedParameters, ← List.map_snd_zip (Nat.le_of_eq hlength.symm),
      List.map_map]
    rfl
  rw [← hparameters, List.forall₂_map_left_iff]
  refine ((List.forall₂_and_left _ _).2 ⟨hknown, hfor⟩).imp fun e m hem => ?_
  exact sentFor_of_paramFor hem.1.1 hem.1.2 hem.2

/-- Where and as what a parameter of a method is sent. -/
def sent (m : MethodParam) : String × String := (sentAt m, sentAs m)

/-- Choosing parameters on both sides alike keeps them sent for each other. -/
theorem map_sent_filter {P : Parameter → Bool} {Q : MethodParam → Bool} {ps : List Parameter}
    {ms : List MethodParam} (h : List.Forall₂ SentFor ps ms)
    (hPQ : ∀ p m, SentFor p m → P p = Q m) :
    (ms.filter Q).map sent = (ps.filter P).map fun p => (p.location, p.name) := by
  induction h with
  | nil => rfl
  | @cons p m ps ms hpm _ ih =>
    have hsent : sent m = (p.location, p.name) := by
      rw [sent, hpm.location, hpm.name]
    rw [List.filter_cons, List.filter_cons, hPQ p m hpm]
    by_cases hQ : Q m
    · rw [if_pos hQ, if_pos hQ, List.map_cons, List.map_cons, ih, hsent]
    · rw [if_neg hQ, if_neg hQ, ih]

/-- What the parameters of a method are, if they are those that have to be given, the body, those
that may be left out, and the token. -/
structure Takes (x : Context) (o : Operation) (required body optional token : List MethodParam) :
    Prop where
  required_sent : required.map sent
    = ((sentParameters x o).filter isNeeded).map fun p => (p.location, p.name)
  optional_sent : optional.map sent
    = ((sentParameters x o).filter fun p => !isNeeded p).map fun p => (p.location, p.name)
  body_marked : body.map (·.attributes) = o.requestBody.toList.map fun _ => [⟨"Body", []⟩]
  token_typed : token.map (·.type)
    = if x.settings.useCancellationTokens then ["CancellationToken"] else []
  default_of_required : ∀ m ∈ required ++ body, m.default = none
  default_of_optional : ∀ m ∈ optional ++ token, m.default = some "default"

theorem bodyParam_spec {taken : List String} {o : Operation} {body : List MethodParam}
    {l l' : Ledger} (h : Returns (bodyParam x taken o) l body l') :
    body.map (·.attributes) = o.requestBody.toList.map (fun _ => [⟨"Body", []⟩])
      ∧ ∀ m ∈ body, m.default = none := by
  unfold bodyParam at h
  cases hbody : o.requestBody with
  | none =>
    rw [hbody] at h
    obtain ⟨rfl, -⟩ := returns_pure_iff.1 h
    simp
  | some v =>
    rw [hbody] at h
    obtain ⟨type, l₁, -, h⟩ := returns_bind_iff.1 h
    obtain ⟨rfl, -⟩ := returns_pure_iff.1 h
    simp

theorem tokenParam_spec (x : Context) (taken : List String) :
    (tokenParam x taken).map (·.type)
        = (if x.settings.useCancellationTokens then ["CancellationToken"] else [])
      ∧ ∀ m ∈ tokenParam x taken, m.default = some "default" := by
  unfold tokenParam
  by_cases h : x.settings.useCancellationTokens <;> simp [h]

/-- The parameters of a method are those that have to be given, the body, those that may be left
out, and the token, in this order. -/
theorem takes_method {name : String} {o : Operation} {m : MethodSig} {l l' : Ledger}
    (h : Returns (method x name o) l m l') :
    ∃ required body optional token, m.params = required ++ body ++ optional ++ token
      ∧ Takes x o required body optional token := by
  obtain ⟨rows, taken, body, l₁, l₂, l₃, hrows, hbody, -, -, -, hparams⟩ := returns_method h
  have hfor := sentFor_methodParams hrows
  -- what is needed is sent without a default, and what has a default is left
  have hneeded : ∀ p k, SentFor p k → isNeeded p = k.default.isNone := by
    intro p k hpk
    rw [hpk.default]
    cases isNeeded p <;> rfl
  have hleft : ∀ p k, SentFor p k → (!isNeeded p) = k.default.isSome := by
    intro p k hpk
    rw [hneeded p k hpk, Option.not_isNone]
  obtain ⟨hmarked, hnone⟩ := bodyParam_spec hbody
  obtain ⟨htyped, hdefault⟩ := tokenParam_spec x (taken ++ body.map (·.name))
  refine ⟨_, _, _, _, hparams, map_sent_filter hfor hneeded, map_sent_filter hfor hleft, hmarked,
    htyped, ?_, ?_⟩
  · intro k hk
    rcases List.mem_append.1 hk with hk | hk
    · simpa using (List.mem_filter.1 hk).2
    · exact hnone k hk
  · intro k hk
    rcases List.mem_append.1 hk with hk | hk
    · obtain ⟨hmem, hsome⟩ := List.mem_filter.1 hk
      obtain ⟨p, -, hpk⟩ := exists_left_of_mem hfor hmem
      have := hpk.default
      cases hp : isNeeded p with
      | true => simp [this, hp] at hsome
      | false => simpa [hp] using this
    · exact hdefault k hk

/-- A method takes what its operation says.  What is read off its parameters is where and under
which names the parameters of the operation are sent, each of them once, but for cookies, and
headers if they are not wanted.  Those that have to be given come before the body, and those that
may be left out behind it and before the token, both in the order of the locations and of the
document; so nothing that has to be given comes behind something that may be left out. -/
theorem signature_faithful {name : String} {o : Operation} {m : MethodSig} {l l' : Ledger}
    (h : Returns (method x name o) l m l') :
    ∃ required body optional token, m.params = required ++ body ++ optional ++ token
      ∧ Takes x o required body optional token
      ∧ ((required ++ optional).map sent).Perm
        ((o.parameters.filter (isSent x)).map fun p => (p.location, p.name))
      ∧ m.params.Pairwise fun p q => p.default.isSome → q.default.isSome := by
  obtain ⟨required, body, optional, token, hparams, htakes⟩ := takes_method h
  refine ⟨required, body, optional, token, hparams, htakes, ?_, ?_⟩
  · rw [List.map_append, htakes.required_sent, htakes.optional_sent, ← List.map_append]
    have hperm := List.filter_append_perm isNeeded (sentParameters x o)
    exact (hperm.trans (sentParameters_perm x o)).map _
  · rw [hparams, List.append_assoc]
    -- nothing up to the body has a default, and everything behind it has one
    apply List.pairwise_append.2
    refine ⟨?_, ?_, ?_⟩
    · apply List.pairwise_of_forall_mem_list
      intro p hp q _ hsome
      simp [htakes.default_of_required p hp] at hsome
    · apply List.pairwise_of_forall_mem_list
      intro p _ q hq _
      simp [htakes.default_of_optional q hq]
    · intro p _ q hq _
      simp [htakes.default_of_optional q hq]

/-- An operation with parameters at all locations.  Names clash, also with the name of the body, and
one is a reserved word. -/
def crowdedOperation : Operation where
  verb := .post
  path := "/nodes/{Class}"
  parameters := [
    { name := "body", location := "query", schema := .object 1 [] },
    { name := "X-Trace", location := "header", schema := .object 2 [] },
    { name := "class", location := "query", required := true, schema := .object 3 [] },
    { name := "session", location := "cookie", required := true, schema := .object 4 [] },
    { name := "Class", location := "path", schema := .object 5 [] }]
  requestBody := some (.object 6 [])

theorem signature_faithful_crowded :
    let x := Context.of crowdedSettings crowdedDocument
    ∃ m l, Returns (method x "Find" crowdedOperation) {} m l
      ∧ m.params.map (·.name)
        = ["@class", "class2", "body2", "body", "xTrace", "cancellationToken"]
      ∧ ∃ required body optional token, m.params = required ++ body ++ optional ++ token
        ∧ required.map sent = [("path", "Class"), ("query", "class")]
        ∧ optional.map sent = [("query", "body"), ("header", "X-Trace")] := by
  intro x
  have hrun : ((method x "Find" crowdedOperation).run.run {}).1.toOption.map
      (fun m => m.params.map (·.name))
        = some ["@class", "class2", "body2", "body", "xTrace", "cancellationToken"] := by
    decide +kernel
  obtain ⟨m, l, h, hnames⟩ := exists_returns_of_map hrun
  obtain ⟨required, body, optional, token, hparams, htakes, -, -⟩ := signature_faithful h
  exact ⟨m, l, h, hnames, required, body, optional, token, hparams, htakes.required_sent,
    htakes.optional_sent⟩

end Generate

end OpenApiClient
