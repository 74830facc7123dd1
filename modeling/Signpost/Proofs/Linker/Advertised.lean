import Mathlib
import Signpost.Affordance
import Signpost.Proofs.Linker.Query
import Signpost.Proofs.Linker.Residue

/-!
# What is advertised of a query

A link advertises the query parameters of its method: which of them a client has to give, and what
stands in for one that is missing. Binding a call that gives none of them sorts the same parameters
in its own way: into expressions that a client fills in, defaults and variables behind the link. This
file compares the two, parameter by parameter.

## Main definitions

* `QueryPair.name`, `QueryPair.right`: the two sides of a pair.
* `Parameter.absentPair?`: the pair that a parameter without an argument gives.
* `QueryParameter.remaining?`: the variable that a parameter leaves behind the link.

## Main results

* `QueryPair.append_eq_render_iff`: a pair is told by its two sides.
* `Linker.forall₂_advertised_linkLast`: what is advertised and what becomes of it.
-/

namespace Signpost

/-! ### The sides of a pair -/

namespace QueryPair

/-- The name of a pair. -/
def name : QueryPair → Text
  | value name _ | joined name _ | placeholder name => name

/-- What stands behind the equality sign of a pair. -/
def right : QueryPair → Text
  | value _ text => Percent.encode text
  | joined _ values => Text.join [','] (values.map Percent.encode)
  | placeholder name => '{' :: name ++ ['}']

theorem render_eq (pair : QueryPair) :
    pair.render = Percent.encode pair.name ++ '=' :: pair.right := by
  cases pair with
  | value name text => rfl
  | joined name values => rfl
  | placeholder name =>
    rw [render, right, List.append_assoc]
    rfl

/-- A pair is told by its two sides, as no encoded name holds an equality sign. -/
theorem append_eq_render_iff {pair : QueryPair} {name right : Text} :
    Percent.encode name ++ '=' :: right = pair.render ↔ name = pair.name ∧ right = pair.right := by
  rw [render_eq]
  constructor
  · intro h
    have hequals (text : Text) : '=' ∉ Percent.encode text := Percent.notMem_encode (by decide) text
    have hsides := congrArg (Text.splitOnce? '=') h
    rw [Text.splitOnce?_append (hequals name), Text.splitOnce?_append (hequals pair.name),
      Option.some_inj, Prod.mk.injEq] at hsides
    exact ⟨Percent.encode_injective hsides.1, hsides.2⟩
  · rintro ⟨rfl, rfl⟩
    rfl

theorem expression_ne_encode (name text : Text) : '{' :: name ++ ['}'] ≠ Percent.encode text := by
  intro h
  have hopen : '{' ∈ Percent.encode text := h ▸ List.mem_cons_self
  exact Percent.notMem_encode (by decide) text hopen

end QueryPair

/-! ### Parameters without an argument -/

namespace Parameter

variable {parameter : Parameter} {parameters : List Parameter} {name : Text}

/-- The pair that a query parameter gives without an argument; none if it may be left out. -/
def absentPair? (parameter : Parameter) : Option QueryPair :=
  if parameter.isRequired then
    parameter.queryName?.map fun name =>
      match parameter.default with
      | some default => .value name default
      | none => .placeholder name
  else none

theorem queryName?_of_absentPair? {pair : QueryPair} (h : parameter.absentPair? = some pair) :
    parameter.queryName? = some pair.name := by
  rw [absentPair?] at h
  split at h
  · obtain ⟨name, hname, rfl⟩ := Option.map_eq_some_iff.mp h
    rw [hname]
    cases parameter.default <;> rfl
  · exact absurd h (by simp)

theorem eq_of_queryName?_eq (hnodup : (parameters.filterMap queryName?).Nodup)
    {other : Parameter} (hmem : parameter ∈ parameters) (hother : other ∈ parameters)
    (hname : parameter.queryName? = some name) (hname' : other.queryName? = some name) :
    parameter = other := by
  by_contra hne
  rw [List.Nodup, List.pairwise_filterMap] at hnodup
  have hsymm : Std.Symm fun a b : Parameter => ∀ name, a.queryName? = some name →
      ∀ name', b.queryName? = some name' → name ≠ name' :=
    ⟨fun _ _ h name hname name' hname' => (h name' hname' name hname).symm⟩
  exact hnodup.forall hmem hother hne name hname name hname' rfl

/-- Among parameters with different names, one has the pair of its name to itself. -/
theorem mem_map_render_iff (hnodup : (parameters.filterMap queryName?).Nodup)
    (hmem : parameter ∈ parameters) (hname : parameter.queryName? = some name) {right : Text} :
    Percent.encode name ++ '=' :: right ∈ (parameters.filterMap absentPair?).map QueryPair.render ↔
      ∃ pair, parameter.absentPair? = some pair ∧ right = pair.right := by
  simp only [List.mem_map, List.mem_filterMap]
  constructor
  · rintro ⟨pair, ⟨other, hother, hpair⟩, hrender⟩
    obtain ⟨rfl, rfl⟩ := QueryPair.append_eq_render_iff.mp hrender.symm
    obtain rfl := eq_of_queryName?_eq hnodup hmem hother hname (queryName?_of_absentPair? hpair)
    exact ⟨pair, hpair, rfl⟩
  · rintro ⟨pair, hpair, rfl⟩
    have hsame : name = pair.name :=
      Option.some_inj.mp (hname.symm.trans (queryName?_of_absentPair? hpair))
    exact ⟨pair, ⟨parameter, hmem, hpair⟩, (QueryPair.append_eq_render_iff.mpr ⟨hsame, rfl⟩).symm⟩

/-- A parameter without an argument gives an expression if it is required and has no default. -/
theorem expression_mem_iff (hnodup : (parameters.filterMap queryName?).Nodup)
    (hmem : parameter ∈ parameters) (hname : parameter.queryName? = some name) :
    Percent.encode name ++ '=' :: ('{' :: name ++ ['}']) ∈
        (parameters.filterMap absentPair?).map QueryPair.render ↔
      parameter.isRequired = true ∧ parameter.default = none := by
  rw [mem_map_render_iff hnodup hmem hname, absentPair?, hname]
  cases parameter.isRequired with
  | false => simp
  | true =>
    cases parameter.default with
    | none => simp [QueryPair.right]
    | some default => simpa [QueryPair.right] using QueryPair.expression_ne_encode name default

/-- A parameter without an argument gives its default if it is required and has one. -/
theorem default_mem_iff (hnodup : (parameters.filterMap queryName?).Nodup)
    (hmem : parameter ∈ parameters) (hname : parameter.queryName? = some name) (text : Text) :
    Percent.encode name ++ '=' :: Percent.encode text ∈
        (parameters.filterMap absentPair?).map QueryPair.render ↔
      parameter.isRequired = true ∧ parameter.default = some text := by
  rw [mem_map_render_iff hnodup hmem hname, absentPair?, hname]
  cases parameter.isRequired with
  | false => simp
  | true =>
    cases parameter.default with
    | none => simpa [QueryPair.right] using (QueryPair.expression_ne_encode name text).symm
    | some default => simp [QueryPair.right, Percent.encode_injective.eq_iff, eq_comm]

/-- What is advertised of a query parameter. -/
theorem ofParameter?_eq_some (hname : parameter.queryName? = some name) :
    QueryParameter.ofParameter? parameter = some
      { name
        value := parameter.default
        required := parameter.isRequired && parameter.default.isNone } := by
  rw [queryName?] at hname
  split at hname
  · rename_i hrole
    rw [QueryParameter.ofParameter?, if_pos hrole, hname, Option.map_some]
  · exact absurd hname (by simp)

end Parameter

namespace QueryParameter

variable {parameters : List Parameter}

/-- The name of an advertised parameter that is neither required nor stands for a default that a
link to a call fills in. -/
def remaining? (parameter : Parameter) (shown : QueryParameter) : Option Text :=
  if shown.required || (shown.value.isSome && parameter.isRequired) then none else some shown.name

/-- Named query parameters are all advertised, in their order. -/
theorem forall₂_ofParameter?
    (hnamed : ∀ parameter ∈ parameters, parameter.role = .query →
      ∃ name, parameter.queryName? = some name) :
    List.Forall₂ (fun parameter shown => ofParameter? parameter = some shown)
      (parameters.filter (·.role = .query)) (parameters.filterMap ofParameter?) := by
  induction parameters with
  | nil => exact .nil
  | cons parameter parameters ih =>
    obtain ⟨hfirst, hlater⟩ := List.forall_mem_cons.mp hnamed
    by_cases hrole : parameter.role = .query
    · obtain ⟨name, hname⟩ := hfirst hrole
      have hshown := Parameter.ofParameter?_eq_some hname
      rw [List.filter_cons_of_pos (by simpa using hrole), List.filterMap_cons, hshown]
      exact .cons hshown (ih hlater)
    · have hnone : ofParameter? parameter = none := if_neg hrole
      rw [List.filter_cons_of_neg (by simpa using hrole), List.filterMap_cons, hnone]
      exact ih hlater

theorem remaining?_of_ofParameter? {parameter : Parameter} {shown : QueryParameter}
    (h : ofParameter? parameter = some shown) :
    remaining? parameter shown = if parameter.isRequired then none else parameter.queryName? := by
  rw [ofParameter?] at h
  split at h
  · rename_i hrole
    obtain ⟨name, hname, rfl⟩ := Option.map_eq_some_iff.mp h
    rw [remaining?, Parameter.queryName?, if_pos hrole, hname]
    cases parameter.isRequired <;> cases parameter.default <;> rfl
  · exact absurd h (by simp)

/-- The parameters that remain of those advertised are those that may be left out. -/
theorem filterMap_zip_remaining? {declared : List Parameter} {advertised : List QueryParameter}
    (h : List.Forall₂ (fun parameter shown => ofParameter? parameter = some shown)
      declared advertised) :
    ((declared.zip advertised).filterMap fun pair => remaining? pair.1 pair.2) =
      declared.filterMap fun parameter =>
        if parameter.isRequired then none else parameter.queryName? := by
  induction h with
  | nil => rfl
  | cons hshown _ ih =>
    rw [List.zip_cons_cons, List.filterMap_cons, List.filterMap_cons, ih,
      remaining?_of_ofParameter? hshown]

end QueryParameter

namespace Given

variable {formatters : Formatters} {given : Given}

/-- Without an argument, the pair of a parameter does not depend on the formatters. -/
theorem pairs_of_absent (h : given.IsBindable formatters)
    (habsent : given.1.role = .query → given.2 = .absent) :
    given.pairs formatters = given.1.absentPair?.toList := by
  rw [pairs, Parameter.absentPair?, Parameter.queryName?]
  by_cases hrole : given.1.role = .query
  · obtain ⟨name, pairs?, hname, hpairs⟩ := h.query hrole
    rw [habsent hrole, QueryPair.ofArgument] at hpairs
    simp only [habsent hrole, if_pos hrole, hname, QueryPair.ofArgument, hpairs, Option.map_some]
    cases pairs? with
    | none => rw [QueryPair.ofAbsent_eq_ok_none_iff.mp hpairs, if_neg Bool.false_ne_true]; rfl
    | some pairs =>
      obtain ⟨hrequired, ⟨default, hdefault, rfl⟩ | ⟨hdefault, -, rfl⟩⟩ :=
        QueryPair.ofAbsent_eq_ok_some_iff.mp hpairs
      · rw [hrequired, if_pos rfl, hdefault]
        rfl
      · rw [hrequired, if_pos rfl, hdefault]
        rfl
  · simp [if_neg hrole]

/-- Without an argument, a parameter is left out if it may be. -/
theorem leftOut?_of_absent (habsent : given.1.role = .query → given.2 = .absent) :
    given.leftOut? = if given.1.isRequired then none else given.1.queryName? := by
  by_cases hrole : given.1.role = .query
  · rw [leftOut?, habsent hrole]
  · have hnone : given.1.queryName? = none := if_neg hrole
    cases hargument : given.2 <;> simp [leftOut?, hargument, hnone]

end Given

namespace Linker

variable {linker : Linker} {surroundings : Surroundings} {recording : Recording}
  {draft : LinkDraft} {call : Call} {method : Method} {raw : Text}

/-! ### A call without query arguments -/

/-- The query and the variables of a link to a call that gives no query arguments. -/
theorem query_linkLast_of_absent (hnew : linker.IsNew) (hbase : linker.base.IsRead)
    {history : List (Surroundings × Request)}
    (h : ((linker.after history).linkLast surroundings recording).1 = .ok draft)
    (hcall : recording.last = some call) (hmethod : calledMethod surroundings call = .ok method)
    (hraw : (MappingSource.answer surroundings (.ofCall call.target method)
      (linker.after history).source).1 = some raw)
    (hquery : '?' ∉ raw)
    (habsent : ∀ given ∈ method.parameters.zip call.arguments, given.1.role = .query →
      given.2 = .absent) :
    queryParts draft.uri = (method.parameters.filterMap Parameter.absentPair?).map
        QueryPair.render ∧
      draft.vars.map (·.name) = method.parameters.filterMap fun parameter =>
        if parameter.isRequired then none else parameter.queryName? := by
  obtain ⟨htarget, -⟩ := (hnew.isSound.after history).exists_target h hcall hmethod hraw
  rw [after_base, after_formatters] at htarget
  obtain ⟨hbindable, hhref, -⟩ := Target.ofCall_eq_ok_iff.mp htarget
  change draft.uri = _ at hhref
  obtain ⟨-, hvars⟩ := parse_uri_linkLast h hcall hmethod
  -- both lists are told from the parameters alone
  have hfirst : (method.parameters.zip call.arguments).map Prod.fst = method.parameters :=
    List.map_fst_zip (length_arguments_of_calledMethod hmethod).ge
  constructor
  · have hpairs : (method.parameters.zip call.arguments).flatMap
        (Given.pairs linker.formatters) = method.parameters.filterMap Parameter.absentPair? := by
      conv_rhs => rw [← hfirst, List.filterMap_map, List.filterMap_eq_flatMap_toList]
      exact List.flatMap_congr fun given hgiven =>
        Given.pairs_of_absent (hbindable given hgiven) (habsent given hgiven)
    rw [hhref, Target.hrefOf, QueryPair.queryParts_resolve_attach
      (hbase.notMem_display (.inl rfl)) (Given.notMem_pathOf (.inl rfl) hquery _ _ _)
      fun pair => Given.wellFormed_of_mem_flatMap_pairs, hpairs]
  · rw [hvars, Target.map_name_optionalVariables]
    conv_rhs => rw [← hfirst, List.filterMap_map]
    exact List.filterMap_congr fun given hgiven => Given.leftOut?_of_absent (habsent given hgiven)

/-- The query parameters of a call that is linked to are named. -/
theorem exists_queryName?_of_linkLast
    (h : (linker.linkLast surroundings recording).1 = .ok draft)
    (hcall : recording.last = some call) (hmethod : calledMethod surroundings call = .ok method)
    {parameter : Parameter} (hmem : parameter ∈ method.parameters)
    (hrole : parameter.role = .query) : ∃ name, parameter.queryName? = some name := by
  obtain ⟨call', method', mapping, target, link, hcall', hmethod', -, htarget, -⟩ :=
    linkLast_eq_ok_iff.mp h
  obtain rfl := Option.some_inj.mp (hcall.symm.trans hcall')
  obtain rfl := Except.ok.inj (hmethod.symm.trans hmethod')
  have hfirst : (method.parameters.zip call.arguments).map Prod.fst = method.parameters :=
    List.map_fst_zip (length_arguments_of_calledMethod hmethod).ge
  rw [← hfirst] at hmem
  obtain ⟨given, hgiven, rfl⟩ := List.mem_map.mp hmem
  obtain ⟨name, -, hname, -⟩ := ((Target.ofCall_eq_ok_iff.mp htarget).1 given hgiven).query hrole
  exact ⟨name, by rw [Parameter.queryName?, if_pos hrole, hname]⟩

/-- **What is advertised of a query is what becomes of it.** Take any linker over a base that was
read, with any memories it has gathered, and any call without query arguments that it links to by a
mapping without a question mark. If the query parameters of the method have different names, then
they are advertised one by one and in their order. One is advertised as required if and only if the
query of the link leaves it to the client as an expression; it is advertised as optional with a
value, although it is declared as required, if and only if the query has this value for it; and the
names of all others are, in order, those of the variables behind the link. -/
theorem forall₂_advertised_linkLast (hnew : linker.IsNew) (hbase : linker.base.IsRead)
    {history : List (Surroundings × Request)}
    (h : ((linker.after history).linkLast surroundings recording).1 = .ok draft)
    (hcall : recording.last = some call) (hmethod : calledMethod surroundings call = .ok method)
    (hraw : (MappingSource.answer surroundings (.ofCall call.target method)
      (linker.after history).source).1 = some raw)
    (hquery : '?' ∉ raw)
    (hnames : (method.parameters.filterMap Parameter.queryName?).Nodup)
    (habsent : ∀ given ∈ method.parameters.zip call.arguments, given.1.role = .query →
      given.2 = .absent) :
    let declared := method.parameters.filter (·.role = .query)
    let advertised := QueryParameter.ofMethod method
    List.Forall₂ (fun parameter shown =>
        parameter.name? = some shown.name ∧
          (shown.required = true ↔
            Percent.encode shown.name ++ '=' :: ('{' :: shown.name ++ ['}']) ∈
              queryParts draft.uri) ∧
          ∀ text, (shown.required = false ∧ shown.value = some text ∧
              parameter.isRequired = true) ↔
            Percent.encode shown.name ++ '=' :: Percent.encode text ∈ queryParts draft.uri)
        declared advertised ∧
      draft.vars.map (·.name) =
        (declared.zip advertised).filterMap fun pair =>
          QueryParameter.remaining? pair.1 pair.2 := by
  intro declared advertised
  obtain ⟨hparts, hvars⟩ :=
    query_linkLast_of_absent hnew hbase h hcall hmethod hraw hquery habsent
  have hshown : List.Forall₂ (fun parameter shown =>
      QueryParameter.ofParameter? parameter = some shown) declared advertised :=
    QueryParameter.forall₂_ofParameter? fun parameter hmem hrole =>
      exists_queryName?_of_linkLast h hcall hmethod hmem hrole
  constructor
  · have hmem : ∀ parameter ∈ declared, parameter ∈ method.parameters ∧ parameter.role = .query :=
      fun parameter hparameter => by simpa using List.mem_filter.mp hparameter
    refine ((List.forall₂_and_left declared advertised).mpr ⟨hmem, hshown⟩).imp ?_
    rintro parameter shown ⟨⟨hparameter, hrole⟩, hsome⟩
    obtain ⟨name, hname⟩ := exists_queryName?_of_linkLast h hcall hmethod hparameter hrole
    obtain rfl := Option.some_inj.mp (hsome.symm.trans (Parameter.ofParameter?_eq_some hname))
    rw [hparts]
    refine ⟨?_, ?_, fun text => ?_⟩
    · rwa [Parameter.queryName?, if_pos hrole] at hname
    · rw [Parameter.expression_mem_iff hnames hparameter hname]
      simp
    · rw [Parameter.default_mem_iff hnames hparameter hname]
      cases parameter.default <;> simp [and_comm]
  · have hdeclared : (method.parameters.filterMap fun parameter =>
        if parameter.isRequired then none else parameter.queryName?) =
        declared.filterMap fun parameter =>
          if parameter.isRequired then none else parameter.queryName? := by
      rw [List.filterMap_filter]
      refine List.filterMap_congr fun parameter _ => ?_
      by_cases hrole : parameter.role = .query
      · simp [hrole]
      · simp [hrole, Parameter.queryName?]
    rw [hvars, hdeclared]
    exact (QueryParameter.filterMap_zip_remaining? hshown).symm

/-- A method with query parameters of every sort. -/
def reportMethod : Method :=
  { name := "report".toList
    mapping := some "/report".toList
    parameters := [{ role := .query, bound := some "of".toList },
      { role := .query, bound := some "page".toList, demanded := false },
      { role := .query, bound := some "size".toList, default := some "2 0".toList },
      { role := .query, bound := some "sort".toList, nullable := true,
        default := some "name".toList }] }

/-- The handler of the method. -/
def reportHandler : Handler :=
  { type := "Report".toList, methods := [reportMethod] }

/-- A call of the method without any argument. -/
def reportCall : Call :=
  ⟨reportHandler, reportHandler, "report".toList, [.absent, .absent, .absent, .absent]⟩

/-- What the call is linked to. -/
def reportDraft : LinkDraft :=
  { uri := "/report?of={of}&size=2%200".toList
    vars := [⟨"page".toList, .queryContinued, false⟩, ⟨"sort".toList, .queryContinued, false⟩]
    affordances := Affordance.ofMethod reportMethod
      { href := "/report?of={of}&size=2%200".toList
        vars := [⟨"of".toList, .path, false⟩, ⟨"page".toList, .queryContinued, false⟩,
          ⟨"sort".toList, .queryContinued, false⟩] } }

/-- The first parameter is left to the client, the third one filled in, and the others remain. -/
theorem forall₂_advertised_linkLast_report :
    (({} : Linker).linkLast { handlers := ⟨[reportHandler]⟩ }
        ⟨reportHandler, [], some reportCall⟩).1 = .ok reportDraft ∧
      QueryParameter.ofMethod reportMethod = [⟨"of".toList, none, true⟩,
        ⟨"page".toList, none, false⟩, ⟨"size".toList, some "2 0".toList, false⟩,
        ⟨"sort".toList, some "name".toList, false⟩] ∧
      "of={of}".toList ∈ queryParts reportDraft.uri ∧
      "size=2%200".toList ∈ queryParts reportDraft.uri ∧
      reportDraft.vars.map (·.name) = ["page".toList, "sort".toList] := by
  have hdraft : (({} : Linker).linkLast { handlers := ⟨[reportHandler]⟩ }
      ⟨reportHandler, [], some reportCall⟩).1 = .ok reportDraft := by
    cbv
  have hmethod : calledMethod { handlers := ⟨[reportHandler]⟩ } reportCall = .ok reportMethod := by
    cbv
  have hraw : (MappingSource.answer { handlers := ⟨[reportHandler]⟩ }
      (.ofCall reportHandler reportMethod) (({} : Linker).after []).source).1 =
        some "/report".toList := by
    cbv
  have hnew : ({} : Linker).IsNew := ⟨rfl, rfl⟩
  have hstart : ((({} : Linker).after []).linkLast { handlers := ⟨[reportHandler]⟩ }
      ⟨reportHandler, [], some reportCall⟩).1 = .ok reportDraft := hdraft
  have hadvertised : QueryParameter.ofMethod reportMethod = [⟨"of".toList, none, true⟩,
      ⟨"page".toList, none, false⟩, ⟨"size".toList, some "2 0".toList, false⟩,
      ⟨"sort".toList, some "name".toList, false⟩] := by
    decide
  have hdeclared : reportMethod.parameters.filter (·.role = .query) =
      reportMethod.parameters := by
    decide
  obtain ⟨hall, hvars⟩ := forall₂_advertised_linkLast hnew (.inl rfl) hstart rfl hmethod hraw
    (by decide) (by decide) (by decide)
  rw [hadvertised, hdeclared] at hall hvars
  obtain ⟨⟨-, hof, -⟩, hothers⟩ := List.forall₂_cons.mp hall
  obtain ⟨-, hlater⟩ := List.forall₂_cons.mp hothers
  obtain ⟨⟨-, -, hsize⟩, -⟩ := List.forall₂_cons.mp hlater
  exact ⟨hdraft, hadvertised, hof.mp rfl, (hsize "2 0".toList).mp ⟨rfl, rfl, rfl⟩,
    hvars.trans (by decide)⟩

end Linker

end Signpost
