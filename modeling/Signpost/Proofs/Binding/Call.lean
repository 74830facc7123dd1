import Signpost.Binding.Call
import Signpost.Proofs.Binding.Path
import Signpost.Proofs.Binding.Query

/-!
# What the arguments of a call come to

The arguments of a call are bound one after the other, but none depends on what the others have
added: an argument changes the binding of its own variable, adds its own pairs or leaves its own
name behind. Hence the arguments of a call are bound exactly if each of them can be, and the result
is told argument by argument.

## Main definitions

* `Given`: a parameter together with its argument.
* `Given.IsBindable`, `Given.pairs`, `Given.omitted`, `Given.bindPath`: whether an argument can be
  bound, and what it adds.
* `Given.parts`, `Given.carried`: what the pairs of an argument look like, and what they say.
* `Given.pathOf`: the path that arguments make of a mapping.

## Main results

* `CallBinding.bindFrom_eq_ok_iff`: binding arguments in a row.
* `Target.ofCall_eq_ok_iff`: the target of a call.
* `Given.map_reading_pairs`: the pairs of an argument read as what it carries into the query.
-/

namespace Signpost

/-- A parameter and the argument given for it. -/
abbrev Given := Parameter × Argument

/-! ### One argument -/

/-- The name of the variable, if the parameter is one of the path. -/
def Parameter.pathName? (parameter : Parameter) : Option Text :=
  if parameter.role = .path then parameter.name? else none

/-- The name of the variable, if the parameter is one of the query. -/
def Parameter.queryName? (parameter : Parameter) : Option Text :=
  if parameter.role = .query then parameter.name? else none

namespace Given

/-- The parameter has a name if it needs one, and its argument gives pairs or may be left out. -/
structure IsBindable (formatters : Formatters) (given : Given) : Prop where
  path : given.1.role = .path → ∃ name, given.1.name? = some name
  query : given.1.role = .query → ∃ name pairs?, given.1.name? = some name ∧
    QueryPair.ofArgument formatters given.1 name given.2 = .ok pairs?

/-- The pairs that an argument adds. -/
def pairs (formatters : Formatters) (given : Given) : List QueryPair :=
  match given.1.queryName? with
  | some name =>
    match QueryPair.ofArgument formatters given.1 name given.2 with
    | .ok (some pairs) => pairs
    | _ => []
  | none => []

/-- The parts of the query that an argument gives. -/
def parts (formatters : Formatters) (given : Given) : List Text :=
  (given.pairs formatters).map QueryPair.render

/-- The name of an optional query parameter that is left out. -/
def omitted (formatters : Formatters) (given : Given) : List Text :=
  match given.1.queryName? with
  | some name =>
    match QueryPair.ofArgument formatters given.1 name given.2 with
    | .ok none => [name]
    | _ => []
  | none => []

/-- The bindings of the path after an argument. -/
def bindPath (formatters : Formatters) (mapping : Mapping) (values : PathBinding) (given : Given) :
    PathBinding :=
  match given.1.pathName? with
  | some name => values.bind formatters mapping name given.2
  | none => values

/-- What an argument carries into the query. -/
def carried (formatters : Formatters) (given : Given) : List (Text × QueryValue) :=
  match given.1.queryName? with
  | some name => given.1.carried formatters name given.2
  | none => []

/-- The path that class-level arguments and those of a call make of a mapping. -/
def pathOf (formatters : Formatters) (mapping : Mapping) (parameters : List Argument)
    (givens : List Given) : Text :=
  PathBinding.expand
    (givens.foldl (bindPath formatters mapping) (.ofParameters formatters mapping parameters))
    mapping

variable {formatters : Formatters} {given : Given}

/-- The pairs of an argument read as what it carries into the query. -/
theorem map_reading_pairs (h : given.IsBindable formatters) :
    (given.pairs formatters).map QueryPair.reading = given.carried formatters := by
  rw [pairs, carried, Parameter.queryName?]
  by_cases hrole : given.1.role = .query
  · obtain ⟨name, pairs?, hname, hpairs⟩ := h.query hrole
    rw [if_pos hrole, hname]
    simp only [hpairs]
    cases pairs? with
    | none => exact (QueryPair.carried_of_ofArgument_none hpairs).symm
    | some pairs => exact QueryPair.map_reading_ofArgument hpairs
  · rw [if_neg hrole]
    rfl

theorem wellFormed_of_mem_pairs {pair : QueryPair} (h : pair ∈ given.pairs formatters) :
    pair.WellFormed := by
  rw [pairs] at h
  split at h
  · split at h
    · rename_i hpairs
      exact QueryPair.wellFormed_of_ofArgument hpairs h
    · exact absurd h List.not_mem_nil
  · exact absurd h List.not_mem_nil

theorem wellFormed_of_mem_flatMap_pairs {givens : List Given} {pair : QueryPair}
    (h : pair ∈ givens.flatMap (pairs formatters)) : pair.WellFormed := by
  obtain ⟨given, -, hpair⟩ := List.mem_flatMap.mp h
  exact wellFormed_of_mem_pairs hpair

theorem map_reading_flatMap_pairs {givens : List Given}
    (h : ∀ given ∈ givens, given.IsBindable formatters) :
    (givens.flatMap (pairs formatters)).map QueryPair.reading =
      givens.flatMap (carried formatters) := by
  rw [List.map_flatMap]
  exact List.flatMap_congr fun given hgiven => map_reading_pairs (h given hgiven)

theorem map_render_flatMap_pairs (formatters : Formatters) (givens : List Given) :
    (givens.flatMap (pairs formatters)).map QueryPair.render =
      givens.flatMap (parts formatters) := by
  rw [List.map_flatMap]
  rfl

theorem avoids_foldl_bindPath {c : Char} (hc : PathBinding.IsForeign c) (formatters : Formatters)
    (mapping : Mapping) {values : PathBinding} (h : values.Avoids c) (givens : List Given) :
    PathBinding.Avoids c (givens.foldl (bindPath formatters mapping) values) := by
  induction givens generalizing values with
  | nil => exact h
  | cons given givens ih =>
    apply ih
    rw [bindPath]
    split
    · exact h.bind hc formatters mapping _ _
    · exact h

/-- No character that ends a path enters one through an argument. -/
theorem notMem_pathOf {c : Char} (hc : Uri.EndsPath c) {raw : Text} (h : c ∉ raw)
    (formatters : Formatters) (parameters : List Argument) (givens : List Given) :
    c ∉ pathOf formatters (Mapping.parse raw) parameters givens := by
  have hforeign : PathBinding.IsForeign c := by
    rcases hc with rfl | rfl
    · exact ⟨by decide, by decide, by decide⟩
    · exact ⟨by decide, by decide, by decide⟩
  have hmark : c ∉ Mapping.marks ∧ c ≠ '{' ∧ c ≠ '}' := by rcases hc with rfl | rfl <;> decide
  have hvalues := avoids_foldl_bindPath hforeign formatters (Mapping.parse raw)
    (PathBinding.avoids_ofParameters hforeign formatters (Mapping.parse raw) parameters) givens
  exact hvalues.notMem_expand (Mapping.avoids_parse h hmark.1) hmark.2.1 hmark.2.2

end Given

/-! ### The arguments of a call -/

namespace CallBinding

variable {formatters : Formatters} {mapping : Mapping} {call : Call} {method : Method}
  {binding result : CallBinding} {index : Nat}

/-- What has been bound after further arguments. -/
def absorb (formatters : Formatters) (mapping : Mapping) (binding : CallBinding)
    (givens : List Given) : CallBinding where
  path := givens.foldl (Given.bindPath formatters mapping) binding.path
  pairs := binding.pairs ++ givens.flatMap (Given.pairs formatters)
  omitted := binding.omitted ++ givens.flatMap (Given.omitted formatters)

theorem absorb_cons (binding : CallBinding) (given : Given) (givens : List Given) :
    binding.absorb formatters mapping (given :: givens) =
      (binding.absorb formatters mapping [given]).absorb formatters mapping givens := by
  simp [absorb]

theorem variableName_eq_ok_iff {parameter : Parameter} {name : Text} :
    variableName call method index parameter = .ok name ↔ parameter.name? = some name := by
  rw [variableName]
  cases parameter.name? with
  | none => simp
  | some other => simp

theorem absorb_path {parameter : Parameter} {argument : Argument} {name : Text}
    (hrole : parameter.role = .path) (hname : parameter.name? = some name) :
    binding.absorb formatters mapping [(parameter, argument)] =
      { binding with path := binding.path.bind formatters mapping name argument } := by
  simp [absorb, Given.bindPath, Parameter.pathName?, Given.pairs, Given.omitted,
    Parameter.queryName?, hrole, hname]

theorem absorb_query {parameter : Parameter} {argument : Argument} {name : Text}
    {pairs? : Option (List QueryPair)} (hrole : parameter.role = .query)
    (hname : parameter.name? = some name)
    (hpairs : QueryPair.ofArgument formatters parameter name argument = .ok pairs?) :
    binding.absorb formatters mapping [(parameter, argument)] =
      match pairs? with
      | some pairs => { binding with pairs := binding.pairs ++ pairs }
      | none => { binding with omitted := binding.omitted ++ [name] } := by
  cases pairs? with
  | none =>
    simp [absorb, Given.bindPath, Parameter.pathName?, Given.pairs, Given.omitted,
      Parameter.queryName?, hrole, hname, hpairs]
  | some pairs =>
    simp [absorb, Given.bindPath, Parameter.pathName?, Given.pairs, Given.omitted,
      Parameter.queryName?, hrole, hname, hpairs]

theorem absorb_of_ne {parameter : Parameter} {argument : Argument}
    (hpath : parameter.role ≠ .path) (hquery : parameter.role ≠ .query) :
    binding.absorb formatters mapping [(parameter, argument)] = binding := by
  simp [absorb, Given.bindPath, Parameter.pathName?, Given.pairs, Given.omitted,
    Parameter.queryName?, hpath, hquery]

/-- An argument is bound if it can be, and adds what it gives. -/
theorem bind_eq_ok_iff {parameter : Parameter} {argument : Argument} :
    binding.bind formatters mapping call method index parameter argument = .ok result ↔
      Given.IsBindable formatters (parameter, argument) ∧
        result = binding.absorb formatters mapping [(parameter, argument)] := by
  have hother (hpath : parameter.role ≠ .path) (hquery : parameter.role ≠ .query) :
      (.ok binding : Except LinkError CallBinding) = .ok result ↔
        Given.IsBindable formatters (parameter, argument) ∧
          result = binding.absorb formatters mapping [(parameter, argument)] := by
    rw [absorb_of_ne hpath hquery, Except.ok.injEq, eq_comm]
    exact ⟨fun h => ⟨⟨fun hrole => absurd hrole hpath, fun hrole => absurd hrole hquery⟩, h⟩,
      fun h => h.2⟩
  rw [bind]
  cases hrole : parameter.role with
  | path =>
    simp only [Except.bind_eq_ok_iff, variableName_eq_ok_iff, Except.pure_eq_ok_iff]
    constructor
    · rintro ⟨name, hname, rfl⟩
      exact ⟨⟨fun _ => ⟨name, hname⟩, fun h => absurd (hrole.symm.trans h) (by decide)⟩,
        (absorb_path hrole hname).symm⟩
    · rintro ⟨hgiven, rfl⟩
      obtain ⟨name, hname⟩ := hgiven.path hrole
      exact ⟨name, hname, (absorb_path hrole hname).symm⟩
  | query =>
    simp only [Except.bind_eq_ok_iff, variableName_eq_ok_iff]
    constructor
    · rintro ⟨name, hname, pairs?, hpairs, hresult⟩
      refine ⟨⟨fun h => absurd (hrole.symm.trans h) (by decide),
        fun _ => ⟨name, pairs?, hname, hpairs⟩⟩, ?_⟩
      rw [absorb_query hrole hname hpairs]
      cases pairs? with
      | none => exact (Except.pure_eq_ok_iff.mp hresult).symm
      | some pairs => exact (Except.pure_eq_ok_iff.mp hresult).symm
    · rintro ⟨hgiven, rfl⟩
      obtain ⟨name, pairs?, hname, hpairs⟩ := hgiven.query hrole
      refine ⟨name, hname, pairs?, hpairs, ?_⟩
      rw [absorb_query hrole hname hpairs]
      cases pairs? with
      | none => rfl
      | some pairs => rfl
  | body => exact hother (by rw [hrole]; decide) (by rw [hrole]; decide)
  | other => exact hother (by rw [hrole]; decide) (by rw [hrole]; decide)

/-- Arguments in a row are bound exactly if each of them can be, and each adds what it gives. -/
theorem bindFrom_eq_ok_iff {givens : List Given} :
    bindFrom formatters mapping call method binding index givens = .ok result ↔
      (∀ given ∈ givens, given.IsBindable formatters) ∧
        result = binding.absorb formatters mapping givens := by
  induction givens generalizing binding index with
  | nil =>
    have hnil : binding.absorb formatters mapping [] = binding := by simp [absorb]
    simp [bindFrom, hnil, eq_comm]
  | cons given givens ih =>
    obtain ⟨parameter, argument⟩ := given
    simp only [bindFrom, Except.bind_eq_ok_iff, bind_eq_ok_iff, ih, List.forall_mem_cons]
    rw [absorb_cons binding (parameter, argument) givens]
    constructor
    · rintro ⟨_, ⟨hgiven, rfl⟩, hgivens, hresult⟩
      exact ⟨⟨hgiven, hgivens⟩, hresult⟩
    · rintro ⟨⟨hgiven, hgivens⟩, hresult⟩
      exact ⟨_, ⟨hgiven, rfl⟩, hgivens, hresult⟩

end CallBinding

namespace Target

variable {base : BaseUri} {formatters : Formatters} {mapping : Mapping} {parameters : List Argument}
  {call : Call} {method : Method} {target : Target}

/-- The href that arguments make of a mapping. -/
def hrefOf (base : BaseUri) (formatters : Formatters) (mapping : Mapping)
    (parameters : List Argument) (givens : List Given) : Text :=
  base.resolve (QueryPair.attach (Given.pathOf formatters mapping parameters givens)
    (givens.flatMap (Given.pairs formatters)))

/-- The target of a call, argument by argument. -/
theorem ofCall_eq_ok_iff :
    ofCall base formatters mapping parameters call method = .ok target ↔
      (∀ given ∈ method.parameters.zip call.arguments, Given.IsBindable formatters given) ∧
        target.href = hrefOf base formatters mapping parameters
          (method.parameters.zip call.arguments) ∧
        target.vars = optionalVariables target.href
          ((method.parameters.zip call.arguments).flatMap (Given.omitted formatters)) := by
  simp only [ofCall, CallBinding.ofCall, Except.bind_eq_ok_iff, CallBinding.bindFrom_eq_ok_iff,
    Except.pure_eq_ok_iff]
  constructor
  · rintro ⟨_, ⟨hgivens, rfl⟩, rfl⟩
    exact ⟨hgivens, rfl, rfl⟩
  · rintro ⟨hgivens, hhref, hvars⟩
    refine ⟨_, ⟨hgivens, rfl⟩, ?_⟩
    obtain ⟨href, vars⟩ := target
    simp only at hhref hvars
    rw [hvars, hhref]
    rfl

theorem exists_parse_of_toLink {link : Link} (h : target.toLink = .ok link) :
    ∃ template, Template.parse target.href = .ok template := by
  rw [toLink, Link.parse] at h
  cases hparse : Template.parse target.href with
  | error error => simp [hparse] at h
  | ok template => exact ⟨template, rfl⟩

theorem map_name_optionalVariables (href : Text) (names : List Text) :
    (optionalVariables href names).map (·.name) = names := by
  cases names with
  | nil => rfl
  | cons name names => simp [optionalVariables, Function.comp_def]

theorem isQuery_of_mem_optionalVariables {href : Text} {names : List Text}
    {v : Template.Variable} (h : v ∈ optionalVariables href names) : v.kind.isQuery = true := by
  cases names with
  | nil => exact absurd h List.not_mem_nil
  | cons name names =>
    rcases List.mem_cons.mp h with rfl | hrest
    · simp only
      split
      · rfl
      · rfl
    · obtain ⟨name, -, rfl⟩ := List.mem_map.mp hrest
      rfl

end Target

end Signpost
