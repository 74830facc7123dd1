import Mathlib.Data.List.Perm.Lattice
import Signpost.Proofs.Binding.Call
import Signpost.Proofs.Binding.Template

/-!
# Arguments left to the client

An argument of a call may be left out, so that the client fills it in when it expands the link. A
variable of the path then stays in its place, a required query parameter becomes an expression in
the place of its value, and an optional one moves behind the query. This file compares the two ways
of binding the arguments of a call, position by position: everything that is not left out is bound
the same, and what is left out stands where the client's value will come to stand.

## Main definitions

* `Slot`: an argument and whether it is left to the client.
* `Parameter.CanWait`: the conditions under which it may be.
* `Slot.isPostponed`: the optional query parameters among them.

## Main results

* `Slot.get?_bindings_later`: what is bound to the variables of the path.
* `Slot.exists_defers_pathOf`: the path with variables left in it.
* `Slot.map_fill_pairs`: the pairs with expressions in them.
-/

namespace Signpost

/-- An argument of a call, and whether it is left to the client. -/
structure Slot where
  parameter : Parameter
  argument : Argument
  late : Bool

namespace Slot

/-- The argument as it was given. -/
def now (slot : Slot) : Given :=
  (slot.parameter, slot.argument)

/-- The argument as it is bound when it may be left to the client. -/
def later (slot : Slot) : Given :=
  (slot.parameter, if slot.late then .absent else slot.argument)

/-- The argument of an optional query parameter that is left to the client. -/
def isPostponed (slot : Slot) : Bool :=
  slot.late && slot.parameter.role = .query && !slot.parameter.isRequired

/-- The positions of a call, of which those in `late` are left to the client. -/
def ofCall (late : Nat → Bool) (givens : List Given) : List Slot :=
  givens.zipIdx.map fun place => ⟨place.1.1, place.1.2, late place.2⟩

end Slot

/-- The parameter may go without its argument: it is the only one of the path for an ordinary
variable of the mapping that no class-level argument fills, or one of the query that is required and
has no default, or one that is not required. -/
inductive Parameter.CanWait (formatters : Formatters) (mapping : Mapping)
    (classLevel : List Argument) (all : List Parameter) (parameter : Parameter) : Prop
  | path (v : Mapping.Variable) (hrole : parameter.role = .path)
      (hname : parameter.name? = some v.name) (hfind : mapping.find? v.name = some v)
      (hordinary : v.catchAll = false)
      (honly : all.countP (fun other => other.role = .path ∧ other.name? = some v.name) = 1)
      (hfree : ∀ argument, (v, argument) ∈ mapping.vars.zip classLevel →
        PathBinding.text? formatters v argument = none)
  | required (hrole : parameter.role = .query) (hrequired : parameter.isRequired = true)
      (hdefault : parameter.default = none)
  | optional (hrole : parameter.role = .query) (hrequired : parameter.isRequired = false)

namespace Slot

variable {formatters : Formatters} {mapping : Mapping} {raw : Text} {classLevel : List Argument}
  {all : List Parameter} {slots : List Slot} {slot : Slot}

/-- The slot holds a scalar if it is left to the client, and its parameter can wait. -/
structure IsSound (formatters : Formatters) (mapping : Mapping) (classLevel : List Argument)
    (all : List Parameter) (slot : Slot) : Prop where
  scalar : slot.late = true → ∃ scalar, slot.argument = .scalar scalar
  canWait : slot.late = true → slot.parameter.CanWait formatters mapping classLevel all

theorem later_of_not_late (h : slot.late = false) : slot.later = slot.now := by
  simp [later, now, h]

theorem later_of_late (h : slot.late = true) : slot.later = (slot.parameter, .absent) := by
  simp [later, h]

/-! ### Bindings of the path -/

/-- The key of the variable that a parameter of the path is bound to. -/
def pathKey? (mapping : Mapping) (parameter : Parameter) : Option Text :=
  if parameter.role = .path then
    parameter.name?.map fun name => (PathBinding.variableFor mapping name).key
  else none

theorem get?_bindPath_of_ne (given : Given) {key : Text}
    (h : pathKey? mapping given.1 ≠ some key) (values : PathBinding) :
    (given.bindPath formatters mapping values).get? key = values.get? key := by
  rw [Given.bindPath, Parameter.pathName?]
  rw [pathKey?] at h
  split_ifs at h ⊢ with hrole
  · cases hname : given.1.name? with
    | none => rfl
    | some name =>
      rw [hname, Option.map_some, ne_eq, Option.some_inj] at h
      simp only [PathBinding.get?_bind, if_neg (Ne.symm h)]
  · rfl

theorem get?_bindPath_congr {values values' : PathBinding} {key : Text}
    (h : values.get? key = values'.get? key) (given : Given) :
    (given.bindPath formatters mapping values).get? key =
      (given.bindPath formatters mapping values').get? key := by
  rw [Given.bindPath, Given.bindPath]
  cases given.1.pathName? with
  | none => exact h
  | some name => simp only [PathBinding.get?_bind, h]

theorem get?_foldl_of_ne {key : Text} : {givens : List Given} → {values : PathBinding} →
    (∀ given ∈ givens, pathKey? mapping given.1 ≠ some key) →
    Table.get? (givens.foldl (Given.bindPath formatters mapping) values) key = values.get? key
  | [], _, _ => rfl
  | given :: givens, values, h => by
    rw [List.foldl_cons, get?_foldl_of_ne fun other hother =>
      h other (List.mem_cons_of_mem given hother)]
    exact get?_bindPath_of_ne given (h given List.mem_cons_self) values

/-- Whatever is bound under a key that no argument left to the client is for is bound either way. -/
theorem get?_foldl_later {key : Text} : {slots : List Slot} → {values values' : PathBinding} →
    (∀ slot ∈ slots, slot.late = true → pathKey? mapping slot.parameter ≠ some key) →
    values.get? key = values'.get? key →
    Table.get? ((slots.map later).foldl (Given.bindPath formatters mapping) values) key =
      Table.get? ((slots.map now).foldl (Given.bindPath formatters mapping) values') key
  | [], _, _, _, hvalues => hvalues
  | slot :: slots, values, values', h, hvalues => by
    rw [List.map_cons, List.map_cons, List.foldl_cons, List.foldl_cons]
    refine get?_foldl_later (fun other hother => h other (List.mem_cons_of_mem slot hother)) ?_
    cases hlate : slot.late with
    | false =>
      rw [later_of_not_late hlate]
      exact get?_bindPath_congr hvalues slot.now
    | true =>
      have hkey := h slot List.mem_cons_self hlate
      rw [get?_bindPath_of_ne slot.later hkey, get?_bindPath_of_ne slot.now hkey, hvalues]

/-- A variable that one parameter alone names is bound by it, whatever comes before and after. -/
theorem get?_foldl_of_only {v : Mapping.Variable} {before after : List Given} {given : Given}
    {values : PathBinding} (hpath : given.1.pathName? = some v.name)
    (hfind : mapping.find? v.name = some v)
    (hbefore : ∀ other ∈ before, pathKey? mapping other.1 ≠ some v.key)
    (hafter : ∀ other ∈ after, pathKey? mapping other.1 ≠ some v.key)
    (hfree : values.get? v.key = none) :
    Table.get? ((before ++ given :: after).foldl (Given.bindPath formatters mapping) values) v.key =
      some (((PathBinding.text? formatters v given.2).map .text).getD v.absent) := by
  have hvariable : PathBinding.variableFor mapping v.name = v := by
    rw [PathBinding.variableFor, hfind, Option.getD_some]
  have hbound : Table.get? (before.foldl (Given.bindPath formatters mapping) values) v.key = none :=
    (get?_foldl_of_ne hbefore).trans hfree
  rw [List.foldl_append, List.foldl_cons, get?_foldl_of_ne hafter, Given.bindPath, hpath]
  simp only [PathBinding.get?_bind, hvariable, if_true, hbound]
  cases PathBinding.text? formatters v given.2 with
  | none => rfl
  | some text => rfl

theorem name_eq_of_pathKey? {v : Mapping.Variable} (hv : v ∈ (Mapping.parse raw).vars)
    (hordinary : v.catchAll = false) {parameter : Parameter}
    (h : pathKey? (Mapping.parse raw) parameter = some v.key) :
    parameter.role = .path ∧ parameter.name? = some v.name := by
  rw [pathKey?] at h
  split_ifs at h with hrole
  obtain ⟨name, hname, hkey⟩ := Option.map_eq_some_iff.mp h
  have hvkey : v.key = v.name := by rw [Mapping.Variable.key, hordinary, if_neg (by decide)]
  have hsame := Mapping.eq_of_key_eq_name hv hordinary (hkey.trans hvkey)
  refine ⟨hrole, ?_⟩
  rw [hname, ← PathBinding.variableFor_name (Mapping.parse raw) name, hsame]

/-- A slot that alone has a property stands between slots without it. -/
theorem exists_append_of_countP {p : Slot → Bool} (hslot : slot ∈ slots) (hp : p slot = true)
    (honly : slots.countP p = 1) :
    ∃ before after, slots = before ++ slot :: after ∧ (∀ other ∈ before, p other = false) ∧
      ∀ other ∈ after, p other = false := by
  obtain ⟨before, after, rfl⟩ := List.append_of_mem hslot
  rw [List.countP_append, List.countP_cons_of_pos hp] at honly
  refine ⟨before, after, rfl, fun other hother => ?_, fun other hother => ?_⟩
  · have hzero : before.countP p = 0 := by omega
    simpa using List.countP_eq_zero.mp hzero other hother
  · have hzero : after.countP p = 0 := by omega
    simpa using List.countP_eq_zero.mp hzero other hother

/-- The bindings of the path after the arguments of a call. -/
def bindings (formatters : Formatters) (mapping : Mapping) (classLevel : List Argument)
    (givens : List Given) : PathBinding :=
  (givens.foldl (Given.bindPath formatters mapping)
    (.ofParameters formatters mapping classLevel)).complete mapping

theorem key_eq_name {v : Mapping.Variable} (hordinary : v.catchAll = false) : v.key = v.name := by
  rw [Mapping.Variable.key, hordinary, if_neg (by decide)]

/-- An ordinary variable that one slot alone names is bound by it, in whatever way arguments are
taken from slots. -/
theorem get?_bindings_of_only {f : Slot → Given} (hf : ∀ slot, (f slot).1 = slot.parameter)
    {v : Mapping.Variable} (hslot : slot ∈ slots) (hrole : slot.parameter.role = .path)
    (hname : slot.parameter.name? = some v.name)
    (hfind : (Mapping.parse raw).find? v.name = some v) (hordinary : v.catchAll = false)
    (honly : (slots.map (·.parameter)).countP
      (fun other => other.role = .path ∧ other.name? = some v.name) = 1)
    (hfree : ∀ argument, (v, argument) ∈ (Mapping.parse raw).vars.zip classLevel →
      PathBinding.text? formatters v argument = none) :
    (bindings formatters (Mapping.parse raw) classLevel (slots.map f)).get? v.key =
      some (((PathBinding.text? formatters v (f slot).2).map .text).getD v.absent) := by
  have hv : v ∈ (Mapping.parse raw).vars := List.mem_of_find?_eq_some hfind
  rw [List.countP_map] at honly
  obtain ⟨before, after, rfl, hbefore, hafter⟩ :=
    exists_append_of_countP hslot (by simp [hrole, hname]) honly
  -- the other slots are for other keys, since the key of an ordinary variable tells its name
  have hother {others : List Slot} (hothers : ∀ other ∈ others, ¬(other.parameter.role = .path ∧
      other.parameter.name? = some v.name)) :
      ∀ given ∈ others.map f, pathKey? (Mapping.parse raw) given.1 ≠ some v.key := by
    intro given hgiven hsame
    obtain ⟨other, hmem, rfl⟩ := List.mem_map.mp hgiven
    rw [hf] at hsame
    exact hothers other hmem (name_eq_of_pathKey? hv hordinary hsame)
  have hnone : Table.get? (PathBinding.ofParameters formatters (Mapping.parse raw) classLevel)
      v.key = none := by
    refine PathBinding.get?_ofParameters_eq_none fun w argument hmem hkey => ?_
    obtain rfl : w = v :=
      Mapping.eq_of_key_eq_name hv hordinary (hkey.trans (key_eq_name hordinary))
    exact hfree argument hmem
  have hpath : (f slot).1.pathName? = some v.name := by
    rw [Parameter.pathName?, hf, if_pos hrole, hname]
  rw [bindings, PathBinding.get?_complete, List.map_append, List.map_cons,
    get?_foldl_of_only hpath hfind (hother fun other hmem => by simpa using hbefore other hmem)
      (hother fun other hmem => by simpa using hafter other hmem) hnone]
  rfl

/-- What is left to the client in the path, with the text it is bound to otherwise. -/
structure Waits (formatters : Formatters) (raw : Text) (slots : List Slot) (name text : Text) :
    Prop where
  late : ∃ slot ∈ slots, slot.late = true ∧ slot.parameter.name? = some name ∧
    ∃ scalar, slot.argument = .scalar scalar ∧ text = formatters.format scalar
  ordinary : ∃ v ∈ (Mapping.parse raw).vars, v.catchAll = false ∧ v.name = name

/-- Either way the same is bound under a key, unless it is that of a variable left to the client. -/
theorem get?_bindings_later (hsound : ∀ slot ∈ slots, slot.IsSound formatters (Mapping.parse raw)
    classLevel (slots.map (·.parameter))) (key : Text) :
    (bindings formatters (Mapping.parse raw) classLevel (slots.map later)).get? key =
        (bindings formatters (Mapping.parse raw) classLevel (slots.map now)).get? key ∨
      ∃ text, Waits formatters raw slots key text ∧
        (bindings formatters (Mapping.parse raw) classLevel (slots.map now)).get? key =
          some (.text (Percent.encode text)) ∧
        (bindings formatters (Mapping.parse raw) classLevel (slots.map later)).get? key =
          some .keep := by
  by_cases hwaits : ∃ slot ∈ slots, slot.late = true ∧
      pathKey? (Mapping.parse raw) slot.parameter = some key
  · right
    obtain ⟨slot, hslot, hlate, hkey⟩ := hwaits
    obtain ⟨scalar, hscalar⟩ := (hsound slot hslot).scalar hlate
    cases (hsound slot hslot).canWait hlate with
    | required hrole => exact absurd hkey (by simp [pathKey?, hrole])
    | optional hrole => exact absurd hkey (by simp [pathKey?, hrole])
    | path v hrole hname hfind hordinary honly hfree =>
      obtain rfl : v.key = key := by
        rw [pathKey?, if_pos hrole, hname, Option.map_some, PathBinding.variableFor, hfind] at hkey
        exact Option.some_inj.mp hkey
      refine ⟨formatters.format scalar, ⟨⟨slot, hslot, hlate, ?_, scalar, hscalar, rfl⟩, v,
        List.mem_of_find?_eq_some hfind, hordinary, (key_eq_name hordinary).symm⟩, ?_, ?_⟩
      · rw [hname, key_eq_name hordinary]
      · rw [get?_bindings_of_only (fun _ => rfl) hslot hrole hname hfind hordinary honly hfree]
        simp [now, hscalar, PathBinding.text?, PathBinding.encode, hordinary]
      · rw [get?_bindings_of_only (fun _ => rfl) hslot hrole hname hfind hordinary honly hfree]
        simp [later, hlate, PathBinding.text?, Mapping.Variable.absent, hordinary]
  · left
    have hkeys : ∀ slot ∈ slots, slot.late = true →
        pathKey? (Mapping.parse raw) slot.parameter ≠ some key :=
      fun slot hslot hlate hkey => hwaits ⟨slot, hslot, hlate, hkey⟩
    rw [bindings, bindings, PathBinding.get?_complete, PathBinding.get?_complete,
      get?_foldl_later hkeys rfl]

/-! ### The path -/

variable {lookup : Text → Option Text} {names : List Text}

/-- A stretch of the mapping is replaced by the same text either way, or it is a variable left to
the client and its encoded value. -/
theorem exists_defers_substitute (hsound : ∀ slot ∈ slots, slot.IsSound formatters
      (Mapping.parse raw) classLevel (slots.map (·.parameter)))
    (hlookup : ∀ name text, Waits formatters raw slots name text →
      name ∈ names ∧ isVariableName name = true ∧ lookup name = some text)
    (chunk : Mapping.Chunk)
    (hopen : '{' ∉ (Mapping.parse raw).substitute
      (bindings formatters (Mapping.parse raw) classLevel (slots.map now)).get? chunk)
    (hclose : '}' ∉ (Mapping.parse raw).substitute
      (bindings formatters (Mapping.parse raw) classLevel (slots.map now)).get? chunk) :
    ∃ parts, Template.Defers lookup names parts
      ((Mapping.parse raw).substitute
        (bindings formatters (Mapping.parse raw) classLevel (slots.map later)).get? chunk)
      ((Mapping.parse raw).substitute
        (bindings formatters (Mapping.parse raw) classLevel (slots.map now)).get? chunk) := by
  cases chunk with
  | literal text => exact ⟨_, .literal hopen hclose⟩
  | token content =>
    rw [Mapping.substitute_token] at hopen hclose ⊢
    rw [Mapping.substitute_token]
    rcases get?_bindings_later hsound ((Mapping.parse raw).tokenKey content) with
      hsame | ⟨text, hwaits, hnow, hlater⟩
    · rw [hsame]
      exact ⟨_, .literal hopen hclose⟩
    · obtain ⟨v, hv, hordinary, hname⟩ := hwaits.ordinary
      obtain ⟨hmem, hvalid, htext⟩ := hlookup _ _ hwaits
      rw [hnow, hlater]
      simp only [Mapping.residue_of_tokenKey_eq_name hv hordinary hname.symm, hname]
      exact ⟨_, .pathVariable hmem hvalid htext⟩

/-- **A path with variables left in it** stands for the path with all values, once the client has
them. -/
theorem exists_defers_pathOf (hsound : ∀ slot ∈ slots, slot.IsSound formatters (Mapping.parse raw)
      classLevel (slots.map (·.parameter)))
    (hlookup : ∀ name text, Waits formatters raw slots name text →
      name ∈ names ∧ isVariableName name = true ∧ lookup name = some text)
    (hopen : '{' ∉ Given.pathOf formatters (Mapping.parse raw) classLevel (slots.map now))
    (hclose : '}' ∉ Given.pathOf formatters (Mapping.parse raw) classLevel (slots.map now)) :
    ∃ parts, Template.Defers lookup names parts
      (Given.pathOf formatters (Mapping.parse raw) classLevel (slots.map later))
      (Given.pathOf formatters (Mapping.parse raw) classLevel (slots.map now)) := by
  have hpath (givens : List Given) : Given.pathOf formatters (Mapping.parse raw) classLevel givens =
      (Mapping.chunks (Mapping.parse raw).text).flatMap ((Mapping.parse raw).substitute
        (bindings formatters (Mapping.parse raw) classLevel givens).get?) :=
    rfl
  rw [hpath] at hopen hclose ⊢
  rw [hpath]
  have hchunk : ∀ chunk ∈ Mapping.chunks (Mapping.parse raw).text, ∃ parts,
      Template.Defers lookup names parts
        ((Mapping.parse raw).substitute
          (bindings formatters (Mapping.parse raw) classLevel (slots.map later)).get? chunk)
        ((Mapping.parse raw).substitute
          (bindings formatters (Mapping.parse raw) classLevel (slots.map now)).get? chunk) :=
    fun chunk hmem => exists_defers_substitute hsound hlookup chunk
      (fun hc => hopen (List.mem_flatMap.mpr ⟨chunk, hmem, hc⟩))
      (fun hc => hclose (List.mem_flatMap.mpr ⟨chunk, hmem, hc⟩))
  choose! parts hparts using hchunk
  exact ⟨_, .flatMap hparts⟩

/-! ### The query -/

/-- What becomes of the pairs of a slot when its argument may be left to the client: they stay, or
an expression takes the place of the value, or they are left out for now. -/
inductive Fate (formatters : Formatters) (slot : Slot) : Prop
  | kept (hpostponed : slot.isPostponed = false)
      (hpairs : slot.later.pairs formatters = slot.now.pairs formatters)
      (homitted : slot.later.omitted formatters = slot.now.omitted formatters)
  | opened (name : Text) (scalar : Scalar) (hlate : slot.late = true)
      (hpostponed : slot.isPostponed = false) (hname : slot.parameter.queryName? = some name)
      (hscalar : slot.argument = .scalar scalar)
      (hnow : slot.now.pairs formatters = [.value name (formatters.format scalar)])
      (hlater : slot.later.pairs formatters = [.placeholder name])
      (homitted : slot.later.omitted formatters = slot.now.omitted formatters)
  | postponed (name : Text) (scalar : Scalar) (hlate : slot.late = true)
      (hpostponed : slot.isPostponed = true) (hname : slot.parameter.queryName? = some name)
      (hscalar : slot.argument = .scalar scalar)
      (hnow : slot.now.pairs formatters = [.value name (formatters.format scalar)])
      (hlater : slot.later.pairs formatters = [])
      (homitted : slot.later.omitted formatters = [name])

theorem queryName?_eq_some_iff {parameter : Parameter} {name : Text} :
    parameter.queryName? = some name ↔ parameter.role = .query ∧ parameter.name? = some name := by
  rw [Parameter.queryName?]
  split_ifs with hrole
  · simp [hrole]
  · simp [hrole]

theorem pairs_of_ok (given : Given) {name : Text} {pairs : List QueryPair}
    (hname : given.1.queryName? = some name)
    (h : QueryPair.ofArgument formatters given.1 name given.2 = .ok (some pairs)) :
    given.pairs formatters = pairs ∧ given.omitted formatters = [] := by
  rw [Given.pairs, Given.omitted, hname]
  simp only [h, and_self]

theorem pairs_of_none (given : Given) {name : Text} (hname : given.1.queryName? = some name)
    (h : QueryPair.ofArgument formatters given.1 name given.2 = .ok none) :
    given.pairs formatters = [] ∧ given.omitted formatters = [name] := by
  rw [Given.pairs, Given.omitted, hname]
  simp only [h, and_self]

theorem isBindable_of_query {given : Given} {name : Text} {pairs? : Option (List QueryPair)}
    (hname : given.1.queryName? = some name)
    (h : QueryPair.ofArgument formatters given.1 name given.2 = .ok pairs?) :
    given.IsBindable formatters := by
  obtain ⟨hrole, hname⟩ := queryName?_eq_some_iff.mp hname
  refine ⟨fun hpath => ?_, fun _ => ⟨name, pairs?, hname, h⟩⟩
  rw [hrole] at hpath
  exact absurd hpath (by decide)

theorem pairs_now_of_scalar (formatters : Formatters) {name : Text} {scalar : Scalar}
    (hname : slot.parameter.queryName? = some name) (hscalar : slot.argument = .scalar scalar) :
    slot.now.pairs formatters = [.value name (formatters.format scalar)] ∧
      slot.now.omitted formatters = [] :=
  pairs_of_ok slot.now hname (by rw [now, hscalar]; rfl)

/-- A variable of the path has no part in the query. -/
theorem fate_of_path {name : Text} (hrole : slot.parameter.role = .path)
    (hname : slot.parameter.name? = some name) :
    slot.later.IsBindable formatters ∧ slot.Fate formatters := by
  have hnone : slot.parameter.queryName? = none := by simp [Parameter.queryName?, hrole]
  refine ⟨⟨fun _ => ⟨name, hname⟩, fun h => ?_⟩, .kept ?_ ?_ ?_⟩
  · exact absurd (hrole.symm.trans h) (by decide)
  · simp [isPostponed, hrole]
  · simp [Given.pairs, later, now, hnone]
  · simp [Given.omitted, later, now, hnone]

/-- A required parameter that is left to the client becomes an expression. -/
theorem fate_of_required {name : Text} {scalar : Scalar} (hlate : slot.late = true)
    (hscalar : slot.argument = .scalar scalar) (hname : slot.parameter.queryName? = some name)
    (hvalid : isVariableName name = true) (hrequired : slot.parameter.isRequired = true)
    (hdefault : slot.parameter.default = none) :
    slot.later.IsBindable formatters ∧ slot.Fate formatters := by
  have habsent : QueryPair.ofArgument formatters slot.later.1 name slot.later.2 =
      .ok (some [.placeholder name]) := by
    rw [later_of_late hlate]
    exact QueryPair.ofAbsent_eq_ok_some_iff.mpr ⟨hrequired, .inr ⟨hdefault, hvalid, rfl⟩⟩
  obtain ⟨hnow, homittedNow⟩ := pairs_now_of_scalar formatters hname hscalar
  obtain ⟨hpairs, homitted⟩ := pairs_of_ok slot.later hname habsent
  have hpostponed : slot.isPostponed = false := by simp [isPostponed, hrequired]
  exact ⟨isBindable_of_query hname habsent, .opened name scalar hlate hpostponed hname hscalar
    hnow hpairs (homitted.trans homittedNow.symm)⟩

/-- An optional parameter that is left to the client is left out for now. -/
theorem fate_of_optional {name : Text} {scalar : Scalar} (hlate : slot.late = true)
    (hscalar : slot.argument = .scalar scalar) (hname : slot.parameter.queryName? = some name)
    (hrequired : slot.parameter.isRequired = false) :
    slot.later.IsBindable formatters ∧ slot.Fate formatters := by
  have habsent : QueryPair.ofArgument formatters slot.later.1 name slot.later.2 = .ok none := by
    rw [later_of_late hlate]
    exact QueryPair.ofAbsent_eq_ok_none_iff.mpr hrequired
  obtain ⟨hnow, -⟩ := pairs_now_of_scalar formatters hname hscalar
  obtain ⟨hpairs, homitted⟩ := pairs_of_none slot.later hname habsent
  have hrole : slot.parameter.role = .query := (queryName?_eq_some_iff.mp hname).1
  have hpostponed : slot.isPostponed = true := by simp [isPostponed, hlate, hrole, hrequired]
  exact ⟨isBindable_of_query hname habsent, .postponed name scalar hlate hpostponed hname hscalar
    hnow hpairs homitted⟩

/-- A sound slot whose argument is bound, and whose name a template can hold, is bound either way
and has one of the three fates. -/
theorem fate (hsound : slot.IsSound formatters mapping classLevel all)
    (hbindable : slot.now.IsBindable formatters)
    (hvalid : ∀ name, slot.parameter.queryName? = some name → isVariableName name = true) :
    slot.later.IsBindable formatters ∧ slot.Fate formatters := by
  cases hlate : slot.late with
  | false =>
    have hsame := later_of_not_late hlate
    rw [hsame]
    exact ⟨hbindable, .kept (by simp [isPostponed, hlate]) (by rw [hsame]) (by rw [hsame])⟩
  | true =>
    obtain ⟨scalar, hscalar⟩ := hsound.scalar hlate
    have hquery (hrole : slot.parameter.role = .query) :
        ∃ name, slot.parameter.queryName? = some name := by
      obtain ⟨name, -, hname, -⟩ := hbindable.query hrole
      exact ⟨name, queryName?_eq_some_iff.mpr ⟨hrole, hname⟩⟩
    cases hsound.canWait hlate with
    | path v hrole hname => exact fate_of_path hrole hname
    | required hrole hrequired hdefault =>
      obtain ⟨name, hname⟩ := hquery hrole
      exact fate_of_required hlate hscalar hname (hvalid name hname) hrequired hdefault
    | optional hrole hrequired =>
      obtain ⟨name, hname⟩ := hquery hrole
      exact fate_of_optional hlate hscalar hname hrequired

/-- The slots whose arguments stay where they are, as values or as variables. -/
def kept (slots : List Slot) : List Slot :=
  slots.filter (!·.isPostponed)

/-- The slots whose arguments move behind the query. -/
def postponed (slots : List Slot) : List Slot :=
  slots.filter (·.isPostponed)

/-- What the client fills in: the text of every argument that is left to it, under its name. -/
def Supplies (formatters : Formatters) (lookup : Text → Option Text) (slots : List Slot) : Prop :=
  ∀ slot ∈ slots, slot.late = true → ∀ name scalar, slot.parameter.name? = some name →
    slot.argument = .scalar scalar → lookup name = some (formatters.format scalar)

theorem Supplies.lookup_eq (h : Supplies formatters lookup slots) (hslot : slot ∈ slots)
    (hlate : slot.late = true) {name : Text} {scalar : Scalar}
    (hname : slot.parameter.queryName? = some name) (hscalar : slot.argument = .scalar scalar) :
    lookup name = some (formatters.format scalar) :=
  h slot hslot hlate name scalar (queryName?_eq_some_iff.mp hname).2 hscalar

theorem flatMap_filter {α : Type} (p : Slot → Bool) (f : Slot → List α) : (slots : List Slot) →
    (slots.filter p).flatMap f = slots.flatMap fun slot => if p slot then f slot else []
  | [] => rfl
  | slot :: slots => by
    rw [List.flatMap_cons, ← flatMap_filter p f slots]
    cases hp : p slot with
    | true => rw [List.filter_cons_of_pos hp, List.flatMap_cons, if_pos rfl]
    | false => rw [List.filter_cons_of_neg (by simp [hp]), if_neg (by decide), List.nil_append]

theorem map_fill_eq_self {pairs : List QueryPair} (h : ∀ name, .placeholder name ∉ pairs) :
    pairs.map (QueryPair.fill lookup) = pairs := by
  refine (List.map_congr_left fun pair hpair => ?_).trans (List.map_id pairs)
  cases pair with
  | value name text => rfl
  | joined name values => rfl
  | placeholder name => exact absurd hpair (h name)

section

variable (hsupplies : Supplies formatters lookup slots)
  (hfate : ∀ slot ∈ slots, slot.Fate formatters)
  (hclosed : ∀ slot ∈ slots, ∀ name, .placeholder name ∉ slot.now.pairs formatters)
  (hgiven : ∀ slot ∈ slots, slot.now.omitted formatters = [])

include hsupplies hfate hclosed in
/-- The pairs of the arguments that may be left to the client, filled in, are those of the arguments
that stay where they are. -/
theorem map_fill_pairs :
    ((slots.map later).flatMap (Given.pairs formatters)).map (QueryPair.fill lookup) =
      ((kept slots).map now).flatMap (Given.pairs formatters) := by
  rw [List.map_flatMap, List.flatMap_map, List.flatMap_map, kept, flatMap_filter]
  refine List.flatMap_congr fun slot hslot => ?_
  cases hfate slot hslot with
  | kept hpostponed hpairs _ =>
    rw [hpairs, map_fill_eq_self (hclosed slot hslot), hpostponed]
    rfl
  | opened name scalar hlate hpostponed hname hscalar hnow hlater _ =>
    have hlookup := hsupplies.lookup_eq hslot hlate hname hscalar
    simp [hlater, hnow, hpostponed, QueryPair.fill, hlookup]
  | postponed name scalar _ hpostponed _ _ _ hlater _ =>
    rw [hlater, hpostponed]
    rfl

include hfate hgiven in
/-- The names left behind are those of the postponed arguments. -/
theorem omitted_later :
    (slots.map later).flatMap (Given.omitted formatters) =
      (postponed slots).filterMap (·.parameter.queryName?) := by
  rw [List.filterMap_eq_flatMap_toList, List.flatMap_map, postponed, flatMap_filter]
  refine List.flatMap_congr fun slot hslot => ?_
  cases hfate slot hslot with
  | kept hpostponed _ homitted => simp [homitted, hgiven slot hslot, hpostponed]
  | opened _ _ _ hpostponed _ _ _ _ homitted => simp [homitted, hgiven slot hslot, hpostponed]
  | postponed name _ _ hpostponed hname _ _ _ homitted => simp [homitted, hpostponed, hname]

include hsupplies hfate hgiven in
/-- The pairs of the postponed arguments are those of the names left behind. -/
theorem pairs_postponed :
    ((postponed slots).map now).flatMap (Given.pairs formatters) =
      ((slots.map later).flatMap (Given.omitted formatters)).map fun name =>
        .value name ((lookup name).getD []) := by
  rw [List.map_flatMap, List.flatMap_map, List.flatMap_map, postponed, flatMap_filter]
  refine List.flatMap_congr fun slot hslot => ?_
  cases hfate slot hslot with
  | kept hpostponed _ homitted => simp [homitted, hgiven slot hslot, hpostponed]
  | opened _ _ _ hpostponed _ _ _ _ homitted => simp [homitted, hgiven slot hslot, hpostponed]
  | postponed name scalar hlate hpostponed hname hscalar hnow _ homitted =>
    have hlookup := hsupplies.lookup_eq hslot hlate hname hscalar
    simp [homitted, hpostponed, hnow, hlookup]

include hsupplies hfate in
/-- The client has a value for every postponed argument. -/
theorem isSome_lookup_of_postponed {name : Text}
    (h : name ∈ (postponed slots).filterMap (·.parameter.queryName?)) :
    (lookup name).isSome = true := by
  obtain ⟨slot, hmem, hname⟩ := List.mem_filterMap.mp h
  obtain ⟨hslot, htrue⟩ := List.mem_filter.mp hmem
  cases hfate slot hslot with
  | kept hpostponed _ _ => exact absurd (hpostponed.symm.trans htrue) (by decide)
  | opened _ _ _ hpostponed _ _ _ _ _ => exact absurd (hpostponed.symm.trans htrue) (by decide)
  | postponed name' scalar hlate _ _ hscalar _ _ _ =>
    rw [hsupplies.lookup_eq hslot hlate hname hscalar]
    rfl

include hsupplies hfate hclosed in
/-- An expression among the pairs is that of an argument that stays where it is, and the client has
a value for it. -/
theorem placeholder_mem_later {name : Text}
    (h : .placeholder name ∈ (slots.map later).flatMap (Given.pairs formatters)) :
    name ∈ (kept slots).filterMap (·.parameter.queryName?) ∧ (lookup name).isSome = true := by
  rw [List.flatMap_map] at h
  obtain ⟨slot, hslot, hmem⟩ := List.mem_flatMap.mp h
  cases hfate slot hslot with
  | kept _ hpairs _ =>
    rw [hpairs] at hmem
    exact absurd hmem (hclosed slot hslot name)
  | opened name' scalar hlate hpostponed hname hscalar _ hlater _ =>
    rw [hlater, List.mem_singleton, QueryPair.placeholder.injEq] at hmem
    subst hmem
    refine ⟨List.mem_filterMap.mpr ⟨slot, ?_, hname⟩, ?_⟩
    · exact List.mem_filter.mpr ⟨hslot, by simp [hpostponed]⟩
    · rw [hsupplies.lookup_eq hslot hlate hname hscalar]
      rfl
  | postponed _ _ _ _ _ _ _ hlater _ =>
    rw [hlater] at hmem
    exact absurd hmem List.not_mem_nil

end

end Slot

end Signpost
