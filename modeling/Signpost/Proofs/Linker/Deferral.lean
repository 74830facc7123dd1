import Signpost.Proofs.Binding.Deferral
import Signpost.Proofs.Link.Draft
import Signpost.Proofs.Linker.Query

/-!
# Binding an argument now or later

A linker makes a link to a call, and the same linker, or one with other memories, makes a link to
the call with some of its arguments left out. The second link, filled in with those arguments, is
compared with the first.

## Main definitions

* `Call.deferring`, `Recording.deferring`: a call with some of its arguments left out.

## Main results

* `Linker.expand_linkLast_deferring`: the path and the query of both links.
-/

namespace Signpost

/-! ### Calls without some of their arguments -/

/-- The call without the arguments at the positions in `late`. -/
def Call.deferring (call : Call) (late : Nat → Bool) : Call :=
  { call with
    arguments := call.arguments.mapIdx fun index argument =>
      if late index then .absent else argument }

/-- The recording with its last call without the arguments at the positions in `late`. -/
def Recording.deferring (recording : Recording) (late : Nat → Bool) : Recording :=
  { recording with last := recording.last.map (·.deferring late) }

theorem Recording.last_deferring {recording : Recording} {call : Call}
    (h : recording.last = some call) (late : Nat → Bool) :
    (recording.deferring late).last = some (call.deferring late) := by
  rw [deferring, h, Option.map_some]

namespace Slot

variable {late : Nat → Bool}

theorem map_now_ofCall (late : Nat → Bool) (givens : List Given) :
    (ofCall late givens).map now = givens := by
  rw [ofCall, List.map_map]
  exact List.zipIdx_map_fst 0 givens

theorem map_parameter_ofCall (late : Nat → Bool) (givens : List Given) :
    (ofCall late givens).map (·.parameter) = givens.map Prod.fst := by
  have hnow : (ofCall late givens).map (·.parameter) =
      ((ofCall late givens).map now).map Prod.fst := by
    rw [List.map_map]
    rfl
  rw [hnow, map_now_ofCall]

/-- The arguments of the call without some of them. -/
theorem map_later_ofCall (late : Nat → Bool) (parameters : List Parameter) (call : Call) :
    (ofCall late (parameters.zip call.arguments)).map later =
      parameters.zip (call.deferring late).arguments := by
  refine List.ext_getElem? fun index => ?_
  simp only [ofCall, Call.deferring, List.getElem?_map, List.getElem?_zipIdx, List.getElem?_mapIdx,
    List.zip, List.getElem?_zipWith, Nat.zero_add]
  cases parameters[index]? with
  | none => rfl
  | some parameter =>
    cases call.arguments[index]? with
    | none => rfl
    | some argument => rfl

end Slot

/-- The target of the call without some of its arguments. -/
theorem Deferral.ofCall_deferring {base : BaseUri} {formatters : Formatters} {raw : Text}
    {classLevel : List Argument} {slots : List Slot} {lookup : Text → Option Text}
    {late : Nat → Bool} {call : Call} {method : Method}
    (h : Deferral base formatters raw classLevel slots lookup)
    (hslots : slots = Slot.ofCall late (method.parameters.zip call.arguments)) :
    Target.ofCall base formatters (Mapping.parse raw) classLevel (call.deferring late) method =
      .ok (Slot.laterTarget base formatters raw classLevel slots) := by
  have hlater : method.parameters.zip (call.deferring late).arguments = slots.map Slot.later := by
    rw [hslots, Slot.map_later_ofCall]
  refine Target.ofCall_eq_ok_iff.mpr ⟨?_, ?_, ?_⟩
  · intro given hgiven
    rw [hlater] at hgiven
    obtain ⟨slot, hslot, rfl⟩ := List.mem_map.mp hgiven
    exact (h.fate hslot).1
  · rw [hlater]
    rfl
  · rw [hlater]
    rfl

namespace Linker

variable {surroundings : Surroundings} {call : Call} {method : Method}

theorem calledMethod_deferring (surroundings : Surroundings) (call : Call) (late : Nat → Bool) :
    calledMethod surroundings (call.deferring late) = calledMethod surroundings call := by
  simp only [calledMethod, Call.deferring, List.length_mapIdx]
  rfl

/-- A link without variables has none behind its template and none in it, so that it has no
brace. -/
theorem closed_of_vars_under {draft : LinkDraft} {link : Link}
    (hlink : Target.toLink ⟨draft.uri, draft.vars⟩ = .ok link)
    (hclosed : (draft.under .self).vars = []) :
    draft.vars = [] ∧ '{' ∉ draft.uri ∧ '}' ∉ draft.uri := by
  obtain ⟨template, hparse⟩ := Target.exists_parse_of_toLink hlink
  rw [LinkDraft.vars_under hparse] at hclosed
  obtain ⟨htemplate, hdraft⟩ := Link.appendNew_eq_nil_iff.mp hclosed
  exact ⟨hdraft, Template.notMem_of_parse hparse htemplate⟩

theorem expand_under_self {uri : Text} {vars : List Template.Variable}
    {affordances : List Affordance} {lookup : Text → Option Text} {link : Link}
    (h : ((Link.ofHref uri).addVars vars).expand lookup = .ok link) :
    (LinkDraft.under ⟨uri, vars, affordances⟩ .self).expand lookup = .ok ⟨link, affordances⟩ := by
  have hself : ((Link.ofHref uri).addVars vars).under .self = (Link.ofHref uri).addVars vars := by
    rw [Link.ofHref]
    split
    · rfl
    · rfl
  rw [LinkDraft.under, AffordingLink.expand, hself, h]
  rfl

variable {linker : Linker} {history history' : List (Surroundings × Request)}
  {recording : Recording} {draft : LinkDraft} {raw : Text} {late : Nat → Bool}
  {slots : List Slot} {lookup : Text → Option Text}

section

variable (hnew : linker.IsNew) (hbase : linker.base.IsRead)
  (h : ((linker.after history).linkLast surroundings recording).1 = .ok draft)
  (hclosed : (draft.under .self).vars = []) (hcall : recording.last = some call)
  (hmethod : calledMethod surroundings call = .ok method)
  (hraw : (MappingSource.answer surroundings (.ofCall call.target method)
    (linker.after history).source).1 = some raw)
  (hpath : ∀ c, Uri.EndsPath c → c ∉ raw)
  (hnames : ((Mapping.parse raw).vars.map (·.name) ++
    method.parameters.filterMap Parameter.queryName?).Nodup)
  (hvalid : ∀ name ∈ (Mapping.parse raw).vars.map (·.name) ++
    method.parameters.filterMap Parameter.queryName?, isVariableName name = true)
  (hslots : slots = Slot.ofCall late (method.parameters.zip call.arguments))
  (hsound : ∀ slot ∈ slots, slot.IsSound linker.formatters (Mapping.parse raw)
    recording.parameters method.parameters)
  (hsupplies : Slot.Supplies linker.formatters lookup slots)

include hnew hbase h hclosed hcall hmethod hraw hpath hnames hvalid hslots hsound hsupplies

/-- A link without variables to a call tells that every argument is bound and none is left out. -/
theorem deferral_of_linkLast :
    Deferral linker.base linker.formatters raw recording.parameters slots lookup ∧
      draft.uri = Target.hrefOf linker.base linker.formatters (Mapping.parse raw)
        recording.parameters (slots.map Slot.now) := by
  have hlength := length_arguments_of_calledMethod hmethod
  have hnow : slots.map Slot.now = method.parameters.zip call.arguments := by
    rw [hslots, Slot.map_now_ofCall]
  have hparameters : slots.map (·.parameter) = method.parameters := by
    rw [hslots, Slot.map_parameter_ofCall, List.map_fst_zip hlength.ge]
  have hquery : slots.filterMap (·.parameter.queryName?) =
      method.parameters.filterMap Parameter.queryName? := by
    rw [← hparameters, List.filterMap_map]
    rfl
  obtain ⟨htarget, link, hlink⟩ := (hnew.isSound.after history).exists_target h hcall hmethod hraw
  rw [after_base, after_formatters] at htarget
  obtain ⟨hbindable, hhref, hvars⟩ := Target.ofCall_eq_ok_iff.mp htarget
  rw [← hnow] at hbindable hhref hvars
  change draft.uri = _ at hhref
  change draft.vars = _ at hvars
  obtain ⟨hnone, hopen, hclose⟩ := closed_of_vars_under hlink hclosed
  have homitted : (slots.map Slot.now).flatMap (Given.omitted linker.formatters) = [] := by
    rw [← Target.map_name_optionalVariables draft.uri
      ((slots.map Slot.now).flatMap (Given.omitted linker.formatters)), ← hvars, hnone,
      List.map_nil]
  have hdeferral : Deferral linker.base linker.formatters raw recording.parameters slots lookup :=
    { noQueryInBase := hbase.notMem_display (.inl rfl)
      pathOnly := hpath
      bindable := fun slot hslot => hbindable _ (List.mem_map_of_mem hslot)
      sound := by rwa [hparameters]
      names := by rwa [hquery]
      valid := by rwa [hquery]
      supplies := hsupplies
      noOpen := by rwa [← hhref]
      noClose := by rwa [← hhref]
      given := fun slot hslot =>
        List.flatMap_eq_nil_iff.mp homitted slot.now (List.mem_map_of_mem hslot) }
  exact ⟨hdeferral, hhref⟩

/-- **Binding an argument now or later.** Take a linker over a base that was read, with any memories
it has gathered, and a link without variables that it makes of a call by a mapping without question
mark and number sign. Take any of the arguments of the call of which each may wait, and leave them
out. Then the linker, with whatever memories it has gathered by then, makes a link of the call too,
and its `self` link, filled in with the texts of the arguments, has the same query, except that the
optional parameters among those arguments come last. It has the same path, except that there is one
slash more if the path with variables begins with one, and the path without is empty or begins with
a slash. -/
theorem expand_linkLast_deferring
    (hraw' : (MappingSource.answer surroundings (.ofCall call.target method)
      (linker.after history').source).1 = some raw) :
    let pathOf := Given.pathOf linker.formatters (Mapping.parse raw) recording.parameters
    ∃ deferred link,
      ((linker.after history').linkLast surroundings (recording.deferring late)).1 =
          .ok deferred ∧
        (deferred.under .self).expand lookup = .ok link ∧
        queryParts draft.uri = (slots.map Slot.now).flatMap (Given.parts linker.formatters) ∧
        queryParts link.href = ((Slot.kept slots ++ Slot.postponed slots).map Slot.now).flatMap
          (Given.parts linker.formatters) ∧
        pathPart draft.uri = linker.base.resolve (pathOf (slots.map Slot.now)) ∧
        pathPart link.href = linker.base.resolve
          (Target.filledPath (pathOf (slots.map Slot.later)) (pathOf (slots.map Slot.now))) := by
  intro pathOf
  let target := Slot.laterTarget linker.base linker.formatters raw recording.parameters slots
  obtain ⟨hdeferral, hhref⟩ := deferral_of_linkLast hnew hbase h hclosed hcall hmethod hraw hpath
    hnames hvalid hslots hsound hsupplies
  obtain ⟨⟨template, htemplate⟩, hexpand⟩ := hdeferral.expand_later
  have htarget : Target.ofCall linker.base linker.formatters (Mapping.parse raw)
      recording.parameters (call.deferring late) method = .ok target :=
    hdeferral.ofCall_deferring hslots
  have hsoundAfter : (linker.after history').IsSound := hnew.isSound.after history'
  have hlinked : ((linker.after history').linkLast surroundings (recording.deferring late)).1 =
      .ok ⟨target.href, target.vars,
        ((linker.after history').offer call.target method).1.affordances template⟩ := by
    refine hsoundAfter.linkLast_eq_ok_iff.mpr ⟨call.deferring late, method, raw, target, template,
      Recording.last_deferring hcall late, ?_, hraw', ?_, htemplate, rfl⟩
    · rw [calledMethod_deferring, hmethod]
    · rw [after_base, after_formatters]
      exact htarget
  have hbase : '?' ∉ linker.base.display := hdeferral.noQueryInBase
  have hnow : '?' ∉ pathOf (slots.map Slot.now) := hdeferral.notMem_pathOf _ '?' (.inl rfl)
  have hfilled := Target.notMem_filledPath (by decide) hnow (pathOf (slots.map Slot.later))
  refine ⟨_, _, hlinked, expand_under_self hexpand, ?_, ?_, ?_, ?_⟩
  · rw [hhref, Target.hrefOf, QueryPair.queryParts_resolve_attach hbase hnow
      fun pair => Given.wellFormed_of_mem_flatMap_pairs, Given.map_render_flatMap_pairs]
  · rw [QueryPair.queryParts_resolve_attach hbase hfilled
      fun pair => Given.wellFormed_of_mem_flatMap_pairs, Given.map_render_flatMap_pairs]
  · rw [hhref, Target.hrefOf, QueryPair.pathPart_resolve_attach hbase hnow]
  · rw [QueryPair.pathPart_resolve_attach hbase hfilled]

end

/-! ### A listing -/

/-- A method with a variable in the path and query parameters, of which one is required. -/
def listMethod : Method :=
  { name := "list".toList
    mapping := some "/region/{id}/people".toList
    parameters := [{ role := .path, bound := some "id".toList },
      { role := .query, bound := some "page".toList, demanded := false },
      { role := .query, bound := some "sort".toList },
      { role := .query, bound := some "size".toList, demanded := false }] }

/-- The handler of listings. -/
def listHandler : Handler :=
  { type := "List".toList, methods := [listMethod] }

/-- A value of a listing. -/
def listScalar (text : String) : Scalar :=
  ⟨"string".toList, text.toList⟩

/-- A listing with all its arguments. -/
def listCall : Call :=
  ⟨listHandler, listHandler, "list".toList,
    [.scalar (listScalar "7"), .scalar (listScalar "2"), .scalar (listScalar "a&b"),
      .scalar (listScalar "9")]⟩

/-- The arguments of a listing, of which all but the last may wait. -/
def listSlots : List Slot :=
  Slot.ofCall (· < 3) (listMethod.parameters.zip listCall.arguments)

/-- The values that the client has. -/
def listValue? (name : Text) : Option Text :=
  if name = "id".toList then some "7".toList
  else if name = "page".toList then some "2".toList
  else if name = "sort".toList then some "a&b".toList
  else none

theorem isSound_listSlots :
    ∀ slot ∈ listSlots, slot.IsSound {} ⟨"/region/{id}/people".toList, [⟨"id".toList, false⟩]⟩ []
      listMethod.parameters := by
  refine List.forall_mem_cons.mpr ⟨⟨fun _ => ⟨_, rfl⟩, fun _ => ?_⟩, ?_⟩
  · exact .path ⟨"id".toList, false⟩ rfl rfl (by decide) rfl (by decide)
      fun argument h => absurd h List.not_mem_nil
  refine List.forall_mem_cons.mpr ⟨⟨fun _ => ⟨_, rfl⟩, fun _ => .optional rfl rfl⟩, ?_⟩
  refine List.forall_mem_cons.mpr ⟨⟨fun _ => ⟨_, rfl⟩, fun _ => .required rfl rfl rfl⟩, ?_⟩
  refine List.forall_mem_cons.mpr ⟨⟨fun _ => ⟨_, rfl⟩, fun _ => .optional rfl rfl⟩, ?_⟩
  exact List.forall_mem_nil _

theorem supplies_listSlots : Slot.Supplies {} listValue? listSlots := by
  refine List.forall_mem_cons.mpr ⟨?_, List.forall_mem_cons.mpr ⟨?_, List.forall_mem_cons.mpr ⟨?_,
    List.forall_mem_cons.mpr ⟨fun h => absurd h (by decide), List.forall_mem_nil _⟩⟩⟩⟩
  all_goals
    rintro - name scalar hname hscalar
    obtain rfl := Option.some_inj.mp hname
    obtain rfl := Argument.scalar.inj hscalar
    decide

/-- A listing without its first three arguments is linked to as well. -/
theorem expand_linkLast_deferring_list :
    let surroundings : Surroundings := { handlers := ⟨[listHandler]⟩ }
    let recording : Recording := ⟨listHandler, [], some listCall⟩
    ∃ deferred link,
      ((({} : Linker).after [(surroundings, .last recording)]).linkLast surroundings
          (recording.deferring (· < 3))).1 = .ok deferred ∧
        (deferred.under .self).expand listValue? = .ok link ∧
        queryParts link.href = ["sort=a%26b".toList, "size=9".toList, "page=2".toList] ∧
        pathPart link.href = "/region/7/people".toList := by
  intro surroundings recording
  have hparse : Mapping.parse "/region/{id}/people".toList =
      ⟨"/region/{id}/people".toList, [⟨"id".toList, false⟩]⟩ := by
    cbv
  have hnew : ({} : Linker).IsNew := ⟨rfl, rfl⟩
  have hdraft : ((({} : Linker).after []).linkLast surroundings recording).1 = .ok
      ⟨"/region/7/people?page=2&sort=a%26b&size=9".toList, [],
        Affordance.ofMethod listMethod
          { href := "/region/7/people?page=2&sort=a%26b&size=9".toList }⟩ := by
    cbv
  have hclosed : (LinkDraft.under ⟨"/region/7/people?page=2&sort=a%26b&size=9".toList, [],
      Affordance.ofMethod listMethod
        { href := "/region/7/people?page=2&sort=a%26b&size=9".toList }⟩ .self).vars = [] := by
    cbv
  have hmethod : calledMethod surroundings listCall = .ok listMethod := by cbv
  have hraw : (MappingSource.answer surroundings (.ofCall listHandler listMethod)
      (({} : Linker).after []).source).1 = some "/region/{id}/people".toList := by
    cbv
  have hraw' : (MappingSource.answer surroundings (.ofCall listHandler listMethod)
      (({} : Linker).after [(surroundings, .last recording)]).source).1 =
        some "/region/{id}/people".toList := by
    cbv
  have hpath : ∀ c, Uri.EndsPath c → c ∉ "/region/{id}/people".toList := by
    rintro c (rfl | rfl) <;> decide
  have hslots : listSlots =
      Slot.ofCall (· < 3) (listMethod.parameters.zip listCall.arguments) := rfl
  obtain ⟨deferred, link, hdeferred, hlink, -, hquery, -, hfilled⟩ :=
    expand_linkLast_deferring hnew (.inl rfl) hdraft hclosed rfl hmethod hraw hpath
      (by rw [hparse]; decide) (by rw [hparse]; decide) hslots
      (by rw [hparse]; exact isSound_listSlots) supplies_listSlots hraw'
  refine ⟨deferred, link, hdeferred, hlink, ?_, ?_⟩
  · rw [hquery]
    cbv
  · rw [hfilled, hparse]
    cbv

/-! ### An item without a name -/

/-- A method whose path is a single variable. -/
def itemMethod : Method :=
  { name := "show".toList
    mapping := some "{id}".toList
    parameters := [{ role := .path, bound := some "id".toList }] }

/-- The handler of items. -/
def itemHandler : Handler :=
  { type := "Item".toList, methods := [itemMethod] }

/-- The item whose name is empty. -/
def itemCall : Call :=
  ⟨itemHandler, itemHandler, "show".toList, [.scalar (listScalar "")]⟩

/-- Behind a base with a path, the item without a name is linked to without a slash at the end, and
with one if its name is left to the client. -/
theorem pathPart_deferring_ne_of_empty :
    let linker : Linker := { base := ⟨none, "/api".toList⟩ }
    let surroundings : Surroundings := { handlers := ⟨[itemHandler]⟩ }
    let recording : Recording := ⟨itemHandler, [], some itemCall⟩
    let slots := Slot.ofCall (fun _ => true) (itemMethod.parameters.zip itemCall.arguments)
    linker.IsNew ∧ linker.base.IsRead ∧
      (∀ slot ∈ slots, slot.IsSound {} (Mapping.parse "{id}".toList) [] itemMethod.parameters) ∧
      Slot.Supplies {} (fun _ => some []) slots ∧
      ∃ draft deferred link,
        (linker.linkLast surroundings recording).1 = .ok draft ∧
          (draft.under .self).vars = [] ∧
          (linker.linkLast surroundings (recording.deferring fun _ => true)).1 = .ok deferred ∧
          (deferred.under .self).expand (fun _ => some []) = .ok link ∧
          pathPart link.href ≠ pathPart draft.uri := by
  intro linker surroundings recording slots
  have hparse : Mapping.parse "{id}".toList = ⟨"{id}".toList, [⟨"id".toList, false⟩]⟩ := by cbv
  have hbase : BaseUri.parse "/api".toList = .ok linker.base := by cbv
  have hdraft : (linker.linkLast surroundings recording).1 =
      .ok ⟨"/api".toList, [], Affordance.ofMethod itemMethod { href := "/api".toList }⟩ := by
    cbv
  have hdeferred : (linker.linkLast surroundings (recording.deferring fun _ => true)).1 =
      .ok ⟨"/api/{id}".toList, [], Affordance.ofMethod itemMethod
        { href := "/api/{id}".toList, vars := [⟨"id".toList, .path, false⟩] }⟩ := by
    cbv
  refine ⟨⟨rfl, rfl⟩, .inr ⟨_, hbase⟩, ?_, ?_, _, _, ⟨{ href := "/api/".toList },
    Affordance.ofMethod itemMethod
        { href := "/api/{id}".toList, vars := [⟨"id".toList, .path, false⟩] }⟩,
    hdraft, ?_, hdeferred, ?_, ?_⟩
  · rw [hparse]
    refine List.forall_mem_cons.mpr ⟨⟨fun _ => ⟨_, rfl⟩, fun _ => ?_⟩, List.forall_mem_nil _⟩
    exact .path ⟨"id".toList, false⟩ rfl rfl (by decide) rfl (by decide)
      fun argument h => absurd h List.not_mem_nil
  · refine List.forall_mem_cons.mpr ⟨?_, List.forall_mem_nil _⟩
    rintro - name scalar - hscalar
    obtain rfl := Argument.scalar.inj hscalar
    rfl
  · cbv
  · cbv
  · decide

end Linker

end Signpost
