import Mathlib
import Signpost.Proofs.Binding.Call
import Signpost.Proofs.Link.Draft
import Signpost.Proofs.Linker.Run

/-!
# Parameters that a call leaves out

An optional query parameter without an argument stays behind the href as a variable, unless a
variable of the href has its name already. The expression that is printed for these variables
continues the query of the href, or starts one if the first of them is the first parameter left out.
The names of optional parameters are not looked at, as those of required ones are, so that a link to
a call is a usable template only as long as all of them can stand in one.

## Main definitions

* `Given.leftOut?`, `Linker.Request.leftOut`: the names of the parameters that are left out.

## Main results

* `Linker.trailing_linkLast`: what becomes of the parameters that a call leaves out.
* `Linker.isUsable_handle_iff`: which links are usable templates.
-/

namespace Signpost

/-! ### Names of parameters that are left out -/

namespace Given

/-- The name of the parameter, if it is an optional one of the query that got no argument. -/
def leftOut? (given : Given) : Option Text :=
  match given.2 with
  | .absent => if given.1.isRequired then none else given.1.queryName?
  | _ => none

variable {given : Given} {name : Text}

theorem queryName?_of_leftOut? (h : given.leftOut? = some name) :
    given.1.queryName? = some name := by
  rw [leftOut?] at h
  split at h
  · split at h
    · exact absurd h (by simp)
    · exact h
  · exact absurd h (by simp)

theorem omitted_eq (formatters : Formatters) (given : Given) :
    given.omitted formatters = given.leftOut?.toList := by
  obtain ⟨parameter, argument⟩ := given
  rw [omitted]
  cases hname : parameter.queryName? with
  | none => cases argument <;> simp [leftOut?, hname]
  | some name =>
    by_cases hleft : argument = .absent ∧ parameter.isRequired = false
    · have hnone : QueryPair.ofArgument formatters parameter name argument = .ok none :=
        QueryPair.ofArgument_eq_ok_none_iff.mpr hleft
      obtain ⟨rfl, hrequired⟩ := hleft
      simp [leftOut?, hname, hnone, hrequired]
    · have hsome : QueryPair.ofArgument formatters parameter name argument ≠ .ok none :=
        fun hnone => hleft (QueryPair.ofArgument_eq_ok_none_iff.mp hnone)
      have hnone : leftOut? (parameter, argument) = none := by
        cases argument <;> simp_all [leftOut?]
      rw [hnone]
      cases hpairs : QueryPair.ofArgument formatters parameter name argument with
      | error error => simp [hpairs]
      | ok pairs? =>
        cases pairs? with
        | none => exact absurd hpairs hsome
        | some pairs => simp [hpairs]

theorem flatMap_omitted (formatters : Formatters) (givens : List Given) :
    givens.flatMap (omitted formatters) = givens.filterMap leftOut? := by
  rw [List.filterMap_eq_flatMap_toList]
  exact List.flatMap_congr fun given _ => omitted_eq formatters given

theorem sublist_filterMap_leftOut? (givens : List Given) :
    (givens.filterMap leftOut?).Sublist (givens.filterMap (·.1.queryName?)) := by
  induction givens with
  | nil => exact .slnil
  | cons given givens ih =>
    rw [List.filterMap_cons, List.filterMap_cons]
    cases hleft : given.leftOut? with
    | none =>
      cases given.1.queryName? with
      | none => exact ih
      | some name => exact ih.cons name
    | some name =>
      rw [queryName?_of_leftOut? hleft]
      exact ih.cons_cons name

end Given

/-! ### Optional variables -/

namespace Target

variable {href name : Text} {names : List Text}

theorem exploded_of_mem_optionalVariables {v : Template.Variable}
    (h : v ∈ optionalVariables href names) : v.exploded = false := by
  cases names with
  | nil => exact absurd h List.not_mem_nil
  | cons name names =>
    rcases List.mem_cons.mp h with rfl | hrest
    · rfl
    · obtain ⟨name, -, rfl⟩ := List.mem_map.mp hrest
      rfl

/-- Behind an href without a question mark, optional variables start a query, if the first of them
is not dropped. -/
theorem starts_render_optionalVariables {present : List Template.Variable}
    (hfirst : names.head? = some name) (hnew : name ∉ present.map (·.name)) (hmark : '?' ∉ href) :
    ['{', '?'] <+: Template.Variable.render false
      (Template.Variable.missingFrom present (optionalVariables href names)) := by
  obtain ⟨others, rfl⟩ := List.head?_eq_some_iff.mp hfirst
  rw [optionalVariables, if_neg hmark, Template.Variable.missingFrom_cons_of_notMem hnew]
  exact Template.starts_render rfl _

end Target

namespace Linker

variable {linker : Linker} {surroundings : Surroundings} {recording : Recording}
  {draft : LinkDraft} {call : Call} {method : Method}

/-- The names of the optional parameters that a request leaves out. -/
def Request.leftOut (surroundings : Surroundings) (request : Request) : List Text :=
  match request.called? surroundings with
  | some (call, method) => (method.parameters.zip call.arguments).filterMap Given.leftOut?
  | none => []

/-- What is known of a link to a call, whatever the linker remembers: its href is a template, and
its variables are those of the parameters that are left out. -/
theorem parse_uri_linkLast (h : (linker.linkLast surroundings recording).1 = .ok draft)
    (hcall : recording.last = some call) (hmethod : calledMethod surroundings call = .ok method) :
    (∃ template, Template.parse draft.uri = .ok template) ∧
      draft.vars = Target.optionalVariables draft.uri
        ((method.parameters.zip call.arguments).filterMap Given.leftOut?) := by
  obtain ⟨call', method', mapping, target, link, hcall', hmethod', -, htarget, hlink, rfl⟩ :=
    linkLast_eq_ok_iff.mp h
  obtain rfl := Option.some_inj.mp (hcall.symm.trans hcall')
  obtain rfl := Except.ok.inj (hmethod.symm.trans hmethod')
  obtain ⟨-, -, hvars⟩ := Target.ofCall_eq_ok_iff.mp htarget
  rw [Given.flatMap_omitted] at hvars
  exact ⟨Target.exists_parse_of_toLink hlink, hvars⟩

/-- **Which links are usable templates.** A link that a linker makes, whatever it remembers, is
printed as a template with the variables of the link exactly if all optional parameters that are
left out have names that can stand in one and, for a link to a handler as a whole, its href is a
template. -/
theorem isUsable_handle_iff {request : Request}
    (h : (linker.handle surroundings request).1 = .ok draft) :
    (draft.under .self).IsUsable ↔
      (∀ name ∈ request.leftOut surroundings, isVariableName name = true) ∧
        ∀ recording, request = .whole recording →
          ∃ template, Template.parse draft.uri = .ok template := by
  cases request with
  | whole recording =>
    have hvars : draft.vars = [] := by
      simp only [handle, linkTarget, linkHandler, mapping?_eq] at h
      cases hraw : (linker.source.answer surroundings (.ofType recording.target)).1 with
      | none => simp [hraw] at h
      | some raw =>
        simp only [hraw, Option.map_some, Except.ok.injEq] at h
        rw [← h]
    constructor
    · rintro ⟨printed, hprinted, -⟩
      rw [LinkDraft.render_under_of_vars_eq_nil hvars] at hprinted
      exact ⟨fun name hname => absurd hname List.not_mem_nil, fun _ _ => ⟨printed, hprinted⟩⟩
    · rintro ⟨-, hwhole⟩
      obtain ⟨template, htemplate⟩ := hwhole recording rfl
      rw [LinkDraft.isUsable_under_iff htemplate, hvars]
      exact fun name hname => absurd hname List.not_mem_nil
  | last recording =>
    obtain ⟨call, method, -, -, -, hcall, hmethod, -⟩ := linkLast_eq_ok_iff.mp h
    obtain ⟨⟨template, htemplate⟩, hvars⟩ := parse_uri_linkLast h hcall hmethod
    have hleftOut : draft.vars.map (·.name) = Request.leftOut surroundings (.last recording) := by
      rw [hvars, Target.map_name_optionalVariables, Request.leftOut,
        called?_last.mpr ⟨hcall, hmethod⟩]
    rw [LinkDraft.isUsable_under_iff htemplate, hleftOut]
    exact ⟨fun hnames => ⟨hnames, fun _ _ => ⟨template, htemplate⟩⟩, fun hboth => hboth.1⟩

/-- A method with an optional query parameter. -/
def browseMethod (name : Text) : Method :=
  { name := "browse".toList
    mapping := some "/people".toList
    parameters := [{ role := .query, bound := some name, demanded := false }] }

/-- The handler of the method. -/
def browseHandler (name : Text) : Handler :=
  { type := "Browse".toList, methods := [browseMethod name] }

/-- A recorded call of the method without the argument. -/
def browseRecording (name : Text) : Recording :=
  ⟨browseHandler name, [],
    some ⟨browseHandler name, browseHandler name, "browse".toList, [.absent]⟩⟩

theorem isUsable_handle_browse :
    let surroundings : Surroundings := { handlers := ⟨[browseHandler "page".toList]⟩ }
    ∃ draft, (({} : Linker).handle surroundings (.last (browseRecording "page".toList))).1 =
        .ok draft ∧
      (draft.under .self).IsUsable := by
  intro surroundings
  have hdraft : (({} : Linker).handle surroundings (.last (browseRecording "page".toList))).1 =
      .ok ⟨"/people".toList, [⟨"page".toList, .query, false⟩],
        Affordance.ofMethod (browseMethod "page".toList)
          { href := "/people".toList, vars := [⟨"page".toList, .query, false⟩] }⟩ := by
    cbv
  have hleftOut : Request.leftOut surroundings (.last (browseRecording "page".toList)) =
      ["page".toList] := by
    cbv
  refine ⟨_, hdraft, (isUsable_handle_iff hdraft).mpr ⟨?_, ?_⟩⟩
  · rw [hleftOut]
    decide
  · intro _ hwhole
    cases hwhole

theorem not_isUsable_linkLast_browse :
    let surroundings : Surroundings := { handlers := ⟨[browseHandler "first name".toList]⟩ }
    ∃ draft, (({} : Linker).linkLast surroundings (browseRecording "first name".toList)).1 =
        .ok draft ∧
      ¬(draft.under .self).IsUsable := by
  intro surroundings
  have hdraft : (({} : Linker).linkLast surroundings (browseRecording "first name".toList)).1 =
      .ok ⟨"/people".toList, [⟨"first name".toList, .query, false⟩],
        Affordance.ofMethod (browseMethod "first name".toList)
          { href := "/people".toList, vars := [⟨"first name".toList, .query, false⟩] }⟩ := by
    cbv
  have hparse : Template.parse "/people".toList =
      .ok ⟨"/people".toList, [.literal "/people".toList]⟩ := by
    cbv
  refine ⟨_, hdraft, fun husable => ?_⟩
  have hname := (LinkDraft.isUsable_under_iff hparse).mp husable "first name".toList
    (List.mem_map_of_mem List.mem_cons_self)
  exact absurd hname (by decide)

/-- Optional parameters that are left out have different names if all query parameters have. -/
theorem nodup_leftOut (hmethod : calledMethod surroundings call = .ok method)
    (hnames : (method.parameters.filterMap Parameter.queryName?).Nodup) :
    ((method.parameters.zip call.arguments).filterMap Given.leftOut?).Nodup := by
  have hlength := length_arguments_of_calledMethod hmethod
  have hquery : (method.parameters.zip call.arguments).filterMap (·.1.queryName?) =
      method.parameters.filterMap Parameter.queryName? := by
    conv_rhs => rw [← List.map_fst_zip hlength.ge, List.filterMap_map]
    rfl
  rw [← hquery] at hnames
  exact hnames.sublist (Given.sublist_filterMap_leftOut? _)

/-- **What becomes of the parameters that a call leaves out.** If the query parameters of a method
have different names, then a link to a call has the variables of its href and, behind them, a query
variable for each optional parameter that is left out and whose name the href does not have, in the
order of the parameters. No parameter that is left out is lost. What is printed for these variables
behind the href continues a query that is there, and starts one if there is none and the first
parameter left out is among them. -/
theorem trailing_linkLast (h : (linker.linkLast surroundings recording).1 = .ok draft)
    (hcall : recording.last = some call) (hmethod : calledMethod surroundings call = .ok method)
    (hnames : (method.parameters.filterMap Parameter.queryName?).Nodup) :
    let link := (draft.under .self).toLink
    let leftOut := (method.parameters.zip call.arguments).filterMap Given.leftOut?
    link.vars = link.embedded ++ link.trailing ∧
      link.trailing.map (·.name) = leftOut.filter (· ∉ link.embedded.map (·.name)) ∧
      (∀ v ∈ link.trailing, v.kind.isQuery = true ∧ v.exploded = false) ∧
      (∀ name ∈ leftOut, name ∈ link.names) ∧
      ∃ behind, link.render = link.href ++ behind ∧
        (link.trailing = [] → behind = []) ∧
        (link.trailing ≠ [] → '?' ∈ link.href → ['{', '&'] <+: behind) ∧
        ∀ name ∈ leftOut.head?, name ∉ link.embedded.map (·.name) → '?' ∉ link.href →
          ['{', '?'] <+: behind := by
  intro link leftOut
  obtain ⟨-, hvars⟩ := parse_uri_linkLast h hcall hmethod
  change draft.vars = Target.optionalVariables draft.uri leftOut at hvars
  have hhref : link.href = draft.uri := draft.href_under .self
  have hleftOut : draft.vars.map (·.name) = leftOut := by
    rw [hvars, Target.map_name_optionalVariables]
  have hnodup : (draft.vars.map (·.name)).Nodup := by
    rw [hleftOut]
    exact nodup_leftOut hmethod hnames
  have htrailing : link.trailing = Template.Variable.missingFrom link.embedded draft.vars :=
    LinkDraft.trailing_under .self hnodup
  have hquery : ∀ v ∈ link.trailing, v.kind.isQuery = true ∧ v.exploded = false := by
    intro v hv
    rw [htrailing, hvars] at hv
    obtain ⟨hmem, -⟩ := Template.Variable.mem_missingFrom_iff.mp hv
    exact ⟨Target.isQuery_of_mem_optionalVariables hmem,
      Target.exploded_of_mem_optionalVariables hmem⟩
  refine ⟨(draft.isMade_under .self).vars_eq, ?_, hquery, fun name hname => ?_,
    Template.Variable.render ('?' ∈ link.href) link.trailing, rfl, fun hnil => ?_,
    fun hne hmark => ?_, fun name hfirst hnew hmark => ?_⟩
  · rw [htrailing, Template.Variable.map_name_missingFrom, hleftOut]
  · exact LinkDraft.names_under_of_mem .self (hleftOut ▸ hname)
  · rw [hnil, Template.Variable.render]
  · obtain ⟨v, rest, hcons⟩ := List.exists_cons_of_ne_nil hne
    have hv : v.kind.isQuery = true := (hquery v (hcons ▸ List.mem_cons_self)).1
    rw [hcons, decide_eq_true hmark]
    exact Template.continues_render hv rest
  · rw [decide_eq_false hmark, htrailing, hvars]
    exact Target.starts_render_optionalVariables hfirst hnew (hhref ▸ hmark)

/-- A method with an optional query parameter of the same name as a variable of its path. -/
def memberMethod : Method :=
  { name := "members".toList
    mapping := some "/groups/{id}".toList
    parameters := [{ role := .path, bound := some "id".toList },
      { role := .query, bound := some "page".toList, demanded := false },
      { role := .query, bound := some "id".toList, demanded := false },
      { role := .query, bound := some "size".toList, demanded := false }] }

/-- The handler of the method. -/
def memberHandler : Handler :=
  { type := "Group".toList, methods := [memberMethod] }

/-- A call of the method without any argument. -/
def memberCall : Call :=
  ⟨memberHandler, memberHandler, "members".toList, [.absent, .absent, .absent, .absent]⟩

/-- What the call is linked to. -/
def memberDraft : LinkDraft :=
  { uri := "/groups/{id}".toList
    vars := [⟨"page".toList, .query, false⟩, ⟨"id".toList, .queryContinued, false⟩,
      ⟨"size".toList, .queryContinued, false⟩]
    affordances := Affordance.ofMethod memberMethod
      { href := "/groups/{id}".toList
        vars := [⟨"id".toList, .path, false⟩, ⟨"page".toList, .query, false⟩,
          ⟨"size".toList, .queryContinued, false⟩] } }

theorem linkLast_member :
    (({} : Linker).linkLast { handlers := ⟨[memberHandler]⟩ }
      ⟨memberHandler, [], some memberCall⟩).1 = .ok memberDraft := by
  cbv

theorem trailing_linkLast_member :
    (({} : Linker).linkLast { handlers := ⟨[memberHandler]⟩ }
        ⟨memberHandler, [], some memberCall⟩).1 = .ok memberDraft ∧
      (memberDraft.under .self).trailing.map (·.name) = ["page".toList, "size".toList] ∧
      ∃ behind, (memberDraft.under .self).render = "/groups/{id}".toList ++ behind ∧
        ['{', '?'] <+: behind := by
  have hmethod : calledMethod { handlers := ⟨[memberHandler]⟩ } memberCall = .ok memberMethod := by
    cbv
  have hembedded : (memberDraft.under .self).embedded = [⟨"id".toList, .path, false⟩] := by cbv
  have hhref : (memberDraft.under .self).href = "/groups/{id}".toList :=
    memberDraft.href_under .self
  obtain ⟨-, hnames, -, -, behind, hrender, -, -, hstart⟩ :=
    trailing_linkLast linkLast_member rfl hmethod (by decide)
  rw [hembedded] at hnames hstart
  rw [hhref] at hrender hstart
  exact ⟨linkLast_member, hnames, behind, hrender,
    hstart "page".toList rfl (by decide) (by decide)⟩

theorem not_isQuery_linkLast_member :
    (({} : Linker).linkLast { handlers := ⟨[memberHandler]⟩ }
        ⟨memberHandler, [], some memberCall⟩).1 = .ok memberDraft ∧
      "id".toList ∈ (memberMethod.parameters.zip memberCall.arguments).filterMap Given.leftOut? ∧
      ¬∃ v ∈ (memberDraft.under .self).vars, v.name = "id".toList ∧ v.kind.isQuery = true := by
  have hvars : (memberDraft.under .self).vars = [⟨"id".toList, .path, false⟩,
      ⟨"page".toList, .query, false⟩, ⟨"size".toList, .queryContinued, false⟩] := by
    cbv
  refine ⟨linkLast_member, by decide, ?_⟩
  rw [hvars]
  decide

end Linker

end Signpost
