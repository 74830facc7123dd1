import Signpost.Link.Draft
import Signpost.Proofs.Binding.Slots
import Signpost.Proofs.Link.Variables

/-!
# Links with arguments left to the client

Take a link without variables to a call, and leave some of the arguments of the call to the client.
The link is then a template. Once the client has filled it in, its query holds what the direct link
holds, except that the optional parameters among those arguments come last, and its path is the path
of the direct link, except for one slash: what stands in front of a path depends on its first
character, and a path that begins with a variable gets a slash even where its values give none.

## Main definitions

* `Deferral`: a link without variables to a call, and arguments that may be left to the client.
* `Target.filledPath`: the path of the link with arguments left to the client, once it is filled in.

## Main results

* `Deferral.exists_defers_href`: the link with arguments left to the client as a template.
* `Deferral.expand_later`: what it expands to.
-/

namespace Signpost

/-! ### Names -/

namespace Slot

variable {slots : List Slot} {names : List Text}

theorem perm_postponed_kept (slots : List Slot) : (postponed slots ++ kept slots).Perm slots :=
  List.filter_append_perm _ slots

/-- The names of postponed arguments are new to everything else that is left to the client. -/
theorem notMem_of_mem_postponed
    (hnodup : (names ++ slots.filterMap (·.parameter.queryName?)).Nodup) {name : Text}
    (hname : name ∈ (postponed slots).filterMap (·.parameter.queryName?)) :
    name ∉ names ++ (kept slots).filterMap (·.parameter.queryName?) := by
  have hperm := (perm_postponed_kept slots).filterMap (·.parameter.queryName?)
  rw [List.filterMap_append] at hperm
  obtain ⟨-, hquery, hdisjoint⟩ := List.nodup_append.mp hnodup
  obtain ⟨-, -, hdisjoint'⟩ := List.nodup_append.mp (hperm.nodup_iff.mpr hquery)
  intro hmem
  rcases List.mem_append.mp hmem with hnames | hkept
  · exact hdisjoint name hnames name (hperm.subset (List.mem_append_left _ hname)) rfl
  · exact hdisjoint' name hname name hkept rfl

theorem nodup_postponed (hnodup : (names ++ slots.filterMap (·.parameter.queryName?)).Nodup) :
    ((postponed slots).filterMap (·.parameter.queryName?)).Nodup :=
  (List.nodup_append.mp hnodup).2.1.sublist ((List.filter_sublist).filterMap _)

end Slot

/-! ### Filled paths -/

namespace Target

/-- The path of a link once the client has filled it in, from the path with variables and the path
with all values. Where it begins with a variable, it got a slash before it was filled in, and keeps
it even if the values begin with one or give nothing. -/
def filledPath (deferred direct : Text) : Text :=
  if deferred.head? = some '{' ∧ direct.head?.all (· = '/') then '/' :: direct else direct

theorem notMem_filledPath {c : Char} (hslash : c ≠ '/') {direct : Text} (h : c ∉ direct)
    (deferred : Text) : c ∉ filledPath deferred direct := by
  rw [filledPath]
  split
  · simp [hslash, h]
  · exact h

/-- The lead of a path with variables, in front of the path with all values. -/
theorem lead_append_of_defers {base : BaseUri} {lookup : Text → Option Text} {names : List Text}
    {parts : List Template.Part} {deferred direct : Text}
    (h : Template.Defers lookup names parts deferred direct)
    (hdirect : ∀ c, Uri.EndsPath c → c ∉ direct) :
    base.lead deferred.head? ++ direct = base.resolve (filledPath deferred direct) := by
  rw [filledPath]
  rcases h.head with hbrace | hsame
  · have hlead := base.lead_brace_append hdirect
    simpa [hbrace] using hlead
  · by_cases hbrace : deferred.head? = some '{'
    · have hordinary : ¬ (direct.head?.all (· = '/')) = true := by
        rw [← hsame, hbrace]
        decide
      rw [if_neg fun hboth => hordinary hboth.2, hsame, BaseUri.resolve_eq_lead_append]
    · rw [if_neg fun hboth => hbrace hboth.1, hsame, BaseUri.resolve_eq_lead_append]

end Target

/-! ### Both ways -/

/-- A link without variables to a call, and arguments of the call that the client may as well fill
in. -/
structure Deferral (base : BaseUri) (formatters : Formatters) (raw : Text)
    (classLevel : List Argument) (slots : List Slot) (lookup : Text → Option Text) : Prop where
  noQueryInBase : '?' ∉ base.display
  pathOnly : ∀ c, Uri.EndsPath c → c ∉ raw
  bindable : ∀ slot ∈ slots, slot.now.IsBindable formatters
  sound : ∀ slot ∈ slots,
    slot.IsSound formatters (Mapping.parse raw) classLevel (slots.map (·.parameter))
  names : ((Mapping.parse raw).vars.map (·.name) ++
    slots.filterMap (·.parameter.queryName?)).Nodup
  valid : ∀ name ∈ (Mapping.parse raw).vars.map (·.name) ++
    slots.filterMap (·.parameter.queryName?), isVariableName name = true
  supplies : Slot.Supplies formatters lookup slots
  noOpen : '{' ∉ Target.hrefOf base formatters (Mapping.parse raw) classLevel (slots.map Slot.now)
  noClose : '}' ∉ Target.hrefOf base formatters (Mapping.parse raw) classLevel (slots.map Slot.now)
  given : ∀ slot ∈ slots, slot.now.omitted formatters = []

namespace Slot

/-- The target of a call with arguments left to the client. -/
def laterTarget (base : BaseUri) (formatters : Formatters) (raw : Text)
    (classLevel : List Argument) (slots : List Slot) : Target :=
  let href := Target.hrefOf base formatters (Mapping.parse raw) classLevel (slots.map later)
  ⟨href, Target.optionalVariables href ((slots.map later).flatMap (Given.omitted formatters))⟩

end Slot

namespace Deferral

variable {base : BaseUri} {formatters : Formatters} {raw : Text} {classLevel : List Argument}
  {slots : List Slot} {lookup : Text → Option Text}

/-- The names that a link with arguments left to the client may hold. -/
def openNames (raw : Text) (slots : List Slot) : List Text :=
  (Mapping.parse raw).vars.map (·.name) ++
    (Slot.kept slots).filterMap (·.parameter.queryName?)

theorem notMem_pathOf (h : Deferral base formatters raw classLevel slots lookup)
    (givens : List Given) (c : Char) (hc : Uri.EndsPath c) :
    c ∉ Given.pathOf formatters (Mapping.parse raw) classLevel givens :=
  Given.notMem_pathOf hc (h.pathOnly c hc) formatters classLevel givens

theorem hrefOf_eq (h : Deferral base formatters raw classLevel slots lookup)
    (givens : List Given) :
    Target.hrefOf base formatters (Mapping.parse raw) classLevel givens =
      base.lead (Given.pathOf formatters (Mapping.parse raw) classLevel givens).head? ++
        (Given.pathOf formatters (Mapping.parse raw) classLevel givens ++
          QueryPair.queryText (givens.flatMap (Given.pairs formatters))) := by
  have hpath := h.notMem_pathOf givens '?' (.inl rfl)
  rw [Target.hrefOf, QueryPair.resolve_attach, QueryPair.attach_eq_append hpath]

/-- What does not occur in the link occurs neither in its base nor in its path nor in its pairs. -/
theorem notMem_of_notMem_hrefOf (h : Deferral base formatters raw classLevel slots lookup)
    {c : Char}
    (hc : c ∉ Target.hrefOf base formatters (Mapping.parse raw) classLevel (slots.map Slot.now)) :
    c ∉ base.display ∧
      c ∉ Given.pathOf formatters (Mapping.parse raw) classLevel (slots.map Slot.now) ∧
      ∀ pair ∈ (slots.map Slot.now).flatMap (Given.pairs formatters), c ∉ pair.render := by
  rw [h.hrefOf_eq, List.mem_append, List.mem_append, not_or, not_or] at hc
  exact ⟨fun hmem => hc.1 (BaseUri.mem_lead_of_mem_display hmem _), hc.2.1,
    fun pair hpair hmem => hc.2.2 (QueryPair.mem_queryText hpair hmem)⟩

theorem fate (h : Deferral base formatters raw classLevel slots lookup) {slot : Slot}
    (hslot : slot ∈ slots) : slot.later.IsBindable formatters ∧ slot.Fate formatters :=
  Slot.fate (h.sound slot hslot) (h.bindable slot hslot) fun name hname =>
    h.valid name (List.mem_append_right _ (List.mem_filterMap.mpr ⟨slot, hslot, hname⟩))

theorem placeholder_notMem (h : Deferral base formatters raw classLevel slots lookup) {slot : Slot}
    (hslot : slot ∈ slots) (name : Text) : .placeholder name ∉ slot.now.pairs formatters := by
  intro hmem
  refine (h.notMem_of_notMem_hrefOf h.noOpen).2.2 (.placeholder name) ?_ ?_
  · exact List.mem_flatMap.mpr ⟨slot.now, List.mem_map_of_mem hslot, hmem⟩
  · simp [QueryPair.render]

theorem waits (h : Deferral base formatters raw classLevel slots lookup) {name text : Text}
    (hwaits : Slot.Waits formatters raw slots name text) :
    name ∈ openNames raw slots ∧ isVariableName name = true ∧ lookup name = some text := by
  obtain ⟨⟨slot, hslot, hlate, hname, scalar, hscalar, rfl⟩, v, hv, -, rfl⟩ := hwaits
  have hmem : v.name ∈ (Mapping.parse raw).vars.map (·.name) := List.mem_map_of_mem hv
  exact ⟨List.mem_append_left _ hmem, h.valid _ (List.mem_append_left _ hmem),
    h.supplies slot hslot hlate _ _ hname hscalar⟩

/-- The path with arguments left to the client stands for the path with all of them. -/
theorem exists_defers_pathOf (h : Deferral base formatters raw classLevel slots lookup) :
    ∃ parts, Template.Defers lookup (openNames raw slots) parts
      (Given.pathOf formatters (Mapping.parse raw) classLevel (slots.map Slot.later))
      (Given.pathOf formatters (Mapping.parse raw) classLevel (slots.map Slot.now)) :=
  Slot.exists_defers_pathOf h.sound (fun _ _ => h.waits)
    (h.notMem_of_notMem_hrefOf h.noOpen).2.1 (h.notMem_of_notMem_hrefOf h.noClose).2.1

/-- What stands in front of the path with variables is put in front of the path with all values.
This is how the filled path is resolved. -/
theorem lead_append_attach (h : Deferral base formatters raw classLevel slots lookup)
    (pairs : List QueryPair) :
    let later := Given.pathOf formatters (Mapping.parse raw) classLevel (slots.map Slot.later)
    let now := Given.pathOf formatters (Mapping.parse raw) classLevel (slots.map Slot.now)
    base.lead later.head? ++ QueryPair.attach now pairs =
      base.resolve (QueryPair.attach (Target.filledPath later now) pairs) := by
  intro later now
  have hnow : '?' ∉ now := h.notMem_pathOf (slots.map Slot.now) '?' (.inl rfl)
  have hfilled : '?' ∉ Target.filledPath later now :=
    Target.notMem_filledPath (by decide) hnow later
  obtain ⟨parts, hparts⟩ := h.exists_defers_pathOf
  have hlead : base.lead later.head? ++ now = base.resolve (Target.filledPath later now) :=
    Target.lead_append_of_defers hparts (h.notMem_pathOf (slots.map Slot.now))
  rw [QueryPair.resolve_attach, QueryPair.attach_eq_append hfilled,
    QueryPair.attach_eq_append hnow, ← List.append_assoc, ← List.append_assoc, hlead,
    BaseUri.resolve_eq_lead_append]

/-- The link with arguments left to the client stands for the link without its postponed pairs. -/
theorem exists_defers_href (h : Deferral base formatters raw classLevel slots lookup) :
    let later := Given.pathOf formatters (Mapping.parse raw) classLevel (slots.map Slot.later)
    let now := Given.pathOf formatters (Mapping.parse raw) classLevel (slots.map Slot.now)
    ∃ parts, Template.Defers lookup (openNames raw slots) parts
      (Slot.laterTarget base formatters raw classLevel slots).href
      (base.lead later.head? ++
        QueryPair.attach now
          (((Slot.kept slots).map Slot.now).flatMap (Given.pairs formatters))) := by
  intro later now
  have hfate : ∀ slot ∈ slots, slot.Fate formatters := fun slot hslot => (h.fate hslot).2
  have hclosed : ∀ slot ∈ slots, ∀ name, .placeholder name ∉ slot.now.pairs formatters :=
    fun slot hslot => h.placeholder_notMem hslot
  have hlead {c : Char} (hslash : c ≠ '/') (hc : c ∉ base.display) : c ∉ base.lead later.head? :=
    BaseUri.notMem_lead hslash hc later.head?
  have hfront : Template.Defers lookup (openNames raw slots) [.literal (base.lead later.head?)]
      (base.lead later.head?) (base.lead later.head?) :=
    .literal (hlead (by decide) (h.notMem_of_notMem_hrefOf h.noOpen).1)
      (hlead (by decide) (h.notMem_of_notMem_hrefOf h.noClose).1)
  obtain ⟨pathParts, hpath⟩ := h.exists_defers_pathOf
  have hquery : Template.Defers lookup (openNames raw slots)
      (QueryPair.partsOf ((slots.map Slot.later).flatMap (Given.pairs formatters)))
      (QueryPair.queryText ((slots.map Slot.later).flatMap (Given.pairs formatters)))
      (QueryPair.queryText (((slots.map Slot.later).flatMap (Given.pairs formatters)).map
        (QueryPair.fill lookup))) := by
    refine QueryPair.defers_partsOf (fun pair => Given.wellFormed_of_mem_flatMap_pairs) ?_
    intro name hmem
    obtain ⟨hname, hsome⟩ := Slot.placeholder_mem_later h.supplies hfate hclosed hmem
    exact ⟨List.mem_append_right _ hname, hsome⟩
  rw [Slot.map_fill_pairs h.supplies hfate hclosed] at hquery
  have hhref : (Slot.laterTarget base formatters raw classLevel slots).href = _ :=
    h.hrefOf_eq (slots.map Slot.later)
  rw [hhref, QueryPair.attach_eq_append (h.notMem_pathOf (slots.map Slot.now) '?' (.inl rfl))]
  exact ⟨_, hfront.append (hpath.append hquery)⟩

/-- The variables behind the template are those of the postponed arguments. -/
theorem map_name_vars (h : Deferral base formatters raw classLevel slots lookup) :
    (Slot.laterTarget base formatters raw classLevel slots).vars.map (·.name) =
      (Slot.postponed slots).filterMap (·.parameter.queryName?) :=
  (Target.map_name_optionalVariables _ _).trans
    (Slot.omitted_later (fun _ hslot => (h.fate hslot).2) h.given)

/-- The pairs that the variables behind the template add. -/
theorem map_value_vars (h : Deferral base formatters raw classLevel slots lookup) :
    (Slot.laterTarget base formatters raw classLevel slots).vars.map
        (fun v => QueryPair.value v.name ((lookup v.name).getD [])) =
      ((Slot.postponed slots).map Slot.now).flatMap (Given.pairs formatters) := by
  have hnames : (Slot.laterTarget base formatters raw classLevel slots).vars.map (·.name) =
      (slots.map Slot.later).flatMap (Given.omitted formatters) :=
    Target.map_name_optionalVariables _ _
  rw [Slot.pairs_postponed h.supplies (fun _ hslot => (h.fate hslot).2) h.given, ← hnames,
    List.map_map]
  rfl

theorem mem_postponed_of_mem_vars (h : Deferral base formatters raw classLevel slots lookup)
    {v : Template.Variable}
    (hv : v ∈ (Slot.laterTarget base formatters raw classLevel slots).vars) :
    v.name ∈ (Slot.postponed slots).filterMap (·.parameter.queryName?) :=
  h.map_name_vars ▸ List.mem_map_of_mem hv

/-- The client has a value for every variable behind the template. -/
theorem lookup_of_mem_vars (h : Deferral base formatters raw classLevel slots lookup)
    {v : Template.Variable}
    (hv : v ∈ (Slot.laterTarget base formatters raw classLevel slots).vars) :
    v.kind.isQuery = true ∧ lookup v.name = some ((lookup v.name).getD []) := by
  have hsome : (lookup v.name).isSome = true :=
    Slot.isSome_lookup_of_postponed h.supplies (fun _ hslot => (h.fate hslot).2)
      (h.mem_postponed_of_mem_vars hv)
  obtain ⟨text, htext⟩ := Option.isSome_iff_exists.mp hsome
  exact ⟨Target.isQuery_of_mem_optionalVariables hv, by rw [htext, Option.getD_some]⟩

/-- **The link with arguments left to the client** is a template, and expands to the link with its
postponed pairs last and with its path as it is filled in. -/
theorem expand_later (h : Deferral base formatters raw classLevel slots lookup) :
    let target := Slot.laterTarget base formatters raw classLevel slots
    let later := Given.pathOf formatters (Mapping.parse raw) classLevel (slots.map Slot.later)
    let now := Given.pathOf formatters (Mapping.parse raw) classLevel (slots.map Slot.now)
    (∃ link, target.toLink = .ok link) ∧
      ((Link.ofHref target.href).addVars target.vars).expand lookup = .ok
        { href := base.resolve (QueryPair.attach (Target.filledPath later now)
            (((Slot.kept slots ++ Slot.postponed slots).map Slot.now).flatMap
              (Given.pairs formatters))) } := by
  intro target later now
  obtain ⟨parts, hparts⟩ := h.exists_defers_href
  have hrender : target.href = parts.flatMap Template.Part.render := hparts.render.symm
  have hparse := Template.parse_flatMap_render hparts.yields.wellFormed
  have hnew : ∀ v ∈ target.vars, v.name ∉ Template.names ⟨parts.flatMap Template.Part.render,
      Template.mergeLiterals [] parts⟩ := by
    intro v hv hmem
    rw [Template.names, Template.vars, Template.flatMap_vars_mergeLiterals] at hmem
    obtain ⟨w, hw, hname⟩ := List.mem_map.mp hmem
    exact Slot.notMem_of_mem_postponed h.names (h.mem_postponed_of_mem_vars hv)
      (hname ▸ hparts.names w hw)
  have hnodup : (target.vars.map (·.name)).Nodup :=
    h.map_name_vars ▸ Slot.nodup_postponed h.names
  refine ⟨?_, ?_⟩
  · rw [Target.toLink, hrender, Link.parse, hparse]
    exact ⟨_, rfl⟩
  · rw [hrender, Link.expand_addVars hparse hnew hnodup, Template.expand,
      Template.foldlM_mergeLiterals, hparts.yields.expand, Except.ok_bind, List.nil_append,
      List.nil_append, QueryPair.foldlM_queryVars
        (BaseUri.notMem_lead (by decide) h.noQueryInBase _)
        (h.notMem_pathOf (slots.map Slot.now) '?' (.inl rfl))
        (fun name => (lookup name).getD []) target.vars _ fun v hv => h.lookup_of_mem_vars hv,
      h.map_value_vars, ← List.flatMap_append, ← List.map_append, h.lead_append_attach]
    rfl

end Deferral

end Signpost
