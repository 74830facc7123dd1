import Signpost.Proofs.Link.Variables
import Signpost.Proofs.Template.Rendering

/-!
# The printed form of a link

A link is printed as its href with expressions for the variables behind it. If the href is a
template and the names of these variables can stand in one, then the printed form is a template too:
it holds the variables of the link in their order and expands as the link does. Neither the
expressions that variables share nor the operators that are chosen for them change what the link
means.

## Main definitions

* `Link.IsUsable`: a link whose printed form is a template with the variables of the link.

## Main results

* `Link.IsMade.forall₂_agrees_parse_render`: what the printed form of a link means.
* `Link.IsMade.isUsable_iff`: which links to a template are usable.
-/

namespace Signpost.Link

variable {link : Link} {template : Template}

/-- What the printed form of a link is read as. -/
theorem parse_render (hhref : Template.parse link.href = .ok template)
    (hnames : ∀ v ∈ link.trailing, isVariableName v.name = true) :
    Template.parse link.render =
      .ok ⟨link.render,
        template.parts ++ Template.expressions ('?' ∈ link.href) link.trailing⟩ := by
  obtain ⟨-, hreads⟩ := Template.parse_eq_ok_iff.mp hhref
  have hbehind := Template.reads_expressions ('?' ∈ link.href) hnames
  have hbrace : ∀ c, (Template.Variable.render ('?' ∈ link.href) link.trailing).head? = some c →
      c = '{' := by
    intro c hc
    cases htrailing : link.trailing with
    | nil =>
      rw [htrailing] at hc
      exact absurd hc (by simp [Template.Variable.render])
    | cons v rest =>
      rw [htrailing] at hc
      exact (Option.some_inj.mp hc).symm
  exact Template.parse_eq_ok_iff.mpr ⟨rfl, hreads.append hbehind hbrace⟩

/-- The printed form holds the variables of the href and those behind it. -/
theorem forall₂_agrees_vars (template : Template) (link : Link) (source : Text) :
    List.Forall₂ Template.Variable.Agrees (template.vars ++ link.trailing)
      (Template.vars ⟨source,
        template.parts ++ Template.expressions ('?' ∈ link.href) link.trailing⟩) := by
  have hsame : List.Forall₂ Template.Variable.Agrees template.vars template.vars :=
    List.forall₂_same.mpr fun v _ => .refl v
  have hbehind := Template.forall₂_agrees_expressions ('?' ∈ link.href) link.trailing
  have hvars : Template.vars ⟨source,
      template.parts ++ Template.expressions ('?' ∈ link.href) link.trailing⟩ = template.vars ++
        (Template.expressions ('?' ∈ link.href) link.trailing).flatMap Template.Part.vars :=
    List.flatMap_append
  rw [hvars]
  exact List.rel_append hsame hbehind

/-- The printed form of a link holds the variables of the link in their order. -/
theorem IsMade.parse_render (h : link.IsMade) (hhref : Template.parse link.href = .ok template)
    (hnames : ∀ v ∈ link.vars, isVariableName v.name = true) :
    let printed : Template := ⟨link.render,
      template.parts ++ Template.expressions ('?' ∈ link.href) link.trailing⟩
    Template.parse link.render = .ok printed ∧
      List.Forall₂ Template.Variable.Agrees link.vars printed.vars := by
  intro printed
  have hvars : link.vars = template.vars ++ link.trailing := by
    rw [← embedded_of_parse hhref]
    exact h.vars_eq
  have htrailing : ∀ v ∈ link.trailing, isVariableName v.name = true := by
    intro v hv
    refine hnames v ?_
    rw [hvars]
    exact List.mem_append_right template.vars hv
  refine ⟨Link.parse_render hhref htrailing, ?_⟩
  rw [hvars]
  exact forall₂_agrees_vars template link link.render

/-- **The printed form of a link means what the link means.** Take any link to a template that was
extended by any variables whose names can stand in a template. Its printed form is a template, which
holds the variables of the link in their order, under the same names, with the same marks and with
the same kinds up to how a query is started. For any values it expands to the same text, or
fails with the same error. -/
theorem IsMade.forall₂_agrees_parse_render (h : link.IsMade)
    (hhref : Template.parse link.href = .ok template)
    (hnames : ∀ v ∈ link.vars, isVariableName v.name = true) :
    ∃ printed, Template.parse link.render = .ok printed ∧
      List.Forall₂ Template.Variable.Agrees link.vars printed.vars ∧
      ∀ lookup, printed.expand lookup = (link.expand lookup).map (·.href) := by
  obtain ⟨hparse, hagrees⟩ := h.parse_render hhref hnames
  refine ⟨_, hparse, hagrees, fun lookup => ?_⟩
  rw [expand_eq hhref, Template.expand, List.foldlM_append, Template.expand]
  cases template.parts.foldlM (Template.expandPart lookup) [] with
  | error error => rfl
  | ok out =>
    -- What is behind the href expands in the same way, printed or not.
    rw [Except.ok_bind, Except.ok_bind, Template.foldlM_expressions]
    cases link.trailing.foldlM (Template.expandVar lookup) out with
    | error error => rfl
    | ok href => rfl

theorem forall₂_agrees_parse_render_people :
    let link : Link := (ofHref "/people/{id}{?page}".toList).addVars
      [⟨"page".toList, .path, false⟩, ⟨"sort".toList, .query, false⟩,
        ⟨"size".toList, .queryContinued, false⟩, ⟨"rest".toList, .segment, true⟩,
        ⟨"top".toList, .fragment, false⟩]
    link.render = "/people/{id}{?page}{&sort,size}{/rest*}\x7b#top\x7d".toList ∧
      ∃ printed, Template.parse link.render = .ok printed ∧
        List.Forall₂ Template.Variable.Agrees link.vars printed.vars ∧
        ∀ lookup, printed.expand lookup = (link.expand lookup).map (·.href) := by
  intro link
  have hrender : link.render = "/people/{id}{?page}{&sort,size}{/rest*}\x7b#top\x7d".toList := by
    cbv
  have hhref : Template.parse link.href =
      .ok ⟨"/people/{id}{?page}".toList, [.literal "/people/".toList,
        .expression [⟨"id".toList, .path, false⟩],
        .expression [⟨"page".toList, .query, false⟩]]⟩ := by
    cbv
  have hnames : ∀ v ∈ link.vars, isVariableName v.name = true := by
    have hvars : link.vars = [⟨"id".toList, .path, false⟩, ⟨"page".toList, .query, false⟩,
        ⟨"sort".toList, .query, false⟩, ⟨"size".toList, .queryContinued, false⟩,
        ⟨"rest".toList, .segment, true⟩, ⟨"top".toList, .fragment, false⟩] := by
      cbv
    rw [hvars]
    decide
  exact ⟨hrender, ((IsMade.ofHref _).addVars _).forall₂_agrees_parse_render hhref hnames⟩

/-! ### Usable links -/

/-- The printed form of the link is a template with the variables of the link. -/
def IsUsable (link : Link) : Prop :=
  ∃ printed, Template.parse link.render = .ok printed ∧ printed.names = link.names

/-- A link to a template is usable exactly if all its variables have names that can stand in one. -/
theorem IsMade.isUsable_iff (h : link.IsMade) (hhref : Template.parse link.href = .ok template) :
    link.IsUsable ↔ ∀ name ∈ link.names, isVariableName name = true := by
  constructor
  · rintro ⟨printed, hprinted, hsame⟩ name hname
    obtain ⟨-, hreads⟩ := Template.parse_eq_ok_iff.mp hprinted
    rw [← hsame] at hname
    obtain ⟨v, hv, rfl⟩ := List.mem_map.mp hname
    exact hreads.isVariableName hv
  · intro hnames
    have hvars : ∀ v ∈ link.vars, isVariableName v.name = true :=
      fun v hv => hnames v.name (List.mem_map_of_mem hv)
    obtain ⟨hparse, hagrees⟩ := h.parse_render hhref hvars
    exact ⟨_, hparse, (Template.Variable.Agrees.map_name_eq hagrees).symm⟩

end Signpost.Link
