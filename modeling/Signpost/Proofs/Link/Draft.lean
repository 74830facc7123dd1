import Signpost.Link.Draft
import Signpost.Proofs.Link.Printed

/-!
# Drafts as links

A draft holds a URI and the variables beside it. The link that is made of it has the variables of
its URI and, behind them, those of the draft under names the URI does not have.

## Main results

* `LinkDraft.trailing_under`: the variables behind the href of the link.
* `LinkDraft.isUsable_under_iff`: when the link is usable.
-/

namespace Signpost.LinkDraft

variable {draft : LinkDraft} {rel : LinkRelation} {template : Template}

theorem isMade_under (draft : LinkDraft) (rel : LinkRelation) : (draft.under rel).IsMade :=
  ((Link.IsMade.ofHref draft.uri).addVars draft.vars).under rel

theorem href_under (draft : LinkDraft) (rel : LinkRelation) :
    (draft.under rel).href = draft.uri :=
  Link.href_ofHref draft.uri

theorem vars_under (hparse : Template.parse draft.uri = .ok template) (rel : LinkRelation) :
    (draft.under rel).vars = Link.appendNew template.vars draft.vars := by
  simp only [under, Link.under, Link.ofHref_of_parse hparse, Link.addVars]

/-- The variables behind the href of the link are those of the draft that the href does not have, if
their names are different. -/
theorem trailing_under (rel : LinkRelation) (hnodup : (draft.vars.map (·.name)).Nodup) :
    (draft.under rel).trailing =
      Template.Variable.missingFrom (draft.under rel).embedded draft.vars :=
  Link.trailing_ofHref_addVars draft.uri hnodup

/-- The variables behind the href of the link are variables of the draft. -/
theorem mem_vars_of_mem_trailing {v : Template.Variable} (hv : v ∈ (draft.under rel).trailing) :
    v ∈ draft.vars := by
  obtain ⟨hmem, hnew⟩ := Template.Variable.mem_missingFrom_iff.mp hv
  rcases Link.mem_of_mem_appendNew hmem with hembedded | hdraft
  · rw [← Link.embedded_ofHref] at hembedded
    exact absurd (List.mem_map_of_mem hembedded) hnew
  · exact hdraft

theorem names_under_of_mem {name : Text} (rel : LinkRelation)
    (h : name ∈ draft.vars.map (·.name)) : name ∈ (draft.under rel).names :=
  Link.mem_map_name_appendNew_iff.mpr (.inr h)

/-- A draft without variables prints as its URI. -/
theorem render_under_of_vars_eq_nil (hvars : draft.vars = []) :
    (draft.under rel).render = draft.uri := by
  have htrailing : (draft.under rel).trailing = [] := by
    rw [under, hvars]
    exact Link.trailing_ofHref draft.uri
  rw [Link.render, htrailing, href_under]
  exact List.append_nil draft.uri

/-- A link made of a draft with a template is usable exactly if the variables of the draft have
names that can stand in one. -/
theorem isUsable_under_iff (hparse : Template.parse draft.uri = .ok template) :
    (draft.under rel).IsUsable ↔ ∀ name ∈ draft.vars.map (·.name), isVariableName name = true := by
  obtain ⟨-, hreads⟩ := Template.parse_eq_ok_iff.mp hparse
  have hhref : Template.parse (draft.under rel).href = .ok template := by
    rw [href_under, hparse]
  rw [(draft.isMade_under rel).isUsable_iff hhref, Link.names, vars_under hparse]
  constructor
  · intro hall name hname
    exact hall name (Link.mem_map_name_appendNew_iff.mpr (.inr hname))
  · intro hall name hname
    rcases Link.mem_map_name_appendNew_iff.mp hname with hembedded | hbehind
    · obtain ⟨v, hv, rfl⟩ := List.mem_map.mp hembedded
      exact hreads.isVariableName hv
    · exact hall name hbehind

end Signpost.LinkDraft
