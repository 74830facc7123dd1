import Signpost.Link.Basic
import Signpost.Proofs.Template.Expansion
import Signpost.Proofs.Template.Grammar

/-!
# The variables of a link

The variables of a link are those of its href and, behind them, those that were added under names
the href does not have. This holds of every link, however often it was extended, put under another
relation or expanded: an expansion gives an href without expressions, since no value brings an
opening brace with it. An expansion gives the href with its expressions filled in and then the
added variables one by one.

## Main definitions

* `Link.IsMade`: the links that can be made.

## Main results

* `Link.appendNew_eq_append_missingFrom`: what extending a link adds.
* `Link.IsMade.vars_eq`: the variables of a link.
* `Link.expand_eq`: what a link expands to.
-/

namespace Signpost

/-! ### Variables with new names -/

namespace Template.Variable

variable {present additional : List Variable}

theorem any_name_eq_iff {name : Text} :
    (present.any fun kept => kept.name = name) = true ↔ name ∈ present.map (·.name) := by
  simp

theorem mem_missingFrom_iff {v : Variable} :
    v ∈ missingFrom present additional ↔ v ∈ additional ∧ v.name ∉ present.map (·.name) := by
  rw [missingFrom, List.mem_filter, Bool.not_eq_true', ← Bool.not_eq_true, any_name_eq_iff]

theorem missingFrom_cons_of_mem {v : Variable} (h : v.name ∈ present.map (·.name)) :
    missingFrom present (v :: additional) = missingFrom present additional := by
  have hany := any_name_eq_iff.mpr h
  exact List.filter_cons_of_neg (by rw [hany]; decide)

theorem missingFrom_cons_of_notMem {v : Variable} (h : v.name ∉ present.map (·.name)) :
    missingFrom present (v :: additional) = v :: missingFrom present additional := by
  have hany := Bool.eq_false_iff.mpr (h ∘ any_name_eq_iff.mp)
  exact List.filter_cons_of_pos (by rw [hany]; decide)

theorem missingFrom_of_new (hnew : ∀ v ∈ additional, v.name ∉ present.map (·.name)) :
    missingFrom present additional = additional := by
  rw [missingFrom, List.filter_eq_self]
  intro v hv
  have hmem : v ∈ missingFrom present additional := mem_missingFrom_iff.mpr ⟨hv, hnew v hv⟩
  exact (List.mem_filter.mp hmem).2

theorem missingFrom_self (present : List Variable) : missingFrom present present = [] := by
  refine List.eq_nil_iff_forall_not_mem.mpr fun v hv => ?_
  obtain ⟨hmem, hname⟩ := mem_missingFrom_iff.mp hv
  exact hname (List.mem_map_of_mem hmem)

theorem missingFrom_self_append (hnew : ∀ v ∈ additional, v.name ∉ present.map (·.name)) :
    missingFrom present (present ++ additional) = additional := by
  have hself := missingFrom_self present
  have hadditional := missingFrom_of_new hnew
  rw [missingFrom] at hself hadditional ⊢
  rw [List.filter_append, hself, hadditional, List.nil_append]

theorem map_name_missingFrom (present additional : List Variable) :
    (missingFrom present additional).map (·.name) =
      (additional.map (·.name)).filter (· ∉ present.map (·.name)) := by
  rw [missingFrom, List.filter_map]
  refine congrArg (List.map _) (List.filter_congr fun v _ => ?_)
  have hany : (present.any fun kept => kept.name = v.name) =
      decide (v.name ∈ present.map (·.name)) := by
    rw [Bool.eq_iff_iff, any_name_eq_iff, decide_eq_true_iff]
  rw [hany]
  exact (decide_not ..).symm

/-- The variables with new names are new to one more variable of a name they do not have. -/
theorem missingFrom_concat {v : Variable} (h : v.name ∉ additional.map (·.name)) :
    missingFrom (present ++ [v]) additional = missingFrom present additional := by
  refine List.filter_congr fun w hw => ?_
  have hname : v.name ≠ w.name := fun heq => h (heq ▸ List.mem_map_of_mem hw)
  simp [hname]

end Template.Variable

namespace Link

open Template.Variable

variable {present additional : List Template.Variable} {link : Link}

/-! ### Extending a link -/

theorem appendNew_cons_of_mem {v : Template.Variable} (h : v.name ∈ present.map (·.name)) :
    appendNew present (v :: additional) = appendNew present additional := by
  rw [appendNew, List.foldl_cons, if_pos (any_name_eq_iff.mpr h), appendNew]

theorem appendNew_cons_of_notMem {v : Template.Variable} (h : v.name ∉ present.map (·.name)) :
    appendNew present (v :: additional) = appendNew (present ++ [v]) additional := by
  rw [appendNew, List.foldl_cons, if_neg (h ∘ any_name_eq_iff.mp), appendNew]

theorem exists_appendNew_eq (present additional : List Template.Variable) :
    ∃ fresh, appendNew present additional = present ++ fresh ∧
      ∀ v ∈ fresh, v.name ∉ present.map (·.name) := by
  induction additional generalizing present with
  | nil => exact ⟨[], (List.append_nil present).symm, List.forall_mem_nil _⟩
  | cons v rest ih =>
    by_cases hname : v.name ∈ present.map (·.name)
    · rw [appendNew_cons_of_mem hname]
      exact ih present
    · obtain ⟨fresh, hfresh, hnew⟩ := ih (present ++ [v])
      refine ⟨v :: fresh, ?_, List.forall_mem_cons.mpr ⟨hname, fun w hw hmem => ?_⟩⟩
      · rw [appendNew_cons_of_notMem hname, hfresh, List.append_assoc, List.singleton_append]
      · exact hnew w hw (List.map_append ▸ List.mem_append_left _ hmem)

/-- Variables of different names are added as far as their names are new. -/
theorem appendNew_eq_append_missingFrom (hnodup : (additional.map (·.name)).Nodup) :
    appendNew present additional = present ++ missingFrom present additional := by
  induction additional generalizing present with
  | nil => rw [missingFrom, List.filter_nil, List.append_nil, appendNew, List.foldl_nil]
  | cons v rest ih =>
    rw [List.map_cons, List.nodup_cons] at hnodup
    by_cases hname : v.name ∈ present.map (·.name)
    · rw [appendNew_cons_of_mem hname, missingFrom_cons_of_mem hname, ih hnodup.2]
    · rw [appendNew_cons_of_notMem hname, missingFrom_cons_of_notMem hname, ih hnodup.2,
        missingFrom_concat hnodup.1, List.append_assoc, List.singleton_append]

/-- Extending a list of variables adds names, and loses none. -/
theorem mem_map_name_appendNew_iff {name : Text} :
    name ∈ (appendNew present additional).map (·.name) ↔
      name ∈ present.map (·.name) ∨ name ∈ additional.map (·.name) := by
  induction additional generalizing present with
  | nil => simp [appendNew]
  | cons v rest ih =>
    rw [List.map_cons, List.mem_cons]
    by_cases hname : v.name ∈ present.map (·.name)
    · rw [appendNew_cons_of_mem hname, ih]
      constructor
      · exact Or.imp_right .inr
      · rintro (hpresent | rfl | hrest)
        · exact .inl hpresent
        · exact .inl hname
        · exact .inr hrest
    · rw [appendNew_cons_of_notMem hname, ih, List.map_append, List.mem_append,
        List.map_singleton, List.mem_singleton, or_assoc]

theorem mem_of_mem_appendNew {v : Template.Variable} (h : v ∈ appendNew present additional) :
    v ∈ present ∨ v ∈ additional := by
  induction additional generalizing present with
  | nil => exact .inl h
  | cons w rest ih =>
    by_cases hname : w.name ∈ present.map (·.name)
    · rw [appendNew_cons_of_mem hname] at h
      exact (ih h).imp_right (List.mem_cons_of_mem w)
    · rw [appendNew_cons_of_notMem hname] at h
      rcases ih h with hfront | hrest
      · rcases List.mem_append.mp hfront with hpresent | hnew
        · exact .inl hpresent
        · exact .inr (List.mem_singleton.mp hnew ▸ List.mem_cons_self)
      · exact .inr (List.mem_cons_of_mem w hrest)

theorem appendNew_eq_nil_iff :
    appendNew present additional = [] ↔ present = [] ∧ additional = [] := by
  constructor
  · intro hnil
    have hnone (v : Template.Variable) : v ∉ present ∧ v ∉ additional := by
      have hname : ¬(v.name ∈ present.map (·.name) ∨ v.name ∈ additional.map (·.name)) := by
        rw [← mem_map_name_appendNew_iff, hnil]
        exact List.not_mem_nil
      rw [not_or] at hname
      exact ⟨fun hv => hname.1 (List.mem_map_of_mem hv), fun hv => hname.2 (List.mem_map_of_mem hv)⟩
    exact ⟨List.eq_nil_iff_forall_not_mem.mpr fun v => (hnone v).1,
      List.eq_nil_iff_forall_not_mem.mpr fun v => (hnone v).2⟩
  · rintro ⟨rfl, rfl⟩
    rfl

/-! ### Links that can be made -/

/-- The link was made of an href, by putting it under relations, extending and expanding it. -/
inductive IsMade : Link → Prop
  | ofHref (href : Text) : IsMade (.ofHref href)
  | under {link : Link} (h : IsMade link) (rel : LinkRelation) : IsMade (link.under rel)
  | addVars {link : Link} (h : IsMade link) (additional : List Template.Variable) :
      IsMade (link.addVars additional)
  | expand {link expanded : Link} {lookup : Text → Option Text} (h : IsMade link)
      (hexpand : link.expand lookup = .ok expanded) : IsMade expanded

theorem href_ofHref (href : Text) : (ofHref href).href = href := by
  rw [ofHref]
  split
  · rfl
  · rfl

theorem embedded_of_parse {template : Template} (hparse : Template.parse link.href = .ok template) :
    link.embedded = template.vars := by
  rw [embedded, hparse]

theorem notMem_embedded_of_mem_trailing {v : Template.Variable} (hv : v ∈ link.trailing) :
    v.name ∉ link.embedded.map (·.name) :=
  (mem_missingFrom_iff.mp hv).2

theorem missingFrom_trailing (link : Link) :
    missingFrom link.embedded link.trailing = link.trailing :=
  missingFrom_of_new fun _ => notMem_embedded_of_mem_trailing

/-- What a link expands to: its template, and behind it the variables that its href does not hold,
one by one. -/
theorem expand_eq {template : Template} (hparse : Template.parse link.href = .ok template)
    (lookup : Text → Option Text) :
    link.expand lookup = (do
      let out ← template.expand lookup
      let href ← link.trailing.foldlM (Template.expandVar lookup) out
      return { link with href, vars := [] }) := by
  have hfresh : missingFrom template.vars link.trailing = link.trailing := by
    rw [← embedded_of_parse hparse, missingFrom_trailing]
  rw [Link.expand, Link.template, hparse]
  simp only [Template.extend, hfresh, Except.ok_bind, Template.expand, List.foldlM_append,
    Template.foldlM_singletons, bind_assoc]

/-- A link that was expanded has an href without opening braces. -/
theorem notMem_href_of_expand {expanded : Link} {lookup : Text → Option Text}
    (h : link.expand lookup = .ok expanded) : '{' ∉ expanded.href ∧ expanded.vars = [] := by
  have hbrace : Template.IsPlain '{' := ⟨by decide, by decide⟩
  cases hparse : Template.parse link.href with
  | error error => simp [Link.expand, Link.template, hparse] at h
  | ok template =>
    rw [expand_eq hparse] at h
    obtain ⟨out, hout, h⟩ := Except.bind_eq_ok_iff.mp h
    obtain ⟨href, hhref, h⟩ := Except.bind_eq_ok_iff.mp h
    obtain rfl := Except.pure_eq_ok_iff.mp h
    obtain ⟨-, hreads⟩ := Template.parse_eq_ok_iff.mp hparse
    have hfilled : '{' ∉ out :=
      hbrace.notMem_foldlM_expandPart (fun _ => hreads.notMem_of_literal) hout List.not_mem_nil
    exact ⟨hbrace.notMem_foldlM_expandVar hhref hfilled, rfl⟩

theorem embedded_eq_nil (hopen : '{' ∉ link.href) : link.embedded = [] := by
  rw [embedded]
  split
  · rename_i template hparse
    exact (Template.parse_eq_ok_iff.mp hparse).2.vars_eq_nil hopen
  · rfl

theorem embedded_ofHref (href : Text) : (ofHref href).embedded = (ofHref href).vars := by
  rw [ofHref]
  cases hparse : Template.parse href with
  | error error => simp [embedded, hparse]
  | ok template => simp [embedded, hparse]

theorem trailing_ofHref (href : Text) : (ofHref href).trailing = [] := by
  rw [trailing, embedded_ofHref, missingFrom_self]

/-- Variables of different names are behind the href as far as it does not have their names. -/
theorem trailing_ofHref_addVars (href : Text) (hnodup : (additional.map (·.name)).Nodup) :
    ((ofHref href).addVars additional).trailing =
      missingFrom (ofHref href).embedded additional := by
  have hembedded : ((ofHref href).addVars additional).embedded = (ofHref href).embedded := rfl
  have hvars : ((ofHref href).addVars additional).vars =
      (ofHref href).embedded ++ missingFrom (ofHref href).embedded additional := by
    rw [addVars, appendNew_eq_append_missingFrom hnodup, embedded_ofHref]
  rw [trailing, hembedded, hvars]
  exact missingFrom_self_append fun v hv => (mem_missingFrom_iff.mp hv).2

/-- **The variables of a link** are those of its href and, behind them, those of other names. -/
theorem IsMade.vars_eq (h : link.IsMade) : link.vars = link.embedded ++ link.trailing := by
  induction h with
  | ofHref href =>
    rw [trailing_ofHref, List.append_nil, embedded_ofHref]
  | under h rel ih => exact ih
  | @addVars link h additional ih =>
    obtain ⟨fresh, hfresh, hnew⟩ := exists_appendNew_eq link.vars additional
    have hembedded : (link.addVars additional).embedded = link.embedded := rfl
    have hvars : (link.addVars additional).vars = link.embedded ++ (link.trailing ++ fresh) := by
      rw [Link.addVars, hfresh, ih, List.append_assoc]
    -- A name of the href was dropped before, and is dropped again.
    have hothers : ∀ v ∈ link.trailing ++ fresh, v.name ∉ link.embedded.map (·.name) := by
      intro v hv hmem
      rcases List.mem_append.mp hv with htrailing | hv
      · exact notMem_embedded_of_mem_trailing htrailing hmem
      · refine hnew v hv ?_
        rw [ih, List.map_append, List.mem_append]
        exact .inl hmem
    rw [trailing, hembedded, hvars, missingFrom_self_append hothers]
  | expand h hexpand ih =>
    obtain ⟨hopen, hvars⟩ := notMem_href_of_expand hexpand
    rw [trailing, embedded_eq_nil hopen, hvars]
    rfl

theorem ofHref_of_parse {href : Text} {template : Template}
    (hparse : Template.parse href = .ok template) :
    ofHref href = { href, vars := template.vars } := by
  rw [ofHref, hparse]

/-- Further variables of new names are expanded behind the template, in their order. -/
theorem expand_addVars {href : Text} {template : Template}
    (hparse : Template.parse href = .ok template)
    (hnew : ∀ v ∈ additional, v.name ∉ template.names)
    (hnodup : (additional.map (·.name)).Nodup) (lookup : Text → Option Text) :
    ((ofHref href).addVars additional).expand lookup = (do
      let out ← template.expand lookup
      let href ← additional.foldlM (Template.expandVar lookup) out
      return { href }) := by
  have hvars : appendNew template.vars additional = template.vars ++ additional := by
    rw [appendNew_eq_append_missingFrom hnodup, missingFrom_of_new hnew]
  have hlink : (ofHref href).addVars additional =
      { href, vars := template.vars ++ additional } := by
    rw [ofHref_of_parse hparse, addVars, hvars]
  have htrailing : ((ofHref href).addVars additional).trailing = additional := by
    rw [trailing_ofHref_addVars href hnodup, embedded_ofHref, ofHref_of_parse hparse]
    exact missingFrom_of_new hnew
  have hparseLink : Template.parse ((ofHref href).addVars additional).href = .ok template := by
    rw [hlink]
    exact hparse
  rw [expand_eq hparseLink, htrailing, hlink]

end Link

end Signpost
