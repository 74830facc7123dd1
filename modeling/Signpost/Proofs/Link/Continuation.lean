import Signpost.Link.Published
import Signpost.Proofs.Link.Variables
import Signpost.Proofs.Template.Rendering

/-!
# Queries that go on behind an href

The expressions behind an href start a query or continue one. The printed form of a link continues a
query wherever the href has a question mark; its template does so only where a literal of the href
has one. Both come to the same text, unless the only question marks of the href are those of
expressions: there the template starts another query, while the printed form continues the one that
the expression starts.

## Main definitions

* `Link.RestartsQuery`: the template starts a query behind an expression that starts one.

## Main results

* `Template.question_mem_iff`: where the question marks of a template stand.
* `Link.exists_template_source_eq`: the text of the template and the printed form.
-/

namespace Signpost

namespace Template

variable {kind : VariableKind} {vars : List Variable} {text : Text} {parts : List Part}

/-! ### Question marks -/

/-- An expression has a question mark only as its operator. -/
theorem question_mem_expressionText_iff (hfits : ∀ v ∈ vars, v.Fits kind) :
    '?' ∈ expressionText kind vars ↔ kind = .query := by
  rw [mem_expressionText_iff (by decide) (by decide) hfits]
  cases kind <;> decide

theorem question_mem_render_iff (h : (Part.expression vars).WellFormed) :
    '?' ∈ (Part.expression vars).render ↔ ∃ v ∈ vars, v.kind = .query := by
  obtain ⟨hne, kind, hfits⟩ := h
  have hmark : '?' ∈ (Part.expression vars).render ↔ '?' ∈ expressionText kind vars := by
    rw [Part.render_expression hne hfits]
    simp
  rw [hmark, question_mem_expressionText_iff hfits]
  constructor
  · intro hkind
    obtain ⟨v, hv⟩ := List.exists_mem_of_ne_nil vars hne
    exact ⟨v, hv, (hfits v hv).kind_eq.trans hkind⟩
  · rintro ⟨v, hv, hkind⟩
    exact (hfits v hv).kind_eq.symm.trans hkind

theorem hasQuery_iff {template : Template} :
    template.hasQuery = true ↔ ∃ literal, .literal literal ∈ template.parts ∧ '?' ∈ literal := by
  rw [hasQuery, List.any_eq_true]
  constructor
  · rintro ⟨part, hpart, hmark⟩
    cases part with
    | literal text => exact ⟨text, hpart, of_decide_eq_true hmark⟩
    | expression vars => exact absurd hmark Bool.false_ne_true
  · rintro ⟨literal, hliteral, hmark⟩
    exact ⟨.literal literal, hliteral, decide_eq_true hmark⟩

/-- **The question marks of a template** are those of its literals and the operators of the
expressions that start a query. -/
theorem question_mem_iff {source : Text} {template : Template}
    (h : parse source = .ok template) :
    '?' ∈ source ↔ template.hasQuery = true ∨ ∃ v ∈ template.vars, v.kind = .query := by
  obtain ⟨-, hreads⟩ := parse_eq_ok_iff.mp h
  rw [← hreads.flatMap_render, List.mem_flatMap, hasQuery_iff]
  constructor
  · rintro ⟨part, hpart, hmark⟩
    cases part with
    | literal text => exact .inl ⟨text, hpart, hmark⟩
    | expression vars =>
      obtain ⟨v, hv, hkind⟩ :=
        (question_mem_render_iff (hreads.wellFormed_expression hpart)).mp hmark
      exact .inr ⟨v, List.mem_flatMap.mpr ⟨_, hpart, hv⟩, hkind⟩
  · rintro (⟨literal, hliteral, hmark⟩ | ⟨v, hv, hkind⟩)
    · exact ⟨.literal literal, hliteral, hmark⟩
    · obtain ⟨part, hpart, hv⟩ := List.mem_flatMap.mp hv
      cases part with
      | literal text => exact absurd hv List.not_mem_nil
      | expression vars =>
        exact ⟨_, hpart,
          (question_mem_render_iff (hreads.wellFormed_expression hpart)).mpr ⟨v, hv, hkind⟩⟩

/-! ### Variables behind a query -/

/-- Whether a query is there already shows only in how the first variable is printed. -/
theorem render_eq_render (h : ∀ v ∈ vars.head?, v.kind ≠ .query) (hasQuery other : Bool) :
    Variable.render hasQuery vars = Variable.render other vars := by
  cases vars with
  | nil => rfl
  | cons v rest =>
    have hkind : v.kind ≠ .query := h v rfl
    have hleading (any : Bool) : v.kind.leading any = v.kind := by
      cases hv : v.kind with
      | query => exact absurd hv hkind
      | path => rfl
      | queryContinued => rfl
      | segment => rfl
      | fragment => rfl
    rw [Variable.render, Variable.render, hleading, hleading]

theorem exists_render_eq (h : ∃ v ∈ vars.head?, v.kind = .query) :
    ∃ rest, Variable.render true vars = ['{', '&'] ++ rest ∧
      Variable.render false vars = ['{', '?'] ++ rest := by
  obtain ⟨v, hv, hkind⟩ := h
  obtain ⟨others, rfl⟩ := List.head?_eq_some_iff.mp hv
  refine ⟨v.label ++ Variable.renderAfter v others, ?_, ?_⟩
  · rw [Variable.render, hkind]
    rfl
  · rw [Variable.render, hkind]
    rfl

end Template

namespace Link

variable {link : Link} {template : Template}

/-! ### The template of a link and its printed form -/

/-- The href, read as `template`, starts a query by an expression but not by a literal, and the
first variable behind it starts a query as well. -/
structure RestartsQuery (link : Link) (template : Template) : Prop where
  literal : template.hasQuery = false
  expression : ∃ v ∈ template.vars, v.kind = .query
  behind : ∃ v ∈ link.trailing.head?, v.kind = .query

theorem template_eq (hhref : Template.parse link.href = .ok template) :
    link.template = .ok (template.extend link.trailing) := by
  rw [Link.template, hhref]

theorem source_extend_trailing (hhref : Template.parse link.href = .ok template) :
    (template.extend link.trailing).source =
      link.href ++ Template.Variable.render template.hasQuery link.trailing := by
  obtain ⟨hsource, -⟩ := Template.parse_eq_ok_iff.mp hhref
  have hfresh : Template.Variable.missingFrom template.vars link.trailing = link.trailing := by
    rw [← embedded_of_parse hhref, missingFrom_trailing]
  rw [Template.extend, hfresh, hsource]

theorem render_eq (hhref : Template.parse link.href = .ok template)
    (h : ¬link.RestartsQuery template) :
    link.render = link.href ++ Template.Variable.render template.hasQuery link.trailing := by
  have hmark := Template.question_mem_iff hhref
  rw [Link.render]
  -- Whether the query is continued matters to a leading query variable only.
  by_cases hfirst : ∃ v ∈ link.trailing.head?, v.kind = .query
  · have hsame : decide ('?' ∈ link.href) = template.hasQuery := by
      cases hquery : template.hasQuery with
      | true => exact decide_eq_true (hmark.mpr (.inl hquery))
      | false =>
        refine decide_eq_false fun hmem => ?_
        obtain hliteral | hexpression := hmark.mp hmem
        · rw [hquery] at hliteral
          exact Bool.false_ne_true hliteral
        · exact h ⟨hquery, hexpression, hfirst⟩
    rw [hsame]
  · have hother : ∀ v ∈ link.trailing.head?, v.kind ≠ .query :=
      fun v hv hkind => hfirst ⟨v, hv, hkind⟩
    rw [Template.render_eq_render hother]

theorem child?_href_toJson (link : Link) :
    link.toJson.child? "href".toList = some (.text link.render) := by
  rw [toJson]
  cases link.isTemplated with
  | true => simp [Json.ofEntries, Json.child?, Table.ofList, Table.merge, Table.get?_insert]
  | false => simp [Json.ofEntries, Json.child?, Table.ofList, Table.merge]

/-- **The text of the template of a link is its printed form**, in a header and in JSON as well,
unless the template starts a query behind an expression of the href that starts one. There the two
differ in one character, an ampersand in the printed form and a question mark in the template. -/
theorem exists_template_source_eq (hhref : Template.parse link.href = .ok template) :
    ∃ full, link.template = .ok full ∧
      (¬link.RestartsQuery template → full.source = link.render ∧
        link.display = '<' :: full.source ++ ">;rel=\"".toList ++ link.rel.value ++ ['"'] ∧
        link.toJson.child? "href".toList = some (.text full.source)) ∧
      (link.RestartsQuery template → ∃ rest, link.render = link.href ++ ['{', '&'] ++ rest ∧
        full.source = link.href ++ ['{', '?'] ++ rest) := by
  refine ⟨_, template_eq hhref, fun hcontinues => ?_, fun hrestarts => ?_⟩
  · have hsame : (template.extend link.trailing).source = link.render := by
      rw [source_extend_trailing hhref, render_eq hhref hcontinues]
    rw [hsame]
    exact ⟨rfl, rfl, child?_href_toJson link⟩
  · have hmark : '?' ∈ link.href :=
      (Template.question_mem_iff hhref).mpr (.inr hrestarts.expression)
    obtain ⟨rest, hcontinued, hstarted⟩ := Template.exists_render_eq hrestarts.behind
    refine ⟨rest, ?_, ?_⟩
    · rw [Link.render, decide_eq_true hmark, hcontinued, List.append_assoc]
    · rw [source_extend_trailing hhref, hrestarts.literal, hstarted, List.append_assoc]

/-! ### Pages of a list -/

/-- The template of a list with a variable for the page. -/
def pagedTemplate : Template :=
  { source := "/people{?page}".toList
    parts := [.literal "/people".toList, .expression [⟨"page".toList, .query, false⟩]] }

/-- A link to the list, with further variables behind its href. -/
def pagedLink (behind : List Template.Variable) : Link :=
  (ofHref "/people{?page}".toList).addVars behind

theorem parse_href_pagedLink (behind : List Template.Variable) :
    Template.parse (pagedLink behind).href = .ok pagedTemplate := by
  have hparse : Template.parse "/people{?page}".toList = .ok pagedTemplate := by cbv
  have hhref : (pagedLink behind).href = "/people{?page}".toList := href_ofHref _
  rw [hhref, hparse]

theorem exists_template_source_eq_sorted :
    let link :=
      pagedLink [⟨"sort".toList, .queryContinued, false⟩, ⟨"size".toList, .query, false⟩]
    ∃ full, link.template = .ok full ∧ full.source = "/people{?page}{&sort,size}".toList ∧
      full.source = link.render ∧
      link.toJson.child? "href".toList = some (.text full.source) := by
  intro link
  have hrender : link.render = "/people{?page}{&sort,size}".toList := by cbv
  have htrailing : link.trailing.head? = some ⟨"sort".toList, .queryContinued, false⟩ := by cbv
  have hcontinues : ¬link.RestartsQuery pagedTemplate := by
    rintro ⟨-, -, v, hv, hkind⟩
    rw [htrailing] at hv
    obtain rfl := Option.some_inj.mp hv
    exact absurd hkind (by decide)
  obtain ⟨full, hfull, hsame, -⟩ := exists_template_source_eq (parse_href_pagedLink _)
  obtain ⟨hsource, -, hjson⟩ := hsame hcontinues
  exact ⟨full, hfull, hsource.trans hrender, hsource, hjson⟩

theorem template_source_ne_render_paged :
    let link := pagedLink [⟨"size".toList, .query, false⟩]
    ∃ full, link.template = .ok full ∧ full.source = "/people{?page}{?size}".toList ∧
      link.render = "/people{?page}{&size}".toList ∧ full.source ≠ link.render := by
  intro link
  have htemplate : link.template = .ok (pagedTemplate.extend link.trailing) :=
    template_eq (parse_href_pagedLink _)
  have hsource : (pagedTemplate.extend link.trailing).source =
      "/people{?page}{?size}".toList := by
    cbv
  have hrender : link.render = "/people{?page}{&size}".toList := by cbv
  refine ⟨_, htemplate, hsource, hrender, ?_⟩
  rw [hsource, hrender]
  decide

end Link

end Signpost
