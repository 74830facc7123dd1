import Signpost.Proofs.Template.Parts

/-!
# What is read as a template

A template is a literal without braces, or an expression followed by a template, with a literal in
front of the expression that has no opening brace. Reading a text gives exactly the parts of which
it consists in this way. A closing brace in front of an expression is thus taken literally, while
one behind the last expression is refused.

## Main definitions

* `Template.Reads`: a text and the parts it consists of.

## Main results

* `Template.parse_eq_ok_iff`: which texts are templates, and which parts they have.
* `Template.Reads.append`: a template with expressions behind it.
* `Template.notMem_of_parse`: a template without variables has no brace.
-/

namespace Signpost.Template

/-- The text consists of the parts: of literals and of expressions with one or more variables of one
kind each. -/
inductive Reads : Text → List Part → Prop
  | literal {text : Text} (hopen : '{' ∉ text) (hclose : '}' ∉ text) :
      Reads text (literalPart text)
  | expression {lead after : Text} {vars : List Variable} {parts : List Part}
      (kind : VariableKind) (hlead : '{' ∉ lead) (hne : vars ≠ []) (hfits : ∀ v ∈ vars, v.Fits kind)
      (hafter : Reads after parts) :
      Reads (lead ++ '{' :: (expressionText kind vars ++ '}' :: after))
        (literalPart lead ++ .expression vars :: parts)

/-! ### Reading -/

theorem Reads.of_readParts {source rest : Text} {parts : List Part}
    (h : readParts source rest = .ok parts) : Reads rest parts := by
  -- The text behind an expression is shorter than the one that begins with it.
  induction hn : rest.length using Nat.strongRecOn generalizing rest parts with
  | ind n ih =>
    by_cases hopen : '{' ∈ rest
    · obtain ⟨lead, body, hlead, rfl⟩ := Text.exists_append_of_mem hopen
      by_cases hclose : '}' ∈ body
      · obtain ⟨content, after, hcontent, rfl⟩ := Text.exists_append_of_mem hclose
        rw [readParts_open hlead hcontent] at h
        obtain ⟨vars, hvars, h⟩ := Except.bind_eq_ok_iff.mp h
        obtain ⟨others, hothers, h⟩ := Except.bind_eq_ok_iff.mp h
        obtain rfl := Except.pure_eq_ok_iff.mp h
        obtain ⟨hne, kind, hfits, rfl⟩ := readExpression_eq_ok_iff.mp hvars
        have hshort : after.length < n := by
          simp only [List.length_append, List.length_cons] at hn
          omega
        exact .expression kind hlead hne hfits (ih _ hshort hothers rfl)
      · rw [readParts_unclosed hlead hclose] at h
        exact absurd h (by simp)
    · rw [readParts_of_notMem hopen] at h
      by_cases hclose : '}' ∈ rest
      · rw [if_pos hclose] at h
        exact absurd h (by simp)
      · rw [if_neg hclose] at h
        obtain rfl := Except.ok.inj h
        exact .literal hopen hclose

theorem Reads.readParts {rest : Text} {parts : List Part} (h : Reads rest parts) (source : Text) :
    readParts source rest = .ok parts := by
  induction h with
  | literal hopen hclose => rw [readParts_of_notMem hopen, if_neg hclose]
  | @expression lead after vars parts kind hlead hne hfits hafter ih =>
    have hcontent : '}' ∉ expressionText kind vars :=
      notMem_expressionText (by decide) (by decide) hfits
    have hvars : readExpression source (expressionText kind vars) = .ok vars :=
      readExpression_eq_ok_iff.mpr ⟨hne, kind, hfits, rfl⟩
    rw [readParts_open hlead hcontent, hvars, Except.ok_bind, ih, Except.ok_bind]
    rfl

/-- What stands between the first opening brace and the first closing one behind it is an
expression. -/
theorem Reads.exists_expression {lead content after : Text} {parts : List Part}
    (h : Reads (lead ++ '{' :: (content ++ '}' :: after)) parts) (hlead : '{' ∉ lead)
    (hcontent : '}' ∉ content) :
    ∃ kind vars others, (∀ v ∈ vars, v.Fits kind) ∧ content = expressionText kind vars ∧
      Reads after others := by
  have hread := h.readParts []
  rw [readParts_open hlead hcontent] at hread
  obtain ⟨vars, hvars, hread⟩ := Except.bind_eq_ok_iff.mp hread
  obtain ⟨others, hothers, -⟩ := Except.bind_eq_ok_iff.mp hread
  obtain ⟨-, kind, hfits, htext⟩ := readExpression_eq_ok_iff.mp hvars
  exact ⟨kind, vars, others, hfits, htext, .of_readParts hothers⟩

/-- **Reading accepts the texts that consist of parts**, and gives these parts. -/
theorem parse_eq_ok_iff {source : Text} {template : Template} :
    parse source = .ok template ↔ template.source = source ∧ Reads source template.parts := by
  simp only [parse, Except.bind_eq_ok_iff, Except.pure_eq_ok_iff]
  constructor
  · rintro ⟨parts, hparts, rfl⟩
    exact ⟨rfl, .of_readParts hparts⟩
  · rintro ⟨rfl, hreads⟩
    exact ⟨template.parts, hreads.readParts _, rfl⟩

/-! ### Parts of a template -/

namespace Reads

variable {text more : Text} {parts others : List Part}

theorem nil : Reads [] [] :=
  .literal List.not_mem_nil List.not_mem_nil

/-- A template that starts with an expression. -/
theorem opening {vars : List Variable} (kind : VariableKind) (hne : vars ≠ [])
    (hfits : ∀ v ∈ vars, v.Fits kind) (h : Reads text parts) :
    Reads ('{' :: (expressionText kind vars ++ '}' :: text)) (.expression vars :: parts) :=
  .expression kind List.not_mem_nil hne hfits h

/-- Every variable of a template has a name that a template can hold. -/
theorem isVariableName (h : Reads text parts) {v : Variable} (hv : v ∈ parts.flatMap Part.vars) :
    isVariableName v.name = true := by
  induction h with
  | literal hopen hclose =>
    rw [flatMap_vars_literalPart] at hv
    exact absurd hv List.not_mem_nil
  | expression kind hlead hne hfits hafter ih =>
    rw [List.flatMap_append, flatMap_vars_literalPart, List.nil_append, List.flatMap_cons,
      List.mem_append] at hv
    rcases hv with hvars | hparts
    · exact (hfits v hvars).name
    · exact ih hparts

/-- A template with expressions behind it. -/
theorem append (h : Reads text parts) (h' : Reads more others)
    (hmore : ∀ c, more.head? = some c → c = '{') : Reads (text ++ more) (parts ++ others) := by
  induction h with
  | @literal text hopen hclose =>
    cases h' with
    | literal hopen' hclose' =>
      have hnil : more = [] := by
        cases more with
        | nil => rfl
        | cons c more =>
          have hc : c = '{' := hmore c rfl
          exact absurd (hc ▸ List.mem_cons_self) hopen'
      have hparts : literalPart text ++ literalPart more = literalPart text := by
        rw [hnil]
        exact List.append_nil (literalPart text)
      rw [hparts, hnil, List.append_nil]
      exact .literal hopen hclose
    | @expression lead after vars parts kind hlead hne hfits hafter =>
      have hnil : lead = [] := by
        cases lead with
        | nil => rfl
        | cons c lead =>
          have hc : c = '{' := hmore c rfl
          exact absurd (hc ▸ List.mem_cons_self) hlead
      rw [hnil]
      exact .expression kind hopen hne hfits hafter
  | expression kind hlead hne hfits hafter ih =>
    rw [List.append_assoc, List.append_assoc, List.cons_append, List.cons_append, List.append_assoc,
      List.cons_append]
    exact .expression kind hlead hne hfits ih

/-- No literal of a template holds an opening brace. -/
theorem notMem_of_literal (h : Reads text parts) {literal : Text}
    (hliteral : .literal literal ∈ parts) : '{' ∉ literal := by
  have hpart {lead : Text} (hlead : '{' ∉ lead) (hmem : .literal literal ∈ literalPart lead) :
      '{' ∉ literal := by
    rw [literalPart] at hmem
    split at hmem
    · exact absurd hmem List.not_mem_nil
    · obtain rfl : literal = lead := by simpa using hmem
      exact hlead
  induction h with
  | literal hopen hclose => exact hpart hopen hliteral
  | expression kind hlead hne hfits hafter ih =>
    rw [List.mem_append, List.mem_cons] at hliteral
    rcases hliteral with hfirst | hexpression | hrest
    · exact hpart hlead hfirst
    · exact absurd hexpression (by simp)
    · exact ih hrest

/-- Every expression of a template can stand in one. -/
theorem wellFormed_expression {vars : List Variable} (h : Reads text parts)
    (hvars : .expression vars ∈ parts) : (Part.expression vars).WellFormed := by
  have hliteral (lead : Text) : .expression vars ∉ literalPart lead := by
    rw [literalPart]
    split
    · exact List.not_mem_nil
    · simp
  induction h with
  | literal hopen hclose => exact absurd hvars (hliteral _)
  | expression kind hlead hne hfits hafter ih =>
    rw [List.mem_append, or_iff_right (hliteral _), List.mem_cons] at hvars
    rcases hvars with hfirst | hrest
    · obtain rfl := Part.expression.inj hfirst
      exact ⟨hne, kind, hfits⟩
    · exact ih hrest

/-- The parts of a text print as the text. -/
theorem flatMap_render (h : Reads text parts) : parts.flatMap Part.render = text := by
  have hliteral (lead : Text) : (literalPart lead).flatMap Part.render = lead := by
    rw [literalPart]
    by_cases hnil : lead = []
    · rw [if_pos hnil, hnil]
      rfl
    · rw [if_neg hnil]
      exact List.append_nil lead
  induction h with
  | literal hopen hclose => exact hliteral _
  | expression kind hlead hne hfits hafter ih =>
    rw [List.flatMap_append, hliteral, List.flatMap_cons, ih, Part.render_expression hne hfits]
    simp

/-- A template without an opening brace has no variables. -/
theorem vars_eq_nil (h : Reads text parts)
    (hopen : '{' ∉ text) : parts.flatMap Part.vars = [] := by
  cases h with
  | literal _ _ => exact flatMap_vars_literalPart text
  | expression kind hlead hne hfits hafter => exact absurd (by simp) hopen

/-- A template without variables is a literal without braces. -/
theorem notMem_of_vars_eq_nil (h : Reads text parts) (hvars : parts.flatMap Part.vars = []) :
    '{' ∉ text ∧ '}' ∉ text := by
  cases h with
  | literal hopen hclose => exact ⟨hopen, hclose⟩
  | expression kind hlead hne hfits hafter =>
    rw [List.flatMap_append, List.flatMap_cons, List.append_eq_nil_iff,
      List.append_eq_nil_iff] at hvars
    exact absurd hvars.2.1 hne

end Reads

theorem notMem_of_parse {source : Text} {template : Template} (h : parse source = .ok template)
    (hvars : template.vars = []) : '{' ∉ source ∧ '}' ∉ source :=
  (parse_eq_ok_iff.mp h).2.notMem_of_vars_eq_nil hvars

end Signpost.Template
