import Signpost.Proofs.Template.Expression

/-!
# Reading what parts render as

A template is read from left to right: a literal up to the next opening brace, an expression up to
the next closing one, and so on. The text of any sequence of well-formed parts is read, and gives
these parts with neighbouring literals made into one. Literals that are split or empty do not matter
when a template is expanded, so that a template may be taken to consist of the parts it was put
together from.

## Main definitions

* `Template.mergeLiterals`: parts with neighbouring literals made into one.

## Main results

* `Template.parse_flatMap_render`: reading the text of well-formed parts.
* `Template.foldlM_mergeLiterals`: expanding merged parts.
-/

namespace Signpost.Template

variable {source rest : Text}

/-! ### One step of reading -/

theorem readParts_of_notMem (hopen : '{' ∉ rest) :
    readParts source rest =
      if '}' ∈ rest then .error (.unbalanced source) else .ok (literalPart rest) := by
  have hdrop := Text.dropWhile_ne_of_notMem hopen
  rw [readParts.eq_def]
  split
  · rw [Text.takeWhile_ne_of_notMem hopen]
  · rename_i heq
    rw [hdrop] at heq
    exact absurd heq (by simp)

theorem readParts_unclosed {lead body : Text} (hlead : '{' ∉ lead) (hbody : '}' ∉ body) :
    readParts source (lead ++ '{' :: body) = .error (.unclosed source) := by
  have hdrop := Text.dropWhile_ne_append hlead body
  rw [readParts.eq_def]
  split
  · rename_i heq
    rw [hdrop] at heq
    exact absurd heq (by simp)
  · rename_i heq
    rw [hdrop] at heq
    obtain ⟨rfl, rfl⟩ := List.cons.inj heq
    split
    · rfl
    · rename_i heq
      rw [Text.dropWhile_ne_of_notMem hbody] at heq
      exact absurd heq (by simp)

theorem readParts_open {lead content after : Text} (hlead : '{' ∉ lead) (hcontent : '}' ∉ content) :
    readParts source (lead ++ '{' :: (content ++ '}' :: after)) = (do
      let vars ← readExpression source content
      let parts ← readParts source after
      return literalPart lead ++ .expression vars :: parts) := by
  have hdrop := Text.dropWhile_ne_append hlead (content ++ '}' :: after)
  have hdrop' := Text.dropWhile_ne_append hcontent after
  rw [readParts.eq_def]
  split
  · rename_i heq
    rw [hdrop] at heq
    exact absurd heq (by simp)
  · rename_i heq
    rw [hdrop] at heq
    obtain ⟨rfl, rfl⟩ := List.cons.inj heq
    split
    · rename_i heq
      rw [hdrop'] at heq
      exact absurd heq (by simp)
    · rename_i heq
      rw [hdrop'] at heq
      obtain ⟨rfl, rfl⟩ := List.cons.inj heq
      rw [Text.takeWhile_ne_append hlead, Text.takeWhile_ne_append hcontent]

/-! ### Reading well-formed parts -/

/-- The parts with neighbouring literals made into one, when the literal `lead` stands in front of
them. Empty literals are left out. -/
def mergeLiterals (lead : Text) : List Part → List Part
  | [] => literalPart lead
  | .literal text :: parts => mergeLiterals (lead ++ text) parts
  | .expression vars :: parts => literalPart lead ++ .expression vars :: mergeLiterals [] parts

/-- The text of well-formed parts behind a literal is read as these parts. -/
theorem readParts_append (source : Text) : (parts : List Part) → (∀ part ∈ parts, part.WellFormed) →
    (lead : Text) → '{' ∉ lead → '}' ∉ lead →
    readParts source (lead ++ parts.flatMap Part.render) = .ok (mergeLiterals lead parts)
  | [], _, lead, hopen, hclose => by
    rw [List.flatMap_nil, List.append_nil, readParts_of_notMem hopen, if_neg hclose, mergeLiterals]
  | .literal text :: parts, h, lead, hopen, hclose => by
    obtain ⟨htextOpen, htextClose⟩ : '{' ∉ text ∧ '}' ∉ text := h _ List.mem_cons_self
    rw [List.flatMap_cons, Part.render, ← List.append_assoc, mergeLiterals]
    refine readParts_append source parts (fun part hpart => h part (List.mem_cons_of_mem _ hpart))
      (lead ++ text) ?_ ?_
    · exact fun hmem => (List.mem_append.mp hmem).elim hopen htextOpen
    · exact fun hmem => (List.mem_append.mp hmem).elim hclose htextClose
  | .expression vars :: parts, h, lead, hopen, hclose => by
    obtain ⟨hne, kind, hfits⟩ : vars ≠ [] ∧ ∃ kind, ∀ v ∈ vars, v.Fits kind :=
      h _ List.mem_cons_self
    have hrest := readParts_append source parts
      (fun part hpart => h part (List.mem_cons_of_mem _ hpart)) [] List.not_mem_nil List.not_mem_nil
    rw [List.nil_append] at hrest
    have hcontent : '}' ∉ expressionText kind vars :=
      notMem_expressionText (by decide) (by decide) hfits
    have htext : lead ++ (Part.expression vars :: parts).flatMap Part.render =
        lead ++ '{' :: (expressionText kind vars ++ '}' :: parts.flatMap Part.render) := by
      rw [List.flatMap_cons, Part.render_expression hne hfits]
      simp
    rw [htext, readParts_open hopen hcontent, readExpression_eq_ok_iff.mpr ⟨hne, kind, hfits, rfl⟩,
      hrest]
    rfl

/-- **The text of well-formed parts is a template** that consists of these parts. -/
theorem parse_flatMap_render {parts : List Part} (h : ∀ part ∈ parts, part.WellFormed) :
    parse (parts.flatMap Part.render) =
      .ok ⟨parts.flatMap Part.render, mergeLiterals [] parts⟩ := by
  have hread := readParts_append (parts.flatMap Part.render) parts h [] List.not_mem_nil
    List.not_mem_nil
  rw [List.nil_append] at hread
  rw [parse, hread]
  rfl

/-! ### Merged literals -/

theorem flatMap_vars_literalPart (text : Text) : (literalPart text).flatMap Part.vars = [] := by
  rw [literalPart]
  split
  · rfl
  · rfl

theorem flatMap_vars_mergeLiterals : (parts : List Part) → (lead : Text) →
    (mergeLiterals lead parts).flatMap Part.vars = parts.flatMap Part.vars
  | [], lead => flatMap_vars_literalPart lead
  | .literal text :: parts, lead => flatMap_vars_mergeLiterals parts (lead ++ text)
  | .expression vars :: parts, lead => by
    rw [mergeLiterals, List.flatMap_append, flatMap_vars_literalPart, List.nil_append,
      List.flatMap_cons, List.flatMap_cons, flatMap_vars_mergeLiterals parts []]

theorem foldlM_literalPart (lookup : Text → Option Text) (out text : Text) :
    (literalPart text).foldlM (expandPart lookup) out = .ok (out ++ text) := by
  rw [literalPart]
  split
  · rename_i hnil
    rw [hnil, List.append_nil]
    rfl
  · rfl

/-- Merged parts expand as the parts do. -/
theorem foldlM_mergeLiterals (lookup : Text → Option Text) : (parts : List Part) →
    (lead out : Text) →
    (mergeLiterals lead parts).foldlM (expandPart lookup) out =
      parts.foldlM (expandPart lookup) (out ++ lead)
  | [], lead, out => foldlM_literalPart lookup out lead
  | .literal text :: parts, lead, out => by
    rw [mergeLiterals, foldlM_mergeLiterals lookup parts, List.foldlM_cons, expandPart,
      Except.ok_bind, List.append_assoc]
  | .expression vars :: parts, lead, out => by
    rw [mergeLiterals, List.foldlM_append, foldlM_literalPart, Except.ok_bind, List.foldlM_cons,
      List.foldlM_cons]
    congr 1
    funext out
    rw [foldlM_mergeLiterals lookup parts, List.append_nil]

end Signpost.Template
