import Signpost.Proofs.Template.Grammar

/-!
# The language of templates

A template is written as a sequence of characters other than braces and of expressions. Reading
accepts every such text. It accepts more: a closing brace is looked for inside expressions and
behind the last of them only, so that one that stands in front of an expression, and outside of all
others, is taken for a character like any other.

## Main definitions

* `Template.Spells`: the texts of the language and their variables, with or without stray closing
  braces.
* `Template.IsClean`: parts without a closing brace in a literal.

## Main results

* `Template.spells_iff`: the texts of the language are those that consist of parts.
* `Template.parse_iff_spells`: reading accepts the language with stray closing braces.
-/

namespace Signpost.Template

/-- The text is spelled from characters other than braces and from expressions of one or more
variables of one kind, and `vars` are the variables of its expressions in their order. With
`strays`, a closing brace may be one of the characters as long as an expression follows. -/
inductive Spells (strays : Bool) : Text → List Variable → Prop
  | nil : Spells strays [] []
  | char {c : Char} {text : Text} {vars : List Variable} (hopen : c ≠ '{') (hclose : c ≠ '}')
      (h : Spells strays text vars) : Spells strays (c :: text) vars
  | stray {text : Text} {vars : List Variable} (hstrays : strays = true) (hfollows : vars ≠ [])
      (h : Spells strays text vars) : Spells strays ('}' :: text) vars
  | expression {text : Text} {vars more : List Variable} (kind : VariableKind) (hne : vars ≠ [])
      (hfits : ∀ v ∈ vars, v.Fits kind) (h : Spells strays text more) :
      Spells strays ('{' :: (expressionText kind vars ++ '}' :: text)) (vars ++ more)

/-- No literal holds a closing brace. -/
def IsClean (parts : List Part) : Prop :=
  ∀ text, .literal text ∈ parts → '}' ∉ text

variable {strays : Bool} {source text lead literal : Text} {vars : List Variable}
  {parts : List Part}

/-! ### Literals -/

theorem mem_literalPart_iff {part : Part} :
    part ∈ literalPart text ↔ text ≠ [] ∧ part = .literal text := by
  rw [literalPart]
  by_cases hnil : text = []
  · simp [hnil]
  · simp [hnil]

theorem isClean_literalPart_iff : IsClean (literalPart text) ↔ '}' ∉ text := by
  constructor
  · intro h hmem
    exact h text (mem_literalPart_iff.mpr ⟨List.ne_nil_of_mem hmem, rfl⟩) hmem
  · intro h literal hliteral
    obtain ⟨-, hsame⟩ := mem_literalPart_iff.mp hliteral
    obtain rfl := Part.literal.inj hsame
    exact h

theorem isClean_cons_expression_iff : IsClean (.expression vars :: parts) ↔ IsClean parts := by
  simp [IsClean]

theorem isClean_append_iff {others : List Part} :
    IsClean (parts ++ others) ↔ IsClean parts ∧ IsClean others := by
  simp only [IsClean, List.mem_append]
  exact ⟨fun h => ⟨fun text ht => h text (.inl ht), fun text ht => h text (.inr ht)⟩,
    fun h text ht => ht.elim (h.1 text) (h.2 text)⟩

theorem isClean_expression_iff :
    IsClean (literalPart lead ++ .expression vars :: parts) ↔ '}' ∉ lead ∧ IsClean parts := by
  rw [isClean_append_iff, isClean_literalPart_iff, isClean_cons_expression_iff]

/-! ### Texts and parts -/

/-- Characters in front of a text of the language: no opening brace, and closing braces only as
strays. -/
theorem Spells.append (hopen : '{' ∉ lead) (hclose : '}' ∉ lead ∨ strays = true ∧ vars ≠ [])
    (h : Spells strays text vars) : Spells strays (lead ++ text) vars := by
  induction lead with
  | nil => exact h
  | cons c lead ih =>
    rw [List.mem_cons, not_or] at hopen
    have hrest : Spells strays (lead ++ text) vars :=
      ih hopen.2 (hclose.imp_left fun hnone hmem => hnone (List.mem_cons_of_mem c hmem))
    by_cases hc : c = '}'
    · obtain hnone | ⟨hstrays, hfollows⟩ := hclose
      · exact absurd (hc ▸ List.mem_cons_self) hnone
      · rw [hc]
        exact .stray hstrays hfollows hrest
    · exact .char (Ne.symm hopen.1) hc hrest

theorem Reads.spells (h : Reads text parts) (hclean : strays = true ∨ IsClean parts) :
    Spells strays text (parts.flatMap Part.vars) := by
  induction h with
  | @literal text hopen hclose =>
    have hspells : Spells strays (text ++ []) [] := Spells.append hopen (.inl hclose) .nil
    rw [List.append_nil] at hspells
    rw [flatMap_vars_literalPart]
    exact hspells
  | @expression lead after vars parts kind hlead hne hfits hafter ih =>
    rw [isClean_expression_iff] at hclean
    have hexpression := Spells.expression kind hne hfits (ih (hclean.imp_right And.right))
    have hvars : vars ++ parts.flatMap Part.vars ≠ [] := List.append_ne_nil_of_left_ne_nil hne _
    rw [List.flatMap_append, flatMap_vars_literalPart, List.nil_append, List.flatMap_cons]
    refine hexpression.append hlead ?_
    exact hclean.symm.imp And.left fun hstrays => ⟨hstrays, hvars⟩

/-- One more character in front of a text that consists of parts. -/
theorem Reads.exists_cons {c : Char} (h : Reads text parts) (hopen : c ≠ '{')
    (hclose : c ≠ '}' ∨ parts.flatMap Part.vars ≠ []) :
    ∃ others, Reads (c :: text) others ∧ others.flatMap Part.vars = parts.flatMap Part.vars ∧
      (c ≠ '}' → IsClean parts → IsClean others) := by
  cases h with
  | literal hopenText hcloseText =>
    rw [flatMap_vars_literalPart] at hclose
    have hc : c ≠ '}' := hclose.resolve_right fun hne => hne rfl
    refine ⟨literalPart (c :: text), .literal ?_ ?_, ?_, fun _ _ => ?_⟩
    · exact List.not_mem_cons_of_ne_of_not_mem (Ne.symm hopen) hopenText
    · exact List.not_mem_cons_of_ne_of_not_mem (Ne.symm hc) hcloseText
    · rw [flatMap_vars_literalPart, flatMap_vars_literalPart]
    · rw [isClean_literalPart_iff]
      exact List.not_mem_cons_of_ne_of_not_mem (Ne.symm hc) hcloseText
  | @expression lead after vars parts kind hlead hne hfits hafter =>
    have hlonger : '{' ∉ c :: lead :=
      List.not_mem_cons_of_ne_of_not_mem (Ne.symm hopen) hlead
    refine ⟨_, .expression kind hlonger hne hfits hafter, ?_, fun hc hclean => ?_⟩
    · rw [List.flatMap_append, List.flatMap_append, flatMap_vars_literalPart,
        flatMap_vars_literalPart]
    · rw [isClean_expression_iff] at hclean ⊢
      exact ⟨List.not_mem_cons_of_ne_of_not_mem (Ne.symm hc) hclean.1, hclean.2⟩

/-- **The texts of the language are those that consist of parts.** Without strays, no literal of
them holds a closing brace. -/
theorem spells_iff :
    Spells strays text vars ↔ ∃ parts, Reads text parts ∧ parts.flatMap Part.vars = vars ∧
      (strays = true ∨ IsClean parts) := by
  constructor
  · intro h
    -- A spelling goes on character by character; a character joins the literal that the parts read
    -- so far begin with, or becomes one.
    induction h with
    | nil => exact ⟨[], .nil, rfl, .inr fun _ hmem => absurd hmem List.not_mem_nil⟩
    | char hopen hclose _ ih =>
      obtain ⟨parts, hreads, rfl, hclean⟩ := ih
      obtain ⟨others, hothers, hvars, hkeeps⟩ := hreads.exists_cons hopen (.inl hclose)
      exact ⟨others, hothers, hvars, hclean.imp_right (hkeeps hclose)⟩
    | stray hstrays hfollows _ ih =>
      obtain ⟨parts, hreads, rfl, -⟩ := ih
      have hopen : '}' ≠ '{' := by decide
      obtain ⟨others, hothers, hvars, -⟩ := hreads.exists_cons hopen (.inr hfollows)
      exact ⟨others, hothers, hvars, .inl hstrays⟩
    | @expression text vars more kind hne hfits _ ih =>
      obtain ⟨parts, hreads, rfl, hclean⟩ := ih
      refine ⟨.expression vars :: parts, .opening kind hne hfits hreads, List.flatMap_cons, ?_⟩
      exact hclean.imp_right isClean_cons_expression_iff.mpr
  · rintro ⟨parts, hreads, rfl, hclean⟩
    exact hreads.spells hclean

/-! ### Reading -/

/-- **Reading accepts the language with stray closing braces**: a text is read as a template with
certain variables exactly if it is spelled from characters other than braces, from closing braces
that an expression follows, and from expressions that hold these variables. It is spelled without
stray closing braces exactly if no literal of the template holds one. The parts of a template print
as the text it was read from. -/
theorem parse_iff_spells (source : Text) :
    (∀ vars, (∃ template, parse source = .ok template ∧ template.vars = vars) ↔
      Spells true source vars) ∧
    (∀ vars, (∃ template, parse source = .ok template ∧ template.vars = vars ∧
      IsClean template.parts) ↔ Spells false source vars) ∧
    ∀ template, parse source = .ok template →
      template.source = source ∧ template.parts.flatMap Part.render = source := by
  refine ⟨fun vars => ?_, fun vars => ?_, fun template htemplate => ?_⟩
  · rw [spells_iff]
    constructor
    · rintro ⟨template, htemplate, rfl⟩
      exact ⟨template.parts, (parse_eq_ok_iff.mp htemplate).2, rfl, .inl rfl⟩
    · rintro ⟨parts, hreads, rfl, -⟩
      exact ⟨⟨source, parts⟩, parse_eq_ok_iff.mpr ⟨rfl, hreads⟩, rfl⟩
  · rw [spells_iff]
    constructor
    · rintro ⟨template, htemplate, rfl, hclean⟩
      exact ⟨template.parts, (parse_eq_ok_iff.mp htemplate).2, rfl, .inr hclean⟩
    · rintro ⟨parts, hreads, rfl, hclean⟩
      exact ⟨⟨source, parts⟩, parse_eq_ok_iff.mpr ⟨rfl, hreads⟩, rfl,
        hclean.resolve_left (by decide)⟩
  · obtain ⟨hsource, hreads⟩ := parse_eq_ok_iff.mp htemplate
    exact ⟨hsource, hreads.flatMap_render⟩

/-- A template with a stray closing brace in front of its expression. -/
def strayTemplate : Template :=
  ⟨"/a\x7d/{id}".toList, [.literal "/a\x7d/".toList, .expression [⟨"id".toList, .path, false⟩]]⟩

theorem parse_stray : parse "/a\x7d/{id}".toList = .ok strayTemplate := by
  cbv

theorem parse_iff_spells_stray :
    Spells true "/a\x7d/{id}".toList [⟨"id".toList, .path, false⟩] ∧
      parse "/a\x7d/{id}".toList = .ok strayTemplate ∧
      strayTemplate.parts.flatMap Part.render = "/a\x7d/{id}".toList := by
  obtain ⟨haccepts, -, hprints⟩ := parse_iff_spells "/a\x7d/{id}".toList
  exact ⟨(haccepts _).mp ⟨strayTemplate, parse_stray, rfl⟩, parse_stray,
    (hprints _ parse_stray).2⟩

theorem not_spells_stray :
    (∃ template, parse "/a\x7d/{id}".toList = .ok template) ∧
      ¬∃ vars, Spells false "/a\x7d/{id}".toList vars := by
  refine ⟨⟨strayTemplate, parse_stray⟩, ?_⟩
  rintro ⟨vars, hspells⟩
  obtain ⟨parts, hreads, -, hclean⟩ := spells_iff.mp hspells
  have hparse : parse "/a\x7d/{id}".toList = .ok ⟨"/a\x7d/{id}".toList, parts⟩ :=
    parse_eq_ok_iff.mpr ⟨rfl, hreads⟩
  obtain rfl : parts = strayTemplate.parts :=
    congrArg Template.parts (Except.ok.inj (hparse.symm.trans parse_stray))
  exact hclean.resolve_left (by decide) "/a\x7d/".toList List.mem_cons_self (by decide)

end Signpost.Template
