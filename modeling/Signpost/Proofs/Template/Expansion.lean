import Signpost.Proofs.Percent
import Signpost.Proofs.Template.Parts

/-!
# Expanding templates put together from parts

If the parts that make a template give each a certain text for the values of the variables, then the
template expands to these texts in a row. A value brings no reserved character into an expansion,
apart from those that separate its parts.

## Main definitions

* `Template.Yields`: well-formed parts that give a text, whatever stands in front of them.
* `Template.Defers`: a text with variables in the place of a text without.
* `Template.IsPlain`: a reserved character that separates nothing.

## Main results

* `Template.Yields.append`, `Template.Defers.append`: parts in a row.
* `Template.IsPlain.notMem_foldlM_expandPart`: a character that an expansion does not have.
-/

namespace Signpost

namespace Template

variable {lookup : Text → Option Text}

/-- Expressions of one variable each expand as the variables do one by one. -/
theorem foldlM_singletons (lookup : Text → Option Text) (vars : List Variable) (out : Text) :
    (vars.map fun v => .expression [v]).foldlM (expandPart lookup) out =
      vars.foldlM (expandVar lookup) out := by
  simp [List.foldlM_map, expandPart]

/-! ### Texts that parts give -/

/-- The parts stand in a template and give `text` for the values of their variables, whatever stands
in front of them. -/
structure Yields (lookup : Text → Option Text) (parts : List Part) (text : Text) : Prop where
  wellFormed : ∀ part ∈ parts, part.WellFormed
  expand : ∀ out, parts.foldlM (expandPart lookup) out = .ok (out ++ text)

namespace Yields

theorem nil : Yields lookup [] [] where
  wellFormed _ h := absurd h List.not_mem_nil
  expand out := by
    rw [List.append_nil]
    rfl

theorem append {parts others : List Part} {text more : Text} (h : Yields lookup parts text)
    (h' : Yields lookup others more) : Yields lookup (parts ++ others) (text ++ more) where
  wellFormed part hpart := (List.mem_append.mp hpart).elim (h.wellFormed part) (h'.wellFormed part)
  expand out := by
    rw [List.foldlM_append, h.expand, Except.ok_bind, h'.expand, List.append_assoc]

theorem literal {text : Text} (hopen : '{' ∉ text) (hclose : '}' ∉ text) :
    Yields lookup [.literal text] text where
  wellFormed part hpart := by
    obtain rfl := List.mem_singleton.mp hpart
    exact ⟨hopen, hclose⟩
  expand _ := rfl

/-- A variable of the path gives its encoded value. -/
theorem pathVariable {name value : Text} (hname : isVariableName name = true)
    (hlookup : lookup name = some value) :
    Yields lookup [.expression [⟨name, .path, false⟩]] (Percent.encode value) where
  wellFormed part hpart := by
    obtain rfl := List.mem_singleton.mp hpart
    refine ⟨List.cons_ne_nil _ _, .path, fun v hv => ?_⟩
    obtain rfl := List.mem_singleton.mp hv
    exact ⟨rfl, hname⟩
  expand out := by
    simp only [List.foldlM_cons, List.foldlM_nil, expandPart, expandVar, hlookup, Except.ok_bind]
    rfl

/-- An exploded variable of the path gives a path of segments. -/
theorem explodedSegment {name value : Text} (hname : isVariableName name = true)
    (hlookup : lookup name = some value) :
    Yields lookup [.expression [⟨name, .segment, true⟩]] (segmentPath value) where
  wellFormed part hpart := by
    obtain rfl := List.mem_singleton.mp hpart
    refine ⟨List.cons_ne_nil _ _, .segment, fun v hv => ?_⟩
    obtain rfl := List.mem_singleton.mp hv
    exact ⟨rfl, hname⟩
  expand out := by
    simp only [List.foldlM_cons, List.foldlM_nil, expandPart, expandVar, hlookup, Except.ok_bind]
    rfl

/-- The text of parts is a template that expands to what they give. -/
theorem exists_template {parts : List Part} {text : Text} (h : Yields lookup parts text) :
    ∃ template, parse (parts.flatMap Part.render) = .ok template ∧
      template.expand lookup = .ok text := by
  refine ⟨_, parse_flatMap_render h.wellFormed, ?_⟩
  rw [Template.expand, foldlM_mergeLiterals, h.expand, List.nil_append, List.nil_append]

end Yields

/-! ### Texts that are left open -/

/-- The text `deferred` stands for the text `direct`: it is the text of parts that expand to
`direct`, holds variables of the given names only, and starts as `direct` does unless it starts with
a variable. -/
structure Defers (lookup : Text → Option Text) (names : List Text) (parts : List Part)
    (deferred direct : Text) : Prop where
  render : parts.flatMap Part.render = deferred
  yields : Yields lookup parts direct
  names : ∀ v ∈ parts.flatMap Part.vars, v.name ∈ names
  head : deferred.head? = some '{' ∨ deferred.head? = direct.head?

namespace Defers

variable {names : List Text}

theorem nil : Defers lookup names [] [] [] where
  render := rfl
  yields := .nil
  names _ h := absurd h List.not_mem_nil
  head := .inr rfl

theorem append {parts others : List Part} {deferred direct deferred' direct' : Text}
    (h : Defers lookup names parts deferred direct)
    (h' : Defers lookup names others deferred' direct') :
    Defers lookup names (parts ++ others) (deferred ++ deferred') (direct ++ direct') where
  render := by rw [List.flatMap_append, h.render, h'.render]
  yields := h.yields.append h'.yields
  names v hv := by
    rw [List.flatMap_append, List.mem_append] at hv
    exact hv.elim (h.names v) (h'.names v)
  head := by
    rw [List.head?_append, List.head?_append]
    rcases h.head with hopen | hsame
    · rw [hopen]
      exact .inl rfl
    · rw [hsame]
      cases direct.head? with
      | some c => exact .inr rfl
      | none => exact h'.head

theorem flatMap {α : Type} {f : α → List Part} {g g' : α → Text} :
    {as : List α} → (∀ a ∈ as, Defers lookup names (f a) (g a) (g' a)) →
    Defers lookup names (as.flatMap f) (as.flatMap g) (as.flatMap g')
  | [], _ => nil
  | a :: _, h =>
    (h a List.mem_cons_self).append (flatMap fun b hb => h b (List.mem_cons_of_mem a hb))

theorem literal {text : Text} (hopen : '{' ∉ text) (hclose : '}' ∉ text) :
    Defers lookup names [.literal text] text text where
  render := List.append_nil text
  yields := .literal hopen hclose
  names _ h := absurd h List.not_mem_nil
  head := .inr rfl

/-- A variable stands for its encoded value. -/
theorem pathVariable {name value : Text} (hmem : name ∈ names) (hname : isVariableName name = true)
    (hlookup : lookup name = some value) :
    Defers lookup names [.expression [⟨name, .path, false⟩]] ('{' :: name ++ ['}'])
      (Percent.encode value) where
  render := by
    simp [Part.render, Variable.render, Variable.renderAfter, VariableKind.leading,
      VariableKind.operator, Variable.label]
  yields := .pathVariable hname hlookup
  names v hv := by
    obtain rfl := List.mem_singleton.mp hv
    exact hmem
  head := .inl rfl

end Defers

/-! ### Characters that an expansion does not bring -/

variable {c : Char} {out result : Text}

/-- A value brings nothing but slashes and encoded text into a path of segments. -/
theorem notMem_segmentPath (hreserved : Percent.IsReserved c) (hslash : c ≠ '/') (value : Text) :
    c ∉ segmentPath value := by
  intro h
  obtain ⟨segment, -, hsegment⟩ := List.mem_flatMap.mp h
  rcases List.mem_cons.mp hsegment with hsame | hencoded
  · exact hslash hsame
  · exact Percent.notMem_encode hreserved segment hencoded

/-- Expanding a variable puts out what its value adds, or nothing if it may do without one. -/
theorem expandVar_eq_ok_iff {v : Variable} :
    expandVar lookup out v = .ok result ↔
      (∃ value, lookup v.name = some value ∧ out ++ addition out v value = result) ∨
        lookup v.name = none ∧ v.isRequired = false ∧ out = result := by
  rw [expandVar]
  cases lookup v.name with
  | some value => simp
  | none => cases v.isRequired <;> simp

/-- A reserved character that separates nothing. -/
structure IsPlain (c : Char) : Prop where
  reserved : Percent.IsReserved c
  separator : c ∉ ['/', '?', '&', '=', '#']

theorem IsPlain.notMem_addition (hc : IsPlain c) (out : Text) (v : Variable) (value : Text) :
    c ∉ addition out v value := by
  have hmarks := hc.separator
  simp only [List.mem_cons, List.not_mem_nil, or_false, not_or] at hmarks
  obtain ⟨hslash, hquestion, hampersand, hequals, hnumber⟩ := hmarks
  have hencode (text : Text) : c ∉ Percent.encode text := Percent.notMem_encode hc.reserved text
  have hpair : c ∉ (if '?' ∈ out then '&' else '?') :: Percent.encode v.name ++
      '=' :: Percent.encode value := by
    split
    · simp [hampersand, hequals, hencode]
    · simp [hquestion, hequals, hencode]
  rw [addition]
  cases v.kind with
  | path => exact hencode value
  | query => exact hpair
  | queryContinued => exact hpair
  | segment =>
    by_cases hexploded : v.exploded = true
    · simp only [hexploded, if_true]
      exact notMem_segmentPath hc.reserved hslash value
    · simp [hexploded, hslash, hencode]
  | fragment => simp [hnumber, hencode]

theorem IsPlain.notMem_expandVar (hc : IsPlain c) {v : Variable}
    (h : expandVar lookup out v = .ok result) (hout : c ∉ out) : c ∉ result := by
  obtain ⟨value, -, rfl⟩ | ⟨-, -, rfl⟩ := expandVar_eq_ok_iff.mp h
  · rw [List.mem_append, not_or]
    exact ⟨hout, hc.notMem_addition out v value⟩
  · exact hout

theorem IsPlain.notMem_foldlM_expandVar (hc : IsPlain c) {vars : List Variable}
    (h : vars.foldlM (expandVar lookup) out = .ok result) (hout : c ∉ out) : c ∉ result :=
  Except.foldlM_induction (f := expandVar lookup) (q := (c ∉ ·))
    (fun _ _ _ _ => hc.notMem_expandVar) h hout

/-- A character that separates nothing is in an expansion only where it is in a literal. -/
theorem IsPlain.notMem_foldlM_expandPart (hc : IsPlain c) {parts : List Part}
    (hliterals : ∀ literal, .literal literal ∈ parts → c ∉ literal)
    (h : parts.foldlM (expandPart lookup) out = .ok result) (hout : c ∉ out) : c ∉ result := by
  refine Except.foldlM_induction (f := expandPart lookup) (q := (c ∉ ·)) ?_ h hout
  intro out part hpart next hnext hnow
  cases part with
  | literal literal =>
    obtain rfl := Except.ok.inj hnext
    rw [List.mem_append, not_or]
    exact ⟨hnow, hliterals literal hpart⟩
  | expression vars => exact hc.notMem_foldlM_expandVar hnext hnow

end Template

end Signpost
