import Mathlib.Data.List.Forall2
import Signpost.Proofs.Template.Grammar

/-!
# Variables printed as expressions

A list of variables is printed as expressions that neighbours share if their kinds combine. What is
printed is a template again. All variables of an expression are read with the kind that stands in
front of the first one, so that a variable may come back as one that continues a query instead of
starting it, or the other way round. To an expansion both are the same.

## Main definitions

* `Template.Variable.Agrees`: two variables that an expansion does not tell apart.
* `Template.expressions`: the expressions that a list of variables is printed as.

## Main results

* `Template.reads_expressions`: what is printed is read as these expressions.
* `Template.forall₂_agrees_expressions`: the variables come back in their order.
* `Template.foldlM_expressions`: the expressions expand as the variables do one by one.
-/

namespace Signpost.Template

/-! ### Variables that expand alike -/

/-- The variables have the same name and mark, and the same kind unless both belong to the query. -/
structure Variable.Agrees (v w : Variable) : Prop where
  name : v.name = w.name
  exploded : v.exploded = w.exploded
  kind : v.kind = w.kind ∨ v.kind.isQuery = true ∧ w.kind.isQuery = true

variable {kind : VariableKind} {v w : Variable} {lookup : Text → Option Text}

theorem combines_iff {kind other : VariableKind} :
    kind.combines other = true ↔ kind = other ∨ kind.isQuery = true ∧ other.isQuery = true := by
  simp [VariableKind.combines]

theorem isQuery_iff {kind : VariableKind} :
    kind.isQuery = true ↔ kind = .query ∨ kind = .queryContinued := by
  cases kind <;> decide

/-- Kinds that combine with each other combine with the same kinds. -/
theorem combines_congr {kind other : VariableKind} (h : kind.combines other = true)
    (third : VariableKind) : kind.combines third = other.combines third := by
  rcases combines_iff.mp h with rfl | ⟨hquery, hquery'⟩
  · rfl
  · rcases isQuery_iff.mp hquery with rfl | rfl <;>
      rcases isQuery_iff.mp hquery' with rfl | rfl <;> cases third <;> rfl

namespace Variable.Agrees

theorem refl (v : Variable) : v.Agrees v :=
  ⟨rfl, rfl, .inl rfl⟩

/-- A variable agrees with itself under a kind that it combines with. -/
theorem of_combines (h : kind.combines v.kind = true) : v.Agrees { v with kind } :=
  ⟨rfl, rfl, (combines_iff.mp h).imp Eq.symm And.symm⟩

/-- Variables that agree expand alike. -/
theorem expandVar_eq (h : v.Agrees w) (out : Text) :
    expandVar lookup out v = expandVar lookup out w := by
  obtain ⟨name, kind, exploded⟩ := v
  obtain ⟨name', kind', exploded'⟩ := w
  obtain ⟨rfl, rfl, rfl | ⟨hquery, hquery'⟩⟩ := h
  · rfl
  · rcases isQuery_iff.mp hquery with rfl | rfl <;>
      rcases isQuery_iff.mp hquery' with rfl | rfl <;> rfl

/-- Variables that agree pairwise have the same names. -/
theorem map_name_eq {vars others : List Variable} (h : List.Forall₂ Variable.Agrees vars others) :
    vars.map (·.name) = others.map (·.name) := by
  induction h with
  | nil => rfl
  | cons hagrees _ ih => rw [List.map_cons, List.map_cons, hagrees.name, ih]

end Variable.Agrees

/-! ### Expressions -/

/-- The expressions for variables behind one of the kind `kind` that holds `opened` so far. -/
def expressionsAfter (kind : VariableKind) (opened : List Variable) : List Variable → List Part
  | [] => [.expression opened]
  | v :: rest =>
    if kind.combines v.kind then expressionsAfter kind (opened ++ [{ v with kind }]) rest
    else .expression opened :: expressionsAfter v.kind [v] rest

/-- The expressions that variables are printed as, each variable with the kind it is read with. -/
def expressions (hasQuery : Bool) : List Variable → List Part
  | [] => []
  | v :: rest =>
    expressionsAfter (v.kind.leading hasQuery) [{ v with kind := v.kind.leading hasQuery }] rest

theorem leading_combines (kind : VariableKind) (hasQuery : Bool) :
    (kind.leading hasQuery).combines kind = true := by
  cases kind <;> cases hasQuery <;> rfl

/-- Behind a query, what is printed for a query variable continues it. -/
theorem continues_render (hquery : v.kind.isQuery = true) (rest : List Variable) :
    ['{', '&'] <+: Variable.render true (v :: rest) := by
  have hleading : v.kind.leading true = .queryContinued := by
    rcases isQuery_iff.mp hquery with hkind | hkind
    · rw [hkind]
      rfl
    · rw [hkind]
      rfl
  rw [Variable.render, hleading]
  exact List.prefix_append ['{', '&'] _

/-- Without a query, what is printed for a variable that starts one starts it. -/
theorem starts_render (hkind : v.kind = .query) (rest : List Variable) :
    ['{', '?'] <+: Variable.render false (v :: rest) := by
  rw [Variable.render, hkind]
  exact List.prefix_append ['{', '?'] _

theorem expressionText_concat {opened : List Variable} (hne : opened ≠ []) (v : Variable) :
    expressionText kind (opened ++ [v]) = expressionText kind opened ++ ',' :: v.label := by
  obtain ⟨first, rest, rfl⟩ := List.exists_cons_of_ne_nil hne
  simp [expressionText, Text.join_cons]

/-- What is printed behind an open expression closes it and is read on. -/
theorem reads_expressionsAfter {vars opened : List Variable} {previous : Variable}
    (hprevious : kind.combines previous.kind = true) (hne : opened ≠ [])
    (hfits : ∀ v ∈ opened, v.Fits kind) (hnames : ∀ v ∈ vars, isVariableName v.name = true) :
    Reads ('{' :: (expressionText kind opened ++ Variable.renderAfter previous vars))
      (expressionsAfter kind opened vars) := by
  induction vars generalizing kind opened previous with
  | nil => exact .opening kind hne hfits .nil
  | cons v rest ih =>
    rw [List.forall_mem_cons] at hnames
    obtain ⟨hname, hrest⟩ := hnames
    have hsame : previous.kind.combines v.kind = kind.combines v.kind :=
      (combines_congr hprevious v.kind).symm
    rw [Variable.renderAfter, expressionsAfter, hsame]
    by_cases hcombines : kind.combines v.kind = true
    · have hlongerFits : ∀ w ∈ opened ++ [{ v with kind }], w.Fits kind :=
        List.forall_mem_append.mpr ⟨hfits, List.forall_mem_singleton.mpr ⟨rfl, hname⟩⟩
      have hlonger := ih hcombines (by simp) hlongerFits hrest
      rw [expressionText_concat hne] at hlonger
      rw [if_pos hcombines, if_pos hcombines]
      simpa [Variable.label] using hlonger
    · have hnextFits : ∀ w ∈ [v], w.Fits v.kind :=
        List.forall_mem_singleton.mpr ⟨rfl, hname⟩
      have hnext := ih (combines_self v.kind) (List.cons_ne_nil v []) hnextFits hrest
      have hclosed := Reads.opening kind hne hfits hnext
      rw [if_neg hcombines, if_neg hcombines]
      simpa [expressionText, Text.join] using hclosed

/-- **What is printed is a template**, if the names can stand in one. -/
theorem reads_expressions (hasQuery : Bool) {vars : List Variable}
    (hnames : ∀ v ∈ vars, isVariableName v.name = true) :
    Reads (Variable.render hasQuery vars) (expressions hasQuery vars) := by
  cases vars with
  | nil => exact .nil
  | cons v rest =>
    rw [List.forall_mem_cons] at hnames
    let first : Variable := { v with kind := v.kind.leading hasQuery }
    have hfits : ∀ w ∈ [first], w.Fits (v.kind.leading hasQuery) :=
      List.forall_mem_singleton.mpr ⟨rfl, hnames.1⟩
    have hread := reads_expressionsAfter (leading_combines v.kind hasQuery)
      (List.cons_ne_nil first []) hfits hnames.2
    simpa [Variable.render, expressions, expressionText, Text.join, Variable.label, first]
      using hread

theorem forall₂_agrees_expressionsAfter {vars opened before : List Variable}
    (h : List.Forall₂ Variable.Agrees before opened) :
    List.Forall₂ Variable.Agrees (before ++ vars)
      ((expressionsAfter kind opened vars).flatMap Part.vars) := by
  induction vars generalizing kind opened before with
  | nil => simpa [expressionsAfter, Part.vars] using h
  | cons v rest ih =>
    rw [expressionsAfter]
    by_cases hcombines : kind.combines v.kind = true
    · have hlonger : List.Forall₂ Variable.Agrees (before ++ [v]) (opened ++ [{ v with kind }]) :=
        List.rel_append h (.cons (.of_combines hcombines) .nil)
      rw [if_pos hcombines]
      simpa using ih hlonger
    · have hnext : List.Forall₂ Variable.Agrees [v] [v] := .cons (.refl v) .nil
      rw [if_neg hcombines, List.flatMap_cons]
      exact List.rel_append h (ih hnext)

/-- **What is printed holds the variables in their order**, up to how those of the query start. -/
theorem forall₂_agrees_expressions (hasQuery : Bool) (vars : List Variable) :
    List.Forall₂ Variable.Agrees vars ((expressions hasQuery vars).flatMap Part.vars) := by
  cases vars with
  | nil => exact .nil
  | cons v rest =>
    have hfirst : v.Agrees { v with kind := v.kind.leading hasQuery } :=
      .of_combines (leading_combines v.kind hasQuery)
    exact forall₂_agrees_expressionsAfter (.cons hfirst .nil)

theorem foldlM_expressionsAfter {vars opened : List Variable} (out : Text) :
    (expressionsAfter kind opened vars).foldlM (expandPart lookup) out =
      (opened ++ vars).foldlM (expandVar lookup) out := by
  induction vars generalizing kind opened out with
  | nil => simp [expressionsAfter, expandPart]
  | cons v rest ih =>
    rw [expressionsAfter]
    by_cases hcombines : kind.combines v.kind = true
    · have hagrees : v.Agrees { v with kind } := .of_combines hcombines
      rw [if_pos hcombines, ih, List.append_assoc, List.foldlM_append, List.foldlM_append]
      simp only [List.singleton_append, List.foldlM_cons, hagrees.expandVar_eq]
    · rw [if_neg hcombines, List.foldlM_cons, List.foldlM_append]
      simp only [expandPart, ih, List.singleton_append]

/-- **What is printed expands as the variables do**, one by one. -/
theorem foldlM_expressions (hasQuery : Bool) (vars : List Variable) (out : Text) :
    (expressions hasQuery vars).foldlM (expandPart lookup) out =
      vars.foldlM (expandVar lookup) out := by
  cases vars with
  | nil => rfl
  | cons v rest =>
    have hfirst : v.Agrees { v with kind := v.kind.leading hasQuery } :=
      .of_combines (leading_combines v.kind hasQuery)
    rw [expressions, foldlM_expressionsAfter, List.singleton_append, List.foldlM_cons,
      List.foldlM_cons, hfirst.expandVar_eq]

end Signpost.Template
