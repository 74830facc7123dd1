import Signpost.Proofs.Link.Draft

/-!
# Values that are missing

Expanding a template takes its variables one by one. It ends at the first one that needs a value and
has none, whatever was put out before, and it leads to a URI if there is no such variable. Nothing
else can go wrong.

## Main definitions

* `Template.Variable.isMissing`: a variable that needs a value and has none.

## Main results

* `Template.exists_expand_eq_ok`, `Template.expand_eq_error`: what becomes of a template.
* `Link.exists_expand_eq_ok`, `Link.expand_eq_error`: what becomes of a link.
-/

namespace Signpost

namespace Template

variable {lookup : Text → Option Text}

/-- The variable needs a value and has none. -/
def Variable.isMissing (lookup : Text → Option Text) (v : Variable) : Bool :=
  v.isRequired && (lookup v.name).isNone

/-- The variables of the path are the ones that need a value. -/
theorem Variable.isMissing_eq_decide (v : Variable) :
    v.isMissing lookup = decide (v.kind = .path ∧ lookup v.name = none) := by
  rw [isMissing, isRequired, VariableKind.isOptional]
  cases lookup v.name with
  | none => by_cases hkind : v.kind = .path <;> simp [hkind]
  | some value => simp

theorem expandVar_of_isMissing {v : Variable} (h : v.isMissing lookup = true) (out : Text) :
    expandVar lookup out v = .error (.missingVariable v.name) := by
  obtain ⟨hrequired, hnone⟩ := Bool.and_eq_true_iff.mp h
  rw [expandVar, Option.isNone_iff_eq_none.mp hnone]
  simp only [hrequired, if_true]

theorem exists_expandVar_eq_ok {v : Variable} (h : v.isMissing lookup = false) (out : Text) :
    ∃ next, expandVar lookup out v = .ok next := by
  rw [expandVar]
  cases hvalue : lookup v.name with
  | some value => exact ⟨_, rfl⟩
  | none =>
    have hoptional : v.isRequired = false := by simpa [Variable.isMissing, hvalue] using h
    exact ⟨out, by simp [hoptional]⟩

/-- Parts without a missing variable lead to a text. -/
theorem exists_foldlM_expandPart_eq_ok {parts : List Part}
    (h : ∀ v ∈ parts.flatMap Part.vars, v.isMissing lookup = false) (out : Text) :
    ∃ result, parts.foldlM (expandPart lookup) out = .ok result := by
  refine Except.exists_foldlM_eq_ok (fun part hpart out => ?_) out
  cases part with
  | literal text => exact ⟨_, rfl⟩
  | expression vars =>
    refine Except.exists_foldlM_eq_ok (f := expandVar lookup) (fun v hv out => ?_) out
    exact exists_expandVar_eq_ok (h v (List.mem_flatMap.mpr ⟨_, hpart, hv⟩)) out

/-- Parts end at their first missing variable. -/
theorem foldlM_expandPart_eq_error {parts : List Part} {v : Variable}
    (h : (parts.flatMap Part.vars).find? (·.isMissing lookup) = some v) (out : Text) :
    parts.foldlM (expandPart lookup) out = .error (.missingVariable v.name) := by
  induction parts generalizing out with
  | nil => exact absurd h (by simp)
  | cons part parts ih =>
    rw [List.flatMap_cons, List.find?_append, Option.or_eq_some_iff] at h
    rw [List.foldlM_cons]
    rcases h with hhere | ⟨hnone, hlater⟩
    · have hpart : expandPart lookup out part = .error (.missingVariable v.name) := by
        cases part with
        | literal text => exact absurd hhere (by simp [Part.vars])
        | expression vars =>
          exact Except.foldlM_eq_error_of_find? (f := expandVar lookup)
            (e := fun v => .missingVariable v.name) (fun _ => expandVar_of_isMissing)
            (fun _ => exists_expandVar_eq_ok) hhere out
      rw [hpart, Except.error_bind]
    · have hfree : ∀ w ∈ [part].flatMap Part.vars, w.isMissing lookup = false := by
        simpa using List.find?_eq_none.mp hnone
      obtain ⟨next, hnext⟩ := exists_foldlM_expandPart_eq_ok hfree out
      obtain ⟨_, hpart, hdone⟩ := Except.bind_eq_ok_iff.mp hnext
      rw [hpart, Except.ok_bind, ih hlater]

theorem exists_expand_eq_ok {template : Template}
    (h : ∀ v ∈ template.vars, v.isMissing lookup = false) :
    ∃ uri, template.expand lookup = .ok uri :=
  exists_foldlM_expandPart_eq_ok h []

theorem expand_eq_error {template : Template} {v : Variable}
    (h : template.vars.find? (·.isMissing lookup) = some v) :
    template.expand lookup = .error (.missingVariable v.name) :=
  foldlM_expandPart_eq_error h []

end Template

namespace Link

variable {link : Link} {template : Template} {lookup : Text → Option Text}

theorem expand_eq_error (hparse : Template.parse link.href = .ok template)
    {v : Template.Variable} (h : template.vars.find? (·.isMissing lookup) = some v) :
    link.expand lookup = .error (.missingVariable v.name) := by
  rw [expand_eq hparse, Template.expand_eq_error h, Except.error_bind]

/-- A link whose variables behind the href may go without values expands if no variable of the href
is missing. -/
theorem exists_expand_eq_ok (hparse : Template.parse link.href = .ok template)
    (h : ∀ v ∈ template.vars, v.isMissing lookup = false)
    (htrailing : ∀ v ∈ link.trailing, v.isRequired = false) :
    ∃ expanded, link.expand lookup = .ok expanded := by
  obtain ⟨out, hout⟩ := Template.exists_expand_eq_ok h
  obtain ⟨href, hhref⟩ := Except.exists_foldlM_eq_ok (f := Template.expandVar lookup)
    (fun v hv => Template.exists_expandVar_eq_ok (by simp [Template.Variable.isMissing,
      htrailing v hv])) out
  exact ⟨_, by rw [expand_eq hparse, hout, Except.ok_bind, hhref, Except.ok_bind]; rfl⟩

end Link

end Signpost
