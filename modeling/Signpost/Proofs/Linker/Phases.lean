import Signpost.Proofs.Linker.Residue
import Signpost.Proofs.Template.Missing

/-!
# What goes wrong when

A call that cannot be linked to fails while the link is made, because of the metadata of its
handler, because of a wrong number of arguments or because its href is no template. A value that is
missing is not found out then: the link is made with the variable in its place. When the link is
expanded, a missing value is all that can go wrong, and the error names the first variable of the
href that has none.

## Main results

* `Linker.isBinding_eq_false`: no link fails to be made because a value is missing.
* `Linker.expand_under_linkLast`: both phases.
-/

namespace Signpost

/-! ### While a link is made -/

namespace QueryPair

theorem isBinding_of_ofArgument {formatters : Formatters} {parameter : Parameter} {name : Text}
    {argument : Argument} {error : LinkError}
    (h : ofArgument formatters parameter name argument = .error error) :
    error.isBinding = false := by
  cases argument with
  | absent =>
    rw [ofArgument, ofAbsent] at h
    split at h
    · exact absurd h (by simp)
    · split at h
      · exact absurd h (by simp)
      · split at h
        · exact absurd h (by simp)
        · obtain rfl := Except.error.inj h
          rfl
  | scalar value => exact absurd h (by simp [ofArgument])
  | collection items => exact absurd h (by simp [ofArgument])
  | keyed entries => exact absurd h (by simp [ofArgument])
  | body type => exact absurd h (by simp [ofArgument])

end QueryPair

namespace CallBinding

variable {formatters : Formatters} {mapping : Mapping} {call : Call} {method : Method}

theorem isBinding_of_variableName {index : Nat} {parameter : Parameter} :
    ∀ error, variableName call method index parameter = .error error → error.isBinding = false := by
  intro error h
  rw [variableName] at h
  split at h
  · exact absurd h (by simp)
  · obtain rfl := Except.error.inj h
    rfl

theorem isBinding_of_bind {binding : CallBinding} {index : Nat} {parameter : Parameter}
    {argument : Argument} :
    ∀ error, binding.bind formatters mapping call method index parameter argument = .error error →
      error.isBinding = false := by
  rw [bind]
  cases parameter.role with
  | path =>
    refine Except.forall_error_bind isBinding_of_variableName fun name _ error h => ?_
    cases h
  | query =>
    refine Except.forall_error_bind isBinding_of_variableName fun name _ => ?_
    refine Except.forall_error_bind (fun error => QueryPair.isBinding_of_ofArgument) ?_
    rintro (_ | pairs) - error h
    · cases h
    · cases h
  | body => rintro error ⟨⟩
  | other => rintro error ⟨⟩

theorem isBinding_of_bindFrom {binding : CallBinding} {index : Nat} {givens : List Given} :
    ∀ error, bindFrom formatters mapping call method binding index givens = .error error →
      error.isBinding = false := by
  induction givens generalizing binding index with
  | nil => rintro error ⟨⟩
  | cons given givens ih =>
    rw [bindFrom]
    exact Except.forall_error_bind isBinding_of_bind fun _ _ => ih

end CallBinding

theorem Target.isBinding_of_toLink {target : Target} :
    ∀ error, target.toLink = .error error → error.isBinding = false := by
  refine Except.forall_error_bind (fun error h => ?_) fun link _ error h => absurd h nofun
  rw [Link.parse] at h
  split at h
  · exact absurd h (by simp)
  · obtain rfl := Except.error.inj h
    rfl

namespace Linker

variable {linker : Linker} {surroundings : Surroundings} {recording : Recording}
  {draft : LinkDraft}

theorem isBinding_of_calledMethod {call : Call} :
    ∀ error, calledMethod surroundings call = .error error → error.isBinding = false := by
  refine Except.forall_error_bind (fun error h => ?_) fun method _ error h => ?_
  · rw [Call.declaration] at h
    split at h
    · exact absurd h (by simp)
    · obtain rfl := Except.error.inj h
      rfl
  · by_cases hlength : call.arguments.length = method.parameters.length
    · rw [if_neg (not_not_intro hlength)] at h
      cases h
    · rw [if_pos hlength] at h
      obtain rfl := Except.error.inj h
      rfl

theorem isBinding_of_target {mapping : Mapping} {parameters : List Argument} {call : Call}
    {method : Method} :
    ∀ error, linker.target mapping parameters call method = .error error →
      error.isBinding = false := by
  refine Except.forall_error_bind ?_ fun target _ => ?_
  · refine Except.forall_error_bind ?_ fun binding _ error h => absurd h nofun
    exact CallBinding.isBinding_of_bindFrom
  · refine Except.forall_error_bind Target.isBinding_of_toLink fun link _ error h => ?_
    cases h

/-- No link fails to be made because a value is missing. -/
theorem isBinding_eq_false {error : LinkError}
    (h : (linker.linkLast surroundings recording).1 = .error error) : error.isBinding = false := by
  rw [linkLast] at h
  cases hlast : recording.last with
  | none =>
    simp only [Recording.lastCall, hlast, Except.error.injEq] at h
    rw [← h]
    rfl
  | some call =>
    simp only [Recording.lastCall, hlast] at h
    cases hmethod : calledMethod surroundings call with
    | error other =>
      simp only [linkCall, hmethod, Except.error.injEq] at h
      exact isBinding_of_calledMethod error (h ▸ hmethod)
    | ok method =>
      simp only [linkCall_eq linker hmethod] at h
      split at h
      · obtain rfl := Except.error.inj h
        rfl
      · split at h
        · rename_i other htarget
          exact isBinding_of_target error (Except.error.inj h ▸ htarget)
        · exact absurd h (by simp)

/-! ### When a link is expanded -/

/-- The variables behind the href of a link to a call may go without values. -/
theorem isRequired_of_mem_trailing (h : (linker.linkLast surroundings recording).1 = .ok draft)
    (rel : LinkRelation) {v : Template.Variable} (hv : v ∈ (draft.under rel).trailing) :
    v.isRequired = false := by
  obtain ⟨call, method, -, -, -, hcall, hmethod, -⟩ := linkLast_eq_ok_iff.mp h
  obtain ⟨⟨template, hparse⟩, hvars⟩ := parse_uri_linkLast h hcall hmethod
  have hmem := LinkDraft.mem_vars_of_mem_trailing hv
  rw [hvars] at hmem
  have hquery := Target.isQuery_of_mem_optionalVariables hmem
  rw [Template.Variable.isRequired]
  cases hkind : v.kind with
  | path => exact absurd hquery (by rw [hkind]; decide)
  | query => rfl
  | queryContinued => rfl
  | segment => rfl
  | fragment => rfl

/-- **Errors surface in their phase.** Whatever a linker remembers, it never fails to make a link to
a call because a value is missing. A link that it makes has an href that is a template. When the
link, under whatever relation, is expanded with any values, it expands exactly if each variable in
the path of the href has a value; otherwise the error names the first one that has none. -/
theorem expand_under_linkLast (linker : Linker) (surroundings : Surroundings)
    (recording : Recording) :
    (∀ error, (linker.linkLast surroundings recording).1 = .error error →
        error.isBinding = false) ∧
      ∀ draft, (linker.linkLast surroundings recording).1 = .ok draft →
        ∃ template, Template.parse draft.uri = .ok template ∧
          ∀ (rel : LinkRelation) (lookup : Text → Option Text),
            ((∃ expanded, (draft.under rel).expand lookup = .ok expanded) ↔
              ∀ v ∈ template.vars, v.kind = .path → ∃ value, lookup v.name = some value) ∧
            ∀ error, (draft.under rel).expand lookup = .error error ↔
              ∃ v, template.vars.find? (fun v => v.kind = .path ∧ lookup v.name = none) = some v ∧
                error = .missingVariable v.name := by
  refine ⟨fun error => isBinding_eq_false, fun draft h => ?_⟩
  obtain ⟨call, method, -, -, -, hcall, hmethod, -⟩ := linkLast_eq_ok_iff.mp h
  obtain ⟨⟨template, hparse⟩, -⟩ := parse_uri_linkLast h hcall hmethod
  refine ⟨template, hparse, fun rel lookup => ?_⟩
  have hhref : Template.parse (draft.under rel).href = .ok template := by
    rw [LinkDraft.href_under, hparse]
  have hmissing : (fun v : Template.Variable => decide (v.kind = .path ∧ lookup v.name = none)) =
      Template.Variable.isMissing lookup := by
    funext v
    rw [Template.Variable.isMissing_eq_decide]
  have hvalues : (∀ v ∈ template.vars, v.kind = .path → ∃ value, lookup v.name = some value) ↔
      template.vars.find? (·.isMissing lookup) = none := by
    rw [List.find?_eq_none]
    refine forall₂_congr fun v _ => ?_
    rw [Template.Variable.isMissing_eq_decide, decide_eq_true_iff, not_and,
      ← ne_eq, Option.ne_none_iff_exists']
  rw [hvalues, hmissing]
  cases hfind : template.vars.find? (·.isMissing lookup) with
  | none =>
    obtain ⟨expanded, hexpanded⟩ := Link.exists_expand_eq_ok hhref
      (fun v hv => Bool.eq_false_iff.mpr (List.find?_eq_none.mp hfind v hv))
      (fun v => isRequired_of_mem_trailing h rel)
    rw [AffordingLink.expand, hexpanded]
    exact ⟨iff_of_true ⟨_, rfl⟩ rfl, fun error => iff_of_false nofun nofun⟩
  | some v =>
    rw [AffordingLink.expand, Link.expand_eq_error hhref hfind]
    refine ⟨iff_of_false nofun nofun, fun error => ?_⟩
    rw [Except.error_bind, Except.error.injEq]
    constructor
    · rintro rfl
      exact ⟨v, rfl, rfl⟩
    · rintro ⟨w, ⟨⟩, rfl⟩
      rfl

/-- A link to the members of a group that is still to be named expands with a name alone, and asks
for the name without one. -/
theorem expand_under_linkLast_member :
    (({} : Linker).linkLast { handlers := ⟨[memberHandler]⟩ }
        ⟨memberHandler, [], some memberCall⟩).1 = .ok memberDraft ∧
      (∃ expanded, (memberDraft.under .self).expand
        (fun name => if name = "id".toList then some "7".toList else none) = .ok expanded) ∧
      (memberDraft.under .self).expand (fun _ => none) =
        .error (.missingVariable "id".toList) := by
  obtain ⟨-, hlinks⟩ := expand_under_linkLast {} { handlers := ⟨[memberHandler]⟩ }
    ⟨memberHandler, [], some memberCall⟩
  obtain ⟨template, hparse, hexpand⟩ := hlinks memberDraft linkLast_member
  have hvars : template.vars = [⟨"id".toList, .path, false⟩] := by
    have hembedded : (Link.ofHref memberDraft.uri).vars = [⟨"id".toList, .path, false⟩] := by cbv
    rwa [Link.ofHref_of_parse hparse] at hembedded
  refine ⟨linkLast_member, (hexpand .self _).1.mpr ?_, ((hexpand .self _).2 _).mpr ?_⟩
  · simp [hvars]
  · simp [hvars]

end Linker

end Signpost
