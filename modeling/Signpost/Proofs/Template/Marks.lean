import Mathlib
import Signpost.Proofs.Template.Expansion

/-!
# What values cannot change in an expansion

A URI is given its structure by reserved characters: slashes, question marks, ampersands and the
like. Values are encoded, so that none of these characters comes from a value. They come from the
literals of the template and from its variables, each of which adds its own as soon as it is bound.
Only a variable that spans several segments adds as many slashes as its value asks for. Whether the
next pair of a query follows a question mark or an ampersand depends on what was put out so far, but
again on its structure alone.

Hence two expansions of a template that bind the same variables have the same structure, whatever
the values are.

## Main definitions

* `Template.marks`: the reserved characters of a text.
* `Template.IsStructural`: a choice of characters that no value brings.
* `Template.Alike`: two outcomes that differ in other characters only.

## Main results

* `Template.alike_expand`: two expansions that bind the same variables.
* `Template.marks_expand`: the reserved characters of an expansion.
-/

namespace Signpost.Template

/-- The reserved characters of a text, in their order. -/
def marks (text : Text) : Text :=
  text.filter fun c => decide (Percent.IsReserved c)

/-- A choice of characters that no encoded value holds and that shows where a query begins. -/
structure IsStructural (keep : Char → Bool) : Prop where
  reserved : ∀ c, keep c = true → Percent.IsReserved c
  question : keep '?' = true

variable {keep : Char → Bool} {lookup other : Text → Option Text} {out out' : Text}

/-! ### One variable -/

namespace IsStructural

theorem filter_encode (h : IsStructural keep) (text : Text) :
    (Percent.encode text).filter keep = [] := by
  rw [List.filter_eq_nil_iff]
  intro c hc hkeep
  exact Percent.notMem_encode (h.reserved c hkeep) text hc

/-- Whether a query was begun is seen from the structure. -/
theorem question_mem_iff (h : IsStructural keep) (hout : out.filter keep = out'.filter keep) :
    '?' ∈ out ↔ '?' ∈ out' := by
  have hfilter (text : Text) : '?' ∈ text.filter keep ↔ '?' ∈ text := by
    rw [List.mem_filter, and_iff_left h.question]
  rw [← hfilter out, hout, hfilter]

theorem filter_segmentPath (h : IsStructural keep) (hslash : keep '/' = false) (value : Text) :
    (segmentPath value).filter keep = [] := by
  rw [segmentPath, List.filter_flatMap, List.flatMap_eq_nil_iff]
  intro segment _
  rw [List.filter_cons_of_neg (by simp [hslash]), h.filter_encode]

/-- What a variable adds has the same structure for every value and behind every text of the same
structure. -/
theorem filter_addition (h : IsStructural keep) (hout : out.filter keep = out'.filter keep)
    {v : Variable} (hsegment : v.kind = .segment → v.exploded = true → keep '/' = false)
    (value value' : Text) :
    (addition out v value).filter keep = (addition out' v value').filter keep := by
  -- The mark in front of a pair is the one place where what was put out before has a say.
  have hmark : (if '?' ∈ out then '&' else '?') = if '?' ∈ out' then '&' else '?' := by
    simp only [h.question_mem_iff hout]
  have hpair : ∀ mark : Char,
      (mark :: Percent.encode v.name ++ '=' :: Percent.encode value).filter keep =
        (mark :: Percent.encode v.name ++ '=' :: Percent.encode value').filter keep := by
    intro mark
    simp [List.filter_cons, h.filter_encode]
  rw [addition, addition]
  cases hkind : v.kind with
  | path => rw [h.filter_encode, h.filter_encode]
  | query =>
    simp only [hmark]
    exact hpair _
  | queryContinued =>
    simp only [hmark]
    exact hpair _
  | segment =>
    by_cases hexploded : v.exploded = true
    · simp only [hexploded, if_true]
      rw [h.filter_segmentPath (hsegment hkind hexploded),
        h.filter_segmentPath (hsegment hkind hexploded)]
    · simp [hexploded, List.filter_cons, h.filter_encode]
  | fragment => simp [List.filter_cons, h.filter_encode]

end IsStructural

/-! ### Outcomes alike -/

/-- Two outcomes that do not differ in the characters of `keep`: the same error, or texts with the
same of these characters in the same order. -/
inductive Alike (keep : Char → Bool) : Except LinkError Text → Except LinkError Text → Prop
  | error (error : LinkError) : Alike keep (.error error) (.error error)
  | ok {out out' : Text} (h : out.filter keep = out'.filter keep) : Alike keep (.ok out) (.ok out')

theorem Alike.bind {x y : Except LinkError Text} {f g : Text → Except LinkError Text}
    (h : Alike keep x y)
    (hnext : ∀ out out', out.filter keep = out'.filter keep → Alike keep (f out) (g out')) :
    Alike keep (x >>= f) (y >>= g) := by
  cases h with
  | error error => exact .error error
  | ok hout => exact hnext _ _ hout

/-- Steps that lead from texts of the same structure to outcomes alike do so in a row. -/
theorem Alike.foldlM {α : Type} {step step' : Text → α → Except LinkError Text} {as : List α}
    (hsteps : ∀ a ∈ as, ∀ out out', out.filter keep = out'.filter keep →
      Alike keep (step out a) (step' out' a))
    (hout : out.filter keep = out'.filter keep) :
    Alike keep (as.foldlM step out) (as.foldlM step' out') := by
  induction as generalizing out out' with
  | nil => exact .ok hout
  | cons a as ih =>
    rw [List.forall_mem_cons] at hsteps
    obtain ⟨hstep, hrest⟩ := hsteps
    rw [List.foldlM_cons, List.foldlM_cons]
    exact (hstep out out' hout).bind fun _ _ => ih hrest

/-- The lookups bind the same of the variables, and if slashes are kept, none that spans several
segments. -/
structure BindAlike (keep : Char → Bool) (lookup other : Text → Option Text)
    (vars : List Variable) : Prop where
  same : ∀ v ∈ vars, (lookup v.name).isSome = (other v.name).isSome
  segment : ∀ v ∈ vars, v.kind = .segment → v.exploded = true → (lookup v.name).isSome = true →
    keep '/' = false

theorem BindAlike.of_subset {vars more : List Variable} (h : BindAlike keep lookup other more)
    (hsubset : vars ⊆ more) : BindAlike keep lookup other vars where
  same v hv := h.same v (hsubset hv)
  segment v hv := h.segment v (hsubset hv)

theorem alike_expandVar (hkeep : IsStructural keep) {vars : List Variable}
    (h : BindAlike keep lookup other vars) {v : Variable} (hv : v ∈ vars)
    (hout : out.filter keep = out'.filter keep) :
    Alike keep (expandVar lookup out v) (expandVar other out' v) := by
  have hsame := h.same v hv
  rw [expandVar, expandVar]
  cases hvalue : lookup v.name with
  | none =>
    rw [hvalue, Option.isSome_none] at hsame
    have hnone : other v.name = none := Option.not_isSome_iff_eq_none.mp (by simp [← hsame])
    rw [hnone]
    by_cases hrequired : v.isRequired = true
    · simp only [hrequired, if_true]
      exact .error _
    · simp only [hrequired]
      exact .ok hout
  | some value =>
    rw [hvalue, Option.isSome_some] at hsame
    obtain ⟨value', hvalue'⟩ := Option.isSome_iff_exists.mp hsame.symm
    have hsegment : v.kind = .segment → v.exploded = true → keep '/' = false :=
      fun hkind hexploded => h.segment v hv hkind hexploded (by rw [hvalue, Option.isSome_some])
    rw [hvalue']
    refine .ok ?_
    rw [List.filter_append, List.filter_append, hout, hkeep.filter_addition hout hsegment]

theorem alike_expandPart (hkeep : IsStructural keep) {part : Part}
    (h : BindAlike keep lookup other part.vars) (hout : out.filter keep = out'.filter keep) :
    Alike keep (expandPart lookup out part) (expandPart other out' part) := by
  cases part with
  | literal text =>
    refine .ok ?_
    rw [List.filter_append, List.filter_append, hout]
  | expression vars =>
    exact .foldlM (fun v hv out out' => alike_expandVar hkeep h hv) hout

/-- **Two expansions that bind the same variables** fail with the same error or give texts of the
same structure. -/
theorem alike_expand (hkeep : IsStructural keep) {template : Template}
    (h : BindAlike keep lookup other template.vars) :
    Alike keep (template.expand lookup) (template.expand other) := by
  refine .foldlM (fun part hpart out out' => alike_expandPart hkeep ?_) rfl
  exact h.of_subset fun v hv => List.mem_flatMap.mpr ⟨part, hpart, hv⟩

/-! ### Reserved characters -/

theorem isStructural_marks : IsStructural fun c => decide (Percent.IsReserved c) where
  reserved _ hkeep := of_decide_eq_true hkeep
  question := by decide

theorem isStructural_marks_but_slash :
    IsStructural fun c => decide (Percent.IsReserved c) && decide (c ≠ '/') where
  reserved _ hkeep := of_decide_eq_true (Bool.and_eq_true_iff.mp hkeep).1
  question := by decide

/-- **Values bring no structure into an expansion.** Take any template and any two lookups that have
a value for the same of its variables. Either both expansions fail with the same error, or both
succeed with the same reserved characters in the same order, slashes apart; with the slashes too, if
no variable is bound that spans several segments. -/
theorem marks_expand (template : Template)
    (hsame : ∀ v ∈ template.vars, (lookup v.name).isSome = (other v.name).isSome) :
    (∃ error, template.expand lookup = .error error ∧ template.expand other = .error error) ∨
      ∃ href href', template.expand lookup = .ok href ∧ template.expand other = .ok href' ∧
        (marks href).filter (· ≠ '/') = (marks href').filter (· ≠ '/') ∧
        ((∀ v ∈ template.vars, v.kind = .segment → v.exploded = true → lookup v.name = none) →
          marks href = marks href') := by
  have hslash : BindAlike (fun c => decide (Percent.IsReserved c) && decide (c ≠ '/')) lookup other
      template.vars := ⟨hsame, fun _ _ _ _ _ => by simp⟩
  have hbut := alike_expand isStructural_marks_but_slash hslash
  generalize hresult : template.expand lookup = result at hbut
  generalize hresult' : template.expand other = result' at hbut
  cases hbut with
  | error error => exact .inl ⟨error, rfl, rfl⟩
  | @ok href href' hfilter =>
    -- Both hrefs are known by now; what is left is to compare them once more with the slashes.
    refine .inr ⟨href, href', rfl, rfl, ?_, fun hunbound => ?_⟩
    · simpa only [marks, List.filter_filter, Bool.and_comm] using hfilter
    · have hall : BindAlike (fun c => decide (Percent.IsReserved c)) lookup other template.vars :=
        ⟨hsame, fun v hv hkind hexploded hbound => by
          rw [hunbound v hv hkind hexploded] at hbound
          exact absurd hbound (by simp)⟩
      have hmarks := alike_expand isStructural_marks hall
      rw [hresult, hresult'] at hmarks
      cases hmarks with
      | ok hmarks => exact hmarks

theorem marks_expand_people :
    let template : Template := ⟨"/people/{id}{/rest*}{?q}".toList, [.literal "/people/".toList,
      .expression [⟨"id".toList, .path, false⟩], .expression [⟨"rest".toList, .segment, true⟩],
      .expression [⟨"q".toList, .query, false⟩]]⟩
    let lookup (id q : Text) (name : Text) : Option Text :=
      if name = "id".toList then some id else if name = "q".toList then some q else none
    parse "/people/{id}{/rest*}{?q}".toList = .ok template ∧
      ∃ href href', template.expand (lookup ['1'] ['x']) = .ok href ∧
        template.expand (lookup "a/b?c".toList "&y={z}#".toList) = .ok href' ∧
        href' = "/people/a%2Fb%3Fc?q=%26y%3D%7Bz%7D%23".toList ∧ marks href = marks href' := by
  intro template lookup
  have hparse : parse "/people/{id}{/rest*}{?q}".toList = .ok template := by cbv
  have hexpand : template.expand (lookup "a/b?c".toList "&y={z}#".toList) =
      .ok "/people/a%2Fb%3Fc?q=%26y%3D%7Bz%7D%23".toList := by
    cbv
  have hsame : ∀ v ∈ template.vars, (lookup ['1'] ['x'] v.name).isSome =
      (lookup "a/b?c".toList "&y={z}#".toList v.name).isSome := by
    decide
  have hunbound : ∀ v ∈ template.vars, v.kind = .segment → v.exploded = true →
      lookup ['1'] ['x'] v.name = none := by
    decide
  rcases marks_expand template hsame with
    ⟨error, -, herror⟩ | ⟨href, href', hhref, hhref', -, hmarks⟩
  · rw [hexpand] at herror
    exact absurd herror (by simp)
  · refine ⟨hparse, href, href', hhref, hhref', ?_, hmarks hunbound⟩
    exact Except.ok.inj (hhref'.symm.trans hexpand)

end Signpost.Template
