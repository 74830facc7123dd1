import Signpost.Proofs.Template.Expansion

/-!
# Where an expansion begins its fragment

The fragment of a URI begins at the first number sign. In an expansion a number sign stands in a
literal of the template or in front of the value of a fragment variable, and nowhere else, since
names and values are encoded. Variables are put out where they stand: once a fragment is begun, all
that follows belongs to it, a pair for the query included.

## Main definitions

* `withoutFragment`: what comes before the fragment of an href.
* `Template.steps`: the parts of a template with each variable on its own.
* `Template.BeginsFragment`: parts that put out a number sign.

## Main results

* `Template.number_mem_foldlM_expandPart`: when parts that are expanded have put out a number sign.
* `Template.exists_front_expand`: what an expansion puts out in front of the value of a variable.
-/

namespace Signpost

/-- What comes before the fragment of an href. -/
def withoutFragment (href : Text) : Text :=
  href.takeWhile (· ≠ '#')

/-- A beginning of an href lies in front of the fragment if it has no number sign. -/
theorem prefix_withoutFragment_iff {front href : Text} (h : front <+: href) :
    front <+: withoutFragment href ↔ '#' ∉ front := by
  obtain ⟨rest, rfl⟩ := h
  constructor
  · intro hbegins hmem
    have hkept := List.all_eq_true.mp List.all_takeWhile '#' (hbegins.subset hmem)
    exact absurd hkept (by decide)
  · intro hfront
    have hkept : ∀ c ∈ front, decide (c ≠ '#') = true := by
      intro c hc
      exact decide_eq_true fun hnumber => hfront (hnumber ▸ hc)
    rw [withoutFragment, List.takeWhile_append_of_pos hkept]
    exact List.prefix_append ..

namespace Template

variable {lookup : Text → Option Text} {out result : Text}

/-! ### One variable at a time -/

/-- A part with each of its variables in an expression of its own. -/
def Part.steps : Part → List Part
  | literal text => [.literal text]
  | expression vars => vars.map fun v => .expression [v]

/-- The parts of a template with each variable in an expression of its own. -/
def steps (template : Template) : List Part :=
  template.parts.flatMap Part.steps

theorem foldlM_flatMap_steps (lookup : Text → Option Text) (parts : List Part) (out : Text) :
    (parts.flatMap Part.steps).foldlM (expandPart lookup) out =
      parts.foldlM (expandPart lookup) out := by
  induction parts generalizing out with
  | nil => rfl
  | cons part parts ih =>
    have hpart : part.steps.foldlM (expandPart lookup) out = expandPart lookup out part := by
      cases part with
      | literal text => rfl
      | expression vars => exact foldlM_singletons lookup vars out
    rw [List.flatMap_cons, List.foldlM_append, hpart, List.foldlM_cons]
    simp only [ih]

/-- An expansion takes one step after the other. -/
theorem expand_eq_foldlM_steps (template : Template) (lookup : Text → Option Text) :
    template.expand lookup = template.steps.foldlM (expandPart lookup) [] :=
  (foldlM_flatMap_steps lookup template.parts []).symm

/-! ### Number signs -/

/-- The variable puts out a number sign: it goes into the fragment and has a value. -/
def Variable.BeginsFragment (lookup : Text → Option Text) (v : Variable) : Prop :=
  v.kind = .fragment ∧ (lookup v.name).isSome = true

/-- The part puts out a number sign. -/
def Part.BeginsFragment (lookup : Text → Option Text) : Part → Prop
  | literal text => '#' ∈ text
  | expression vars => ∃ v ∈ vars, v.BeginsFragment lookup

/-- One of the parts puts out a number sign. -/
def BeginsFragment (lookup : Text → Option Text) (parts : List Part) : Prop :=
  ∃ part ∈ parts, part.BeginsFragment lookup

theorem number_mem_addition (out : Text) (v : Variable) (value : Text) :
    '#' ∈ addition out v value ↔ v.kind = .fragment := by
  have hencode (text : Text) : '#' ∉ Percent.encode text := Percent.notMem_encode (by decide) text
  have hsegments : '#' ∉ segmentPath value := notMem_segmentPath (by decide) (by decide) value
  have hpair : '#' ∉ (if '?' ∈ out then '&' else '?') :: Percent.encode v.name ++
      '=' :: Percent.encode value := by
    by_cases hquestion : '?' ∈ out
    · simp [hquestion, hencode]
    · simp [hquestion, hencode]
  rw [addition]
  cases v.kind with
  | path => simp [hencode]
  | query => simpa using hpair
  | queryContinued => simpa using hpair
  | segment =>
    by_cases hexploded : v.exploded = true
    · simp [hexploded, hsegments]
    · simp [hexploded, hencode]
  | fragment => simp

theorem number_mem_expandVar {v : Variable} (h : expandVar lookup out v = .ok result) :
    '#' ∈ result ↔ '#' ∈ out ∨ v.BeginsFragment lookup := by
  rw [Variable.BeginsFragment]
  obtain ⟨value, hvalue, rfl⟩ | ⟨hnone, -, rfl⟩ := expandVar_eq_ok_iff.mp h
  · rw [List.mem_append, number_mem_addition, hvalue]
    simp
  · rw [hnone]
    simp

theorem number_mem_expandPart {part : Part} (h : expandPart lookup out part = .ok result) :
    '#' ∈ result ↔ '#' ∈ out ∨ part.BeginsFragment lookup := by
  cases part with
  | literal text =>
    obtain rfl := Except.ok.inj h
    exact List.mem_append
  | expression vars =>
    exact Except.iff_or_exists_of_foldlM (f := expandVar lookup) (q := ('#' ∈ ·))
      (fun _ _ _ => number_mem_expandVar) h

/-- **A number sign is in what parts expand to** exactly if it was there before or one of the parts
puts it out. -/
theorem number_mem_foldlM_expandPart {parts : List Part}
    (h : parts.foldlM (expandPart lookup) out = .ok result) :
    '#' ∈ result ↔ '#' ∈ out ∨ BeginsFragment lookup parts :=
  Except.iff_or_exists_of_foldlM (f := expandPart lookup) (q := ('#' ∈ ·))
    (fun _ _ _ => number_mem_expandPart) h

/-! ### Beginnings -/

theorem prefix_expandVar {v : Variable} (h : expandVar lookup out v = .ok result) :
    out <+: result := by
  obtain ⟨value, -, rfl⟩ | ⟨-, -, rfl⟩ := expandVar_eq_ok_iff.mp h
  · exact List.prefix_append ..
  · exact List.prefix_rfl

theorem prefix_expandPart {part : Part} (h : expandPart lookup out part = .ok result) :
    out <+: result := by
  cases part with
  | literal text =>
    obtain rfl := Except.ok.inj h
    exact List.prefix_append ..
  | expression vars =>
    exact Except.foldlM_induction (f := expandVar lookup) (q := (out <+: ·))
      (fun _ _ _ _ hnext hnow => hnow.trans (prefix_expandVar hnext)) h List.prefix_rfl

/-- The value of a variable is put out behind what the parts in front of the variable expand to,
which has a number sign exactly if one of these parts puts it out. -/
theorem exists_front_expand {template : Template} (h : template.expand lookup = .ok result)
    {before after : List Part} {v : Variable} {value : Text}
    (hsteps : template.steps = before ++ .expression [v] :: after)
    (hvalue : lookup v.name = some value) :
    ∃ front, before.foldlM (expandPart lookup) [] = .ok front ∧
      front ++ addition front v value <+: result ∧
      ('#' ∈ front ↔ BeginsFragment lookup before) := by
  rw [expand_eq_foldlM_steps, hsteps, List.foldlM_append] at h
  obtain ⟨front, hfront, h⟩ := Except.bind_eq_ok_iff.mp h
  obtain ⟨next, hnext, hrest⟩ := Except.bind_eq_ok_iff.mp h
  -- Parts never take back what was put out, so that it is enough to look one step further.
  have hadded : next = front ++ addition front v value := by
    have hnow : expandPart lookup front (.expression [v]) =
        .ok (front ++ addition front v value) := by
      simp [expandPart, expandVar, hvalue]
    exact (Except.ok.inj (hnow.symm.trans hnext)).symm
  have hnumber := number_mem_foldlM_expandPart hfront
  refine ⟨front, hfront, ?_, by simpa using hnumber⟩
  rw [← hadded]
  exact Except.foldlM_induction (f := expandPart lookup) (q := (next <+: ·))
    (fun _ _ _ _ hstep hnow => hnow.trans (prefix_expandPart hstep)) hrest List.prefix_rfl

end Template

end Signpost
