import Mathlib.Data.Fintype.EquivFin
import Signpost.Proofs.Binding.Slots

/-!
# Which argument a variable takes

Several arguments may be for one variable of the path. The class-level argument at its position is
bound first, then the arguments of the call under its name, one after the other. A later text
replaces an earlier one and an argument without a text replaces nothing, so that the last text among
those of the call comes first, the one of the class-level argument second and the lack of a value
third.

## Main definitions

* `Given.textAt?`, `Given.gapAt?`: what an argument of a call puts under a key.
* `Given.lastTextAt?`: the last text that the arguments of a call put under a key.
* `Given.lastTextFor?`: the last text among the arguments that are named like a variable.
* `PathBinding.positionText?`: the text of the class-level argument at the position of a variable.

## Main results

* `Given.get?_foldl_bindPath`: what is under a key after the arguments of a call.
* `PathBinding.get?_ofParameters`: what is under a key after the class-level arguments.
* `Slot.get?_bindings`: what is bound to a variable in the end.
* `Slot.get?_bindings_of_unstored`: the same by names, if none is that of a stored catch-all.
-/

namespace Signpost

/-- Whatever formatters there are, some value has a given text. -/
theorem Formatters.exists_format_eq (formatters : Formatters) (text : Text) :
    ∃ scalar, formatters.format scalar = text := by
  obtain ⟨type, htype⟩ := Infinite.exists_notMem_finset (formatters.ofType.map (·.1)).toFinset
  refine ⟨⟨type, text⟩, ?_⟩
  have hnone : formatters.ofType.find? (·.1 = type) = none := by
    rw [List.find?_eq_none]
    intro entry hentry hsame
    exact htype (List.mem_toFinset.mpr (List.mem_map.mpr ⟨entry, hentry, by simpa using hsame⟩))
  rw [format, hnone]
  rfl

/-! ### The arguments of a call -/

namespace Given

variable {formatters : Formatters} {mapping : Mapping} {key : Text}

/-- The text that an argument puts under a key. -/
def textAt? (formatters : Formatters) (mapping : Mapping) (key : Text) (given : Given) :
    Option Text :=
  given.1.pathName?.bind fun name =>
    if key = (PathBinding.variableFor mapping name).key then
      PathBinding.text? formatters (PathBinding.variableFor mapping name) given.2
    else none

/-- What an argument puts under a key that nothing is under yet. -/
def gapAt? (mapping : Mapping) (key : Text) (given : Given) : Option Substitution :=
  given.1.pathName?.bind fun name =>
    if key = (PathBinding.variableFor mapping name).key then
      some (PathBinding.variableFor mapping name).absent
    else none

/-- The last text that the arguments of a call put under a key. -/
def lastTextAt? (formatters : Formatters) (mapping : Mapping) (key : Text) (givens : List Given) :
    Option Text :=
  (givens.filterMap (textAt? formatters mapping key)).getLast?

/-- A text replaces what is under the key, the lack of one fills a gap. -/
theorem get?_bindPath (given : Given) (values : PathBinding) :
    (given.bindPath formatters mapping values).get? key =
      ((given.textAt? formatters mapping key).map .text).or
        ((values.get? key).or (given.gapAt? mapping key)) := by
  rw [bindPath, textAt?, gapAt?]
  cases given.1.pathName? with
  | none => simp
  | some name =>
    simp only [PathBinding.get?_bind, Option.bind_some]
    by_cases hkey : key = (PathBinding.variableFor mapping name).key
    · cases htext : PathBinding.text? formatters (PathBinding.variableFor mapping name) given.2 with
      | none => simp [hkey]
      | some text => simp [hkey]
    · simp [hkey]

theorem lastTextAt?_cons (given : Given) (givens : List Given) :
    lastTextAt? formatters mapping key (given :: givens) =
      (lastTextAt? formatters mapping key givens).or (given.textAt? formatters mapping key) := by
  rw [lastTextAt?, List.filterMap_cons]
  cases given.textAt? formatters mapping key with
  | none => rw [Option.or_none, lastTextAt?]
  | some text =>
    rw [List.getLast?_cons, lastTextAt?]
    cases (givens.filterMap (textAt? formatters mapping key)).getLast? with
    | none => rfl
    | some other => rfl

/-- The last text of a call replaces what was under the key before; without one this stays, and a
gap is filled by the first argument for the key. -/
theorem get?_foldl_bindPath (givens : List Given) (values : PathBinding) :
    Table.get? (givens.foldl (bindPath formatters mapping) values) key =
      ((lastTextAt? formatters mapping key givens).map .text).or
        ((values.get? key).or (givens.findSome? (gapAt? mapping key))) := by
  induction givens generalizing values with
  | nil => simp [lastTextAt?]
  | cons given givens ih =>
    rw [List.foldl_cons, ih, get?_bindPath, lastTextAt?_cons, List.findSome?_cons]
    cases lastTextAt? formatters mapping key givens with
    | some text => simp
    | none =>
      cases given.gapAt? mapping key with
      | none => simp [Option.or_assoc]
      | some gap => simp

/-- What fills a gap is no text, or the empty one. -/
theorem getD_findSome?_gapAt?_ne {mapping : Mapping} {v : Mapping.Variable} {key : Text}
    {givens : List Given} {text : Text} (htext : text ≠ []) :
    (givens.findSome? (gapAt? mapping key)).getD v.absent ≠ .text text := by
  have habsent (w : Mapping.Variable) : w.absent ≠ .text text := by
    rw [Mapping.Variable.absent]
    split
    · simpa using htext.symm
    · simp
  cases hgap : givens.findSome? (gapAt? mapping key) with
  | none => exact habsent v
  | some gap =>
    obtain ⟨given, -, hgiven⟩ := List.exists_of_findSome?_eq_some hgap
    obtain ⟨name, -, hname⟩ := Option.bind_eq_some_iff.mp hgiven
    split at hname
    · exact Option.some_inj.mp hname ▸ habsent _
    · exact absurd hname (by simp)

/-- The text of an argument that is named like a variable. -/
def textFor? (formatters : Formatters) (v : Mapping.Variable) (given : Given) : Option Text :=
  if given.1.pathName? = some v.name then PathBinding.text? formatters v given.2 else none

/-- The last text among the arguments that are named like a variable. -/
def lastTextFor? (formatters : Formatters) (v : Mapping.Variable) (givens : List Given) :
    Option Text :=
  (givens.filterMap (textFor? formatters v)).getLast?

/-- The parameter is not named like a stored catch-all. -/
def IsUnstored (given : Given) : Prop :=
  ∀ name, given.1.pathName? = some name → Mapping.catchAllName? name = none

namespace IsUnstored

variable {given : Given} {raw : Text} {v : Mapping.Variable}

/-- The argument goes under the key of the variable it is named like. -/
theorem key_eq_iff (h : given.IsUnstored) (hv : v ∈ (Mapping.parse raw).vars) {name : Text}
    (hname : given.1.pathName? = some name) :
    v.key = (PathBinding.variableFor (Mapping.parse raw) name).key ↔ v.name = name := by
  constructor
  · intro hkey
    rw [PathBinding.variableFor] at hkey
    cases hfind : (Mapping.parse raw).find? name with
    | some w =>
      rw [hfind, Option.getD_some] at hkey
      rw [Mapping.eq_of_key_eq hv (List.mem_of_find?_eq_some hfind) hkey]
      simpa using List.find?_some hfind
    | none =>
      have hname' : v.key = name := by rwa [hfind] at hkey
      cases hcatch : v.catchAll with
      | false => rwa [Mapping.Variable.key, hcatch, if_neg (by decide)] at hname'
      | true =>
        have hstored := Mapping.catchAllName?_key hcatch
        rw [hname', h name hname] at hstored
        exact absurd hstored (by simp)
  · rintro rfl
    rw [PathBinding.variableFor, Mapping.find?_name hv, Option.getD_some]

theorem textAt?_key (h : given.IsUnstored) (hv : v ∈ (Mapping.parse raw).vars) :
    given.textAt? formatters (Mapping.parse raw) v.key = given.textFor? formatters v := by
  rw [textAt?, textFor?]
  cases hname : given.1.pathName? with
  | none => rfl
  | some name =>
    by_cases hsame : v.name = name
    · have hkey := (h.key_eq_iff hv hname).mpr hsame
      obtain rfl := hsame
      rw [Option.bind_some, if_pos hkey, if_pos rfl, PathBinding.variableFor,
        Mapping.find?_name hv, Option.getD_some]
    · have hkey := mt (h.key_eq_iff hv hname).mp hsame
      rw [Option.bind_some, if_neg hkey, if_neg fun hsome => hsame (Option.some_inj.mp hsome).symm]

theorem eq_absent_of_gapAt? (h : given.IsUnstored) (hv : v ∈ (Mapping.parse raw).vars)
    {gap : Substitution} (hgap : given.gapAt? (Mapping.parse raw) v.key = some gap) :
    gap = v.absent := by
  obtain ⟨name, hname, hgap⟩ := Option.bind_eq_some_iff.mp hgap
  split at hgap
  · rename_i hkey
    obtain rfl := (h.key_eq_iff hv hname).mp hkey
    rw [PathBinding.variableFor, Mapping.find?_name hv, Option.getD_some] at hgap
    exact (Option.some_inj.mp hgap).symm
  · exact absurd hgap (by simp)

end IsUnstored

end Given

/-! ### Class-level arguments -/

namespace PathBinding

variable {formatters : Formatters} {raw : Text} {v : Mapping.Variable}

/-- The text of the class-level argument at the position of a variable among others. -/
def positionText? (formatters : Formatters) (vars : List Mapping.Variable)
    (classLevel : List Argument) (v : Mapping.Variable) : Option Text :=
  classLevel[vars.idxOf v]?.bind (text? formatters v)

theorem positionText?_of_length_le {vars : List Mapping.Variable} {classLevel : List Argument}
    (h : classLevel.length ≤ vars.idxOf v) : positionText? formatters vars classLevel v = none := by
  rw [positionText?, List.getElem?_eq_none h, Option.bind_none]

/-- Variables behind as many others as there are class-level arguments have no part in them. -/
theorem positionText?_of_prefix {vars more : List Mapping.Variable} (hmore : vars <+: more)
    {classLevel : List Argument} (h : classLevel.length ≤ vars.length) (v : Mapping.Variable) :
    positionText? formatters more classLevel v = positionText? formatters vars classLevel v := by
  obtain ⟨others, rfl⟩ := hmore
  by_cases hv : v ∈ vars
  · rw [positionText?, List.idxOf_append_of_mem hv, positionText?]
  · have hbehind : classLevel.length ≤ (vars ++ others).idxOf v := by
      rw [List.idxOf_append_of_notMem hv]
      exact Nat.le_add_right_of_le h
    rw [positionText?_of_length_le hbehind, positionText?_of_length_le]
    rwa [List.idxOf_of_notMem hv]

/-- Class-level arguments can give any variable a text that is not empty. -/
theorem exists_positionText? (formatters : Formatters) (vars : List Mapping.Variable)
    (v : Mapping.Variable) :
    ∃ classLevel text, positionText? formatters vars classLevel v = some text ∧ text ≠ [] := by
  obtain ⟨scalar, hscalar⟩ := formatters.exists_format_eq ['a']
  refine ⟨List.replicate (vars.idxOf v) .absent ++ [.scalar scalar], encode v ['a'], ?_, ?_⟩
  · rw [positionText?, List.getElem?_append_right (by simp)]
    simp [text?, hscalar]
  · rw [encode]
    split
    · decide
    · decide

/-- The substitutions after one class-level argument. -/
def put (formatters : Formatters) (values : PathBinding) (pair : Mapping.Variable × Argument) :
    PathBinding :=
  match text? formatters pair.1 pair.2 with
  | some text => values.insert pair.1.key (.text text)
  | none => values

theorem get?_put_self (values : PathBinding) (argument : Argument) :
    (put formatters values (v, argument)).get? v.key =
      ((text? formatters v argument).map .text).or (values.get? v.key) := by
  rw [put]
  cases text? formatters v argument with
  | none => rfl
  | some text => exact Table.get?_insert_self values v.key _

theorem get?_put_of_ne {key : Text} (values : PathBinding) {pair : Mapping.Variable × Argument}
    (h : key ≠ pair.1.key) : (put formatters values pair).get? key = values.get? key := by
  rw [put]
  cases text? formatters pair.1 pair.2 with
  | none => rfl
  | some text => exact Table.get?_insert_of_ne values _ h

theorem get?_foldl_put_of_ne {key : Text} {pairs : List (Mapping.Variable × Argument)}
    (h : ∀ pair ∈ pairs, key ≠ pair.1.key) (values : PathBinding) :
    Table.get? (pairs.foldl (put formatters) values) key = values.get? key := by
  induction pairs generalizing values with
  | nil => rfl
  | cons pair pairs ih =>
    rw [List.foldl_cons, ih fun other hother => h other (List.mem_cons_of_mem pair hother),
      get?_put_of_ne values (h pair List.mem_cons_self)]

/-- Among variables with different keys, each takes the argument at its position. -/
theorem get?_foldl_put {vars : List Mapping.Variable}
    (hnodup : (vars.map Mapping.Variable.key).Nodup) (hv : v ∈ vars)
    (classLevel : List Argument) (values : PathBinding) :
    Table.get? ((vars.zip classLevel).foldl (put formatters) values) v.key =
      ((positionText? formatters vars classLevel v).map .text).or (values.get? v.key) := by
  induction vars generalizing classLevel values with
  | nil => exact absurd hv List.not_mem_nil
  | cons w vars ih =>
    rw [List.map_cons, List.nodup_cons] at hnodup
    obtain ⟨hnew, hnodup⟩ := hnodup
    cases classLevel with
    | nil => simp [positionText?]
    | cons argument classLevel =>
      rw [List.zip_cons_cons, List.foldl_cons]
      rcases eq_or_ne v w with rfl | hne
      · have hothers : ∀ pair ∈ vars.zip classLevel, v.key ≠ pair.1.key := by
          intro pair hpair hkey
          exact hnew (hkey ▸ List.mem_map_of_mem (List.of_mem_zip hpair).1)
        rw [get?_foldl_put_of_ne hothers, get?_put_self, positionText?, List.idxOf_cons_self]
        rfl
      · have hmem : v ∈ vars := (List.mem_cons.mp hv).resolve_left hne
        have hkey : v.key ≠ w.key := fun hkey => hnew (hkey ▸ List.mem_map_of_mem hmem)
        rw [ih hnodup hmem, get?_put_of_ne values hkey, positionText?, positionText?,
          List.idxOf_cons_ne _ (Ne.symm hne), List.getElem?_cons_succ]

/-- Each variable of a mapping takes the class-level argument at its position. -/
theorem get?_ofParameters (hv : v ∈ (Mapping.parse raw).vars) (classLevel : List Argument) :
    (ofParameters formatters (Mapping.parse raw) classLevel).get? v.key =
      (positionText? formatters (Mapping.parse raw).vars classLevel v).map .text :=
  (get?_foldl_put (Mapping.nodup_map_key_vars raw) hv classLevel []).trans Option.or_none

end PathBinding

/-! ### The arguments of a call and those of its class -/

namespace Slot

variable {formatters : Formatters} {raw : Text} {v : Mapping.Variable}

/-- What is bound to a variable in the end: the last text among the arguments of the call, else that
of the class-level argument at its position, else what stands for an absent value. -/
theorem get?_bindings (hv : v ∈ (Mapping.parse raw).vars) (classLevel : List Argument)
    (givens : List Given) :
    (bindings formatters (Mapping.parse raw) classLevel givens).get? v.key =
      (((Given.lastTextAt? formatters (Mapping.parse raw) v.key givens).or
          (PathBinding.positionText? formatters (Mapping.parse raw).vars classLevel v)).map
            .text).or
        (some ((givens.findSome? (Given.gapAt? (Mapping.parse raw) v.key)).getD v.absent)) := by
  rw [bindings, PathBinding.get?_complete, Given.get?_foldl_bindPath,
    PathBinding.get?_ofParameters hv, Mapping.find?_key hv]
  cases Given.lastTextAt? formatters (Mapping.parse raw) v.key givens with
  | some text => rfl
  | none =>
    cases PathBinding.positionText? formatters (Mapping.parse raw).vars classLevel v with
    | some text => rfl
    | none =>
      cases givens.findSome? (Given.gapAt? (Mapping.parse raw) v.key) with
      | some gap => rfl
      | none => rfl

/-- Class-level arguments have a say in what is bound to a variable if the call has none. -/
theorem get?_bindings_eq_or (hv : v ∈ (Mapping.parse raw).vars) (classLevel : List Argument)
    (givens : List Given) :
    (bindings formatters (Mapping.parse raw) classLevel givens).get? v.key =
      (((Given.lastTextAt? formatters (Mapping.parse raw) v.key givens).or
          (PathBinding.positionText? formatters (Mapping.parse raw).vars classLevel v)).map
            .text).or
        ((bindings formatters (Mapping.parse raw) [] givens).get? v.key) := by
  rw [get?_bindings hv, get?_bindings hv []]
  cases Given.lastTextAt? formatters (Mapping.parse raw) v.key givens with
  | some text => rfl
  | none => cases PathBinding.positionText? formatters (Mapping.parse raw).vars classLevel v <;> rfl

/-- Without a text for it among the arguments of the call, no variable is bound to the same whatever
the class-level arguments are. -/
theorem exists_get?_bindings_ne (hv : v ∈ (Mapping.parse raw).vars) {givens : List Given}
    (hnone : Given.lastTextAt? formatters (Mapping.parse raw) v.key givens = none) :
    ∃ classLevel, (bindings formatters (Mapping.parse raw) classLevel givens).get? v.key ≠
      (bindings formatters (Mapping.parse raw) [] givens).get? v.key := by
  obtain ⟨classLevel, text, hposition, htext⟩ :=
    PathBinding.exists_positionText? formatters (Mapping.parse raw).vars v
  refine ⟨classLevel, ?_⟩
  rw [get?_bindings hv, get?_bindings hv [], hnone, hposition]
  intro hsame
  exact Given.getD_findSome?_gapAt?_ne htext (Option.some_inj.mp hsame).symm

/-- If no argument of the call is named like a stored catch-all, a variable takes the last text
among those under its own name, else that of the class-level argument at its position. -/
theorem get?_bindings_of_unstored (hv : v ∈ (Mapping.parse raw).vars) (classLevel : List Argument)
    {givens : List Given} (hgivens : ∀ given ∈ givens, given.IsUnstored) :
    (bindings formatters (Mapping.parse raw) classLevel givens).get? v.key =
      some ((((Given.lastTextFor? formatters v givens).or
        (PathBinding.positionText? formatters (Mapping.parse raw).vars classLevel v)).map
          .text).getD v.absent) := by
  have hlast : Given.lastTextAt? formatters (Mapping.parse raw) v.key givens =
      Given.lastTextFor? formatters v givens := by
    rw [Given.lastTextAt?, Given.lastTextFor?]
    congr 1
    exact List.filterMap_congr fun given hgiven => (hgivens given hgiven).textAt?_key hv
  have hgap : (givens.findSome? (Given.gapAt? (Mapping.parse raw) v.key)).getD v.absent =
      v.absent := by
    cases hfound : givens.findSome? (Given.gapAt? (Mapping.parse raw) v.key) with
    | none => rfl
    | some gap =>
      obtain ⟨given, hgiven, hgap⟩ := List.exists_of_findSome?_eq_some hfound
      exact (hgivens given hgiven).eq_absent_of_gapAt? hv hgap
  rw [get?_bindings hv, hlast, hgap]
  cases (Given.lastTextFor? formatters v givens).or
      (PathBinding.positionText? formatters (Mapping.parse raw).vars classLevel v) with
  | none => rfl
  | some text => rfl

end Slot

end Signpost
