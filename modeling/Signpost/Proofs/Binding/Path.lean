import Signpost.Binding.Path
import Signpost.Proofs.Mapping.Expansion
import Signpost.Proofs.Template.Expansion

/-!
# What is bound to the variables of a path

Binding an argument changes what is bound under one key, that of the variable the argument is for.
A value replaces what was there, the lack of one fills a gap alone. Whatever is bound is text that
was encoded, possibly with slashes or commas between encoded parts, so that no other character with
a meaning in a URI enters a path through an argument.

## Main definitions

* `PathBinding.variableFor`: the variable that an argument of a given name is bound to.
* `PathBinding.Avoids`: bindings without a certain character.

## Main results

* `PathBinding.get?_bind`, `PathBinding.get?_complete`: what is bound under a key.
* `PathBinding.Avoids.notMem_expand`: a character that a path does not have.
-/

namespace Signpost.PathBinding

variable {formatters : Formatters} {mapping : Mapping} {values : PathBinding} {c : Char}

/-! ### Look-ups -/

theorem get?_insertNew (values : PathBinding) (key : Text) (substitution : Substitution)
    (query : Text) :
    (values.insertNew key substitution).get? query =
      (values.get? query).or (if query = key then some substitution else none) := by
  rw [insertNew]
  by_cases hquery : query = key
  · rw [if_pos hquery, hquery]
    cases h : values.get? key with
    | none => simp
    | some found => simp [h]
  · rw [if_neg hquery, Option.or_none]
    split
    · rfl
    · exact Table.get?_insert_of_ne values substitution hquery

/-- The variable that an argument of a given name is bound to: the one of that name, else an
ordinary one. -/
def variableFor (mapping : Mapping) (name : Text) : Mapping.Variable :=
  (mapping.find? name).getD { name }

theorem variableFor_name (mapping : Mapping) (name : Text) :
    (variableFor mapping name).name = name := by
  rw [variableFor]
  cases h : mapping.find? name with
  | none => rfl
  | some v => simpa using List.find?_some h

/-- Binding an argument changes the look-up of one key alone. -/
theorem get?_bind (formatters : Formatters) (mapping : Mapping) (values : PathBinding)
    (name : Text) (argument : Argument) (key : Text) :
    (values.bind formatters mapping name argument).get? key =
      if key = (variableFor mapping name).key then
        match text? formatters (variableFor mapping name) argument with
        | some text => some (.text text)
        | none => (values.get? key).or (some (variableFor mapping name).absent)
      else values.get? key := by
  rw [bind, ← variableFor]
  cases text? formatters (variableFor mapping name) argument with
  | some text => exact Table.get?_insert ..
  | none =>
    simp only [get?_insertNew]
    split
    · rfl
    · exact Option.or_none

/-- A variable without a value gets the substitution for an absent one. -/
theorem get?_complete (values : PathBinding) (mapping : Mapping) (key : Text) :
    (values.complete mapping).get? key =
      (values.get? key).or ((mapping.vars.find? (·.key = key)).map (·.absent)) := by
  rw [complete]
  induction mapping.vars generalizing values with
  | nil => simp
  | cons v vars ih =>
    rw [List.foldl_cons, ih, get?_insertNew, Option.or_assoc, List.find?_cons]
    by_cases hkey : v.key = key
    · simp [hkey]
    · simp [hkey, Ne.symm hkey]

/-- What holds without class-level arguments and is kept by each text that one of them binds holds
of all they bind. -/
theorem ofParameters_induction {p : PathBinding → Prop} {parameters : List Argument}
    (hempty : p [])
    (hinsert : ∀ (values : PathBinding) (v : Mapping.Variable) (argument : Argument) (text : Text),
      (v, argument) ∈ mapping.vars.zip parameters → text? formatters v argument = some text →
      p values → p (values.insert v.key (.text text))) :
    p (ofParameters formatters mapping parameters) := by
  refine List.foldlRecOn (mapping.vars.zip parameters) _ hempty ?_
  rintro values hvalues ⟨v, argument⟩ hpair
  cases htext : text? formatters v argument with
  | none => simpa only [htext] using hvalues
  | some text => simpa only [htext] using hinsert values v argument text hpair htext hvalues

/-- Class-level arguments bind nothing under a key whose variables they give no value. -/
theorem get?_ofParameters_eq_none {parameters : List Argument} {key : Text}
    (h : ∀ v argument, (v, argument) ∈ mapping.vars.zip parameters → v.key = key →
      text? formatters v argument = none) :
    (ofParameters formatters mapping parameters).get? key = none := by
  refine ofParameters_induction (p := fun values => values.get? key = none) rfl ?_
  intro values v argument text hpair htext hnone
  have hkey : key ≠ v.key := by
    rintro rfl
    have hno := h v argument hpair rfl
    rw [hno] at htext
    exact absurd htext (by simp)
  exact (Table.get?_insert_of_ne values _ hkey).trans hnone

/-! ### Characters that do not occur -/

/-- The character `c` occurs in nothing that is bound. -/
def Avoids (c : Char) (values : PathBinding) : Prop :=
  ∀ key text, values.get? key = some (.text text) → c ∉ text

/-- A reserved character other than a slash and a comma. -/
structure IsForeign (c : Char) : Prop where
  reserved : Percent.IsReserved c
  slash : c ≠ '/'
  comma : c ≠ ','

namespace IsForeign

theorem notMem_encode (hc : IsForeign c) (v : Mapping.Variable) (text : Text) :
    c ∉ encode v text := by
  rw [encode]
  split
  · exact Template.notMem_segmentPath hc.reserved hc.slash text
  · exact Percent.notMem_encode hc.reserved text

/-- A foreign character does not enter a path through an argument. -/
theorem notMem_of_text? (hc : IsForeign c) {v : Mapping.Variable} {argument : Argument}
    {text : Text} (h : text? formatters v argument = some text) : c ∉ text := by
  cases argument with
  | scalar value =>
    obtain rfl := Option.some_inj.mp h
    exact hc.notMem_encode v _
  | collection items =>
    obtain rfl := Option.some_inj.mp h
    split
    · exact hc.notMem_encode v _
    · exact Percent.notMem_join_encode hc.reserved hc.comma _
  | absent => exact absurd h (by simp [text?])
  | keyed entries => exact absurd h (by simp [text?])
  | body type => exact absurd h (by simp [text?])

end IsForeign

theorem Avoids.insert (h : values.Avoids c) (key : Text) {text : Text} (htext : c ∉ text) :
    Avoids c (values.insert key (.text text)) := by
  intro query found hfound
  rw [Table.get?_insert] at hfound
  split at hfound
  · obtain rfl : text = found := by simpa using hfound
    exact htext
  · exact h query found hfound

theorem notMem_of_absent {v : Mapping.Variable} {text : Text} (h : v.absent = .text text) :
    c ∉ text := by
  rw [Mapping.Variable.absent] at h
  split at h
  · obtain rfl : [] = text := by simpa using h
    exact List.not_mem_nil
  · exact absurd h (by simp)

theorem Avoids.insertNew (h : values.Avoids c) (v : Mapping.Variable) :
    (values.insertNew v.key v.absent).Avoids c := by
  intro query found hfound
  rw [get?_insertNew] at hfound
  rcases Option.or_eq_some_iff.mp hfound with hold | ⟨-, hnew⟩
  · exact h query found hold
  · split at hnew
    · exact notMem_of_absent (Option.some_inj.mp hnew)
    · exact absurd hnew (by simp)

theorem Avoids.bind (h : values.Avoids c) (hc : IsForeign c) (formatters : Formatters)
    (mapping : Mapping) (name : Text) (argument : Argument) :
    (values.bind formatters mapping name argument).Avoids c := by
  rw [PathBinding.bind, ← variableFor]
  split
  · rename_i text htext
    exact h.insert _ (hc.notMem_of_text? htext)
  · exact h.insertNew (variableFor mapping name)

theorem avoids_ofParameters (hc : IsForeign c) (formatters : Formatters) (mapping : Mapping)
    (parameters : List Argument) : (ofParameters formatters mapping parameters).Avoids c := by
  refine ofParameters_induction (fun _ _ h => absurd h (by simp [Table.get?])) ?_
  intro values v argument text _ htext hvalues
  exact hvalues.insert v.key (hc.notMem_of_text? htext)

theorem Avoids.complete (h : values.Avoids c) (mapping : Mapping) :
    (values.complete mapping).Avoids c := by
  intro key text htext
  rw [get?_complete] at htext
  rcases Option.or_eq_some_iff.mp htext with hold | ⟨-, hnew⟩
  · exact h key text hold
  · obtain ⟨v, -, habsent⟩ := Option.map_eq_some_iff.mp hnew
    exact notMem_of_absent habsent

/-- A path has no character that neither the mapping nor anything bound has, braces apart. -/
theorem Avoids.notMem_expand (h : values.Avoids c) (hmapping : mapping.Avoids c) (hopen : c ≠ '{')
    (hclose : c ≠ '}') : c ∉ values.expand mapping :=
  hmapping.notMem_expand hopen hclose (h.complete mapping)

end Signpost.PathBinding
