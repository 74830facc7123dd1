import Signpost.Proofs.Mapping.Constraint

/-!
# Clean mappings

A clean mapping is one that a clean-up leaves as it is. It is normal, and no colon in it begins a
constraint: inside one brace only there are colons in placeholders alone. What a clean-up puts out
is clean, and it has the placeholders of the mapping that was read.

## Main definitions

* `Mapping.InPlaceholder`: a text that ends inside a placeholder.
* `Mapping.IsClean`: a mapping without empty segments, slashes at its end and constraints.
* `Mapping.placeholders`: the placeholders of a mapping that are outside braces.

## Main results

* `Mapping.Cleaner.Mirrors.step_cases`: what a clean-up does with a character.
* `Mapping.clean_eq_self_iff`: the clean mappings are those a clean-up does not change.
* `Mapping.placeholders_clean`: a clean-up keeps the placeholders.
* `Mapping.clean_normalForm`: what a clean-up makes of any mapping.
-/

namespace Signpost.Mapping

/-- The text ends inside a placeholder: an expression behind a dollar sign is left open. -/
def InPlaceholder (text : Text) : Prop :=
  ∃ before inside, text = before ++ '$' :: '{' :: inside ∧ Text.depthFrom 0 before = 0 ∧
    Text.StaysOpen 1 inside

/-- Behind `done`, colons of the text that are inside one brace are in placeholders. -/
def IsUnconstrained (done text : Text) : Prop :=
  ∀ front back, text = front ++ ':' :: back → Text.depthFrom 0 (done ++ front) = 1 →
    InPlaceholder (done ++ front)

/-- The mapping has no empty segment outside braces, no slash at its end unless it is a slash, and
no constraint. -/
structure IsClean (mapping : Text) : Prop extends IsNormal mapping where
  isUnconstrained : IsUnconstrained [] mapping

/-- The contents of the placeholders of a text, outside braces and closed, when the character in
front of the text is `last`. -/
def placeholdersFrom (last : Option Char) (text : Text) : List Text :=
  match text with
  | [] => []
  | c :: rest =>
    if c = '{' then
      match h : Text.closeBrace? rest with
      | some (content, after) =>
        have : after.length < rest.length := Text.length_lt_of_closeBrace? h
        if last = some '$' then content :: placeholdersFrom (some '}') after
        else placeholdersFrom (some '}') after
      | none => []
    else placeholdersFrom (some c) rest
termination_by text.length

/-- The contents of the placeholders of a mapping, outside braces and closed. -/
def placeholders (mapping : Text) : List Text :=
  placeholdersFrom none mapping

variable {cleaner next : Cleaner} {done text content : Text} {last : Option Char} {c : Char}

/-! ### Placeholders left open -/

theorem depthFrom_append_placeholder {before : Text} (h : Text.depthFrom 0 before = 0)
    (inside : Text) :
    Text.depthFrom 0 (before ++ '$' :: '{' :: inside) = Text.depthFrom 1 inside := by
  rw [Text.depthFrom_append, h]
  rfl

theorem InPlaceholder.pos_depthFrom (h : InPlaceholder text) : 0 < Text.depthFrom 0 text := by
  obtain ⟨before, inside, rfl, hbefore, hopen⟩ := h
  rw [depthFrom_append_placeholder hbefore]
  exact hopen inside (List.prefix_refl inside)

/-- A character leaves the placeholder open that was open before or begins one. -/
theorem inPlaceholder_concat_iff :
    InPlaceholder (done ++ [c]) ↔
      InPlaceholder done ∧ 0 < Text.depthFrom 0 (done ++ [c]) ∨
        c = '{' ∧ Text.depthFrom 0 done = 0 ∧ done.getLast? = some '$' := by
  constructor
  · intro h
    have hpos := h.pos_depthFrom
    obtain ⟨before, inside, heq, hbefore, hopen⟩ := h
    rcases List.eq_nil_or_concat' inside with rfl | ⟨inside, d, rfl⟩
    · right
      have hparts : done ++ [c] = (before ++ ['$']) ++ ['{'] := by
        rw [heq, List.append_assoc]
        rfl
      obtain ⟨rfl, hc⟩ := List.append_inj' hparts rfl
      refine ⟨(List.cons.inj hc).1, ?_, List.getLast?_concat⟩
      rw [Text.depthFrom_append, hbefore]
      rfl
    · left
      have hparts : done ++ [c] = (before ++ '$' :: '{' :: inside) ++ [d] := by
        rw [heq, List.append_assoc]
        rfl
      obtain ⟨rfl, -⟩ := List.append_inj' hparts rfl
      have hstays := hopen.of_isPrefix (List.prefix_append inside [d])
      exact ⟨⟨before, inside, rfl, hbefore, hstays⟩, hpos⟩
  · rintro (⟨⟨before, inside, rfl, hbefore, hopen⟩, hpos⟩ | ⟨rfl, hdepth, hlast⟩)
    · rw [List.append_assoc] at hpos ⊢
      refine ⟨before, inside ++ [c], rfl, hbefore, Text.StaysOpen.append_iff.mpr ⟨hopen, ?_⟩⟩
      have hwhole : 0 < Text.depthFrom 1 (inside ++ [c]) :=
        (depthFrom_append_placeholder hbefore (inside ++ [c])) ▸ hpos
      rw [Text.depthFrom_append] at hwhole
      exact Text.staysOpen_cons.mpr
        ⟨hopen inside (List.prefix_refl inside), Text.staysOpen_nil.mpr hwhole⟩
    · obtain ⟨before, rfl⟩ := List.getLast?_eq_some_iff.mp hlast
      refine ⟨before, [], by simp, ?_, Text.staysOpen_nil.mpr Nat.one_pos⟩
      rwa [Text.depthFrom_append, Text.depthFrom_cons,
        Text.depthAfter_of_ne (by decide) (by decide)] at hdepth

theorem isUnconstrained_nil (done : Text) : IsUnconstrained done [] :=
  fun front _ heq => absurd heq (by simp)

theorem isUnconstrained_cons_iff :
    IsUnconstrained done (c :: text) ↔
      (c = ':' → Text.depthFrom 0 done = 1 → InPlaceholder done) ∧
        IsUnconstrained (done ++ [c]) text := by
  constructor
  · refine fun h => ⟨fun hc => ?_, fun front back heq => ?_⟩
    · have hfirst := h [] text (by rw [hc]; rfl)
      rwa [List.append_nil] at hfirst
    · rw [List.append_assoc]
      exact h (c :: front) back (by rw [heq]; rfl)
  · rintro ⟨hfirst, hlater⟩ front back heq
    cases front with
    | nil =>
      rw [List.append_nil]
      exact hfirst (List.cons.inj heq).1
    | cons d front =>
      obtain ⟨rfl, hback⟩ := List.cons.inj heq
      rw [← List.singleton_append, ← List.append_assoc]
      exact hlater front back hback

theorem IsUnconstrained.of_isPrefix {front : Text} (h : IsUnconstrained done text)
    (hfront : front <+: text) : IsUnconstrained done front := by
  obtain ⟨more, rfl⟩ := hfront
  exact fun start back heq => h start (back ++ more) (by rw [heq, List.append_assoc]; rfl)

/-! ### What a clean-up does with a character -/

namespace Cleaner

/-- A clean-up that stands at `cleaner` has put out `done`, and the braces it counts belong to a
placeholder if `done` ends inside one. -/
structure Mirrors (cleaner : Cleaner) (done : Text) : Prop extends cleaner.Reflects done where
  placeholder : cleaner.inPlaceholder = true ↔ InPlaceholder done

theorem Mirrors.new : ({} : Cleaner).Mirrors [] where
  toReflects := Reflects.new
  placeholder := iff_of_false Bool.false_ne_true fun h => absurd h.pos_depthFrom (Nat.lt_irrefl 0)

namespace Mirrors

variable (h : cleaner.Mirrors done)

include h

/-- Outside all braces a clean-up knows of the last character alone. -/
theorem eq_outside (hdepth : cleaner.depth = 0) :
    cleaner = { last := done.getLast? } ∧ Text.depthFrom 0 done = 0 := by
  have hconstraint : cleaner.inConstraint = false := by
    by_contra hconstraint
    exact absurd (h.pos (eq_true_of_ne_false hconstraint)) (by omega)
  have hdone : Text.depthFrom 0 done = 0 := by rw [h.depth, hconstraint, hdepth]; rfl
  have hplaceholder : cleaner.inPlaceholder = false := by
    by_contra hplaceholder
    have hpos := (h.placeholder.mp (eq_true_of_ne_false hplaceholder)).pos_depthFrom
    omega
  refine ⟨?_, hdone⟩
  obtain ⟨depth, inConstraint, inPlaceholder, last⟩ := cleaner
  obtain rfl : last = done.getLast? := h.last
  obtain rfl : depth = 0 := hdepth
  obtain rfl : inConstraint = false := hconstraint
  obtain rfl : inPlaceholder = false := hplaceholder
  rfl

end Mirrors

/-- A clean-up that has put out `done` leaves a character out, which is a slash behind a slash or
belongs to a constraint. -/
structure Drops (cleaner : Cleaner) (done : Text) (c : Char) (next : Cleaner) : Prop where
  step : cleaner.step c = (next, false)
  mirrors : next.Mirrors done
  reason : cleaner.inConstraint = true ∨
    c = '/' ∧ Text.depthFrom 0 done = 0 ∧ done.getLast? = some '/' ∨
    c = ':' ∧ Text.depthFrom 0 done = 1 ∧ ¬InPlaceholder done

/-- A clean-up that has put out `done` puts a character out, which makes no empty segment and begins
no constraint. -/
structure Keeps (cleaner : Cleaner) (done : Text) (c : Char) (next : Cleaner) : Prop where
  step : cleaner.step c = (next, true)
  mirrors : next.Mirrors (done ++ [c])
  inConstraint : next.inConstraint = false
  slash : c = '/' → Text.depthFrom 0 done = 0 → done.getLast? ≠ some '/'
  colon : c = ':' → Text.depthFrom 0 done = 1 → InPlaceholder done

namespace Mirrors

variable (h : cleaner.Mirrors done)

include h

theorem drops (hstep : cleaner.step c = (next, false))
    (hplaceholder : next.inPlaceholder = cleaner.inPlaceholder)
    (hreason : cleaner.inConstraint = true ∨
      c = '/' ∧ Text.depthFrom 0 done = 0 ∧ done.getLast? = some '/' ∨
      c = ':' ∧ Text.depthFrom 0 done = 1 ∧ ¬InPlaceholder done) :
    cleaner.Drops done c next := by
  have hadvances := h.toReflects.advances c
  rw [Advances, hstep] at hadvances
  exact ⟨hstep, ⟨hadvances, hplaceholder ▸ h.placeholder⟩, hreason⟩

theorem keeps (hstep : cleaner.step c = (next, true)) (hconstraint : next.inConstraint = false)
    (hplaceholder : next.inPlaceholder = true ↔ InPlaceholder (done ++ [c]))
    (hcolon : c = ':' → Text.depthFrom 0 done = 1 → InPlaceholder done) :
    cleaner.Keeps done c next := by
  have hadvances := h.toReflects.advances c
  rw [Advances, hstep] at hadvances
  exact ⟨hstep, ⟨hadvances.1, hplaceholder⟩, hconstraint, hadvances.2, hcolon⟩

theorem step_cases_outside (c : Char) (hdepth : cleaner.depth = 0) :
    ∃ next, cleaner.Drops done c next ∨ cleaner.Keeps done c next := by
  obtain ⟨hcleaner, hdone⟩ := h.eq_outside hdepth
  have hnotColon : c = ':' → Text.depthFrom 0 done = 1 → InPlaceholder done := fun _ hone =>
    absurd (hone.symm.trans hdone) Nat.one_ne_zero
  by_cases hopen : c = '{'
  · subst hopen
    refine ⟨_, .inr (h.keeps (hcleaner ▸ step_open _) rfl ?_ hnotColon)⟩
    have hnotInside : ¬InPlaceholder done := fun hinside =>
      absurd hdone (Nat.ne_of_gt hinside.pos_depthFrom)
    rw [inPlaceholder_concat_iff, decide_eq_true_iff]
    simp [hnotInside, hdone]
  · by_cases hslash : c = '/' ∧ done.getLast? = some '/'
    · obtain ⟨rfl, hlast⟩ := hslash
      refine ⟨cleaner, .inl (h.drops ?_ rfl (.inr (.inl ⟨rfl, hdone, hlast⟩)))⟩
      rw [hcleaner, hlast]
      exact step_slash
    · have hstep : cleaner.step c = ({ last := some c }, true) := by
        rw [hcleaner]
        exact step_outside hopen fun hc hlast => hslash ⟨hc, hlast⟩
      refine ⟨_, .inr (h.keeps hstep rfl ?_ hnotColon)⟩
      have houtside : Text.depthFrom 0 (done ++ [c]) = 0 := by
        rw [Text.depthFrom_append, hdone, Text.depthFrom_cons, Text.depthAfter, if_neg hopen]
        exact ite_self 0
      exact iff_of_false Bool.false_ne_true fun hinside =>
        absurd houtside (Nat.ne_of_gt hinside.pos_depthFrom)

theorem step_cases_inside (c : Char) (hdepth : 0 < cleaner.depth) :
    ∃ next, cleaner.Drops done c next ∨ cleaner.Keeps done c next := by
  rcases Nat.eq_zero_or_pos (Text.depthAfter cleaner.depth c) with hclose | hnext
  · obtain ⟨opened, hopened⟩ := Nat.exists_eq_add_one_of_ne_zero (Nat.ne_of_gt hdepth)
    rw [hopened] at hclose
    obtain ⟨rfl, rfl⟩ := Text.eq_close_of_depthAfter_eq_zero hclose
    refine ⟨_, .inr (h.keeps (step_close hopened) rfl ?_ fun hc => absurd hc (by decide))⟩
    have houtside : Text.depthFrom 0 (done ++ ['}']) = 0 := by
      rw [Text.depthFrom_append, h.depth, hopened, ite_self]
      rfl
    exact iff_of_false Bool.false_ne_true fun hinside =>
      absurd houtside (Nat.ne_of_gt hinside.pos_depthFrom)
  · cases hconstraint : cleaner.inConstraint with
    | true =>
      have hstep := step_of_inConstraint hconstraint hdepth hnext
      exact ⟨_, .inl (h.drops hstep rfl (.inl hconstraint))⟩
    | false =>
      have hdone : Text.depthFrom 0 done = cleaner.depth := by rw [h.depth, hconstraint]; rfl
      by_cases hcolon : c = ':' ∧ cleaner.depth = 1 ∧ cleaner.inPlaceholder = false
      · obtain ⟨rfl, hone, hplaceholder⟩ := hcolon
        refine ⟨_, .inl (h.drops (step_colon hone hplaceholder) rfl (.inr (.inr ?_)))⟩
        refine ⟨rfl, hdone.trans hone, fun hinside => ?_⟩
        exact absurd (h.placeholder.mpr hinside) (hplaceholder ▸ Bool.false_ne_true)
      · refine ⟨_, .inr (h.keeps (step_inside hconstraint hdepth hnext hcolon) hconstraint ?_ ?_)⟩
        · have hwhole : 0 < Text.depthFrom 0 (done ++ [c]) := by
            rw [Text.depthFrom_append, hdone]
            exact hnext
          rw [inPlaceholder_concat_iff, h.placeholder]
          refine ⟨fun hinside => .inl ⟨hinside, hwhole⟩, ?_⟩
          rintro (⟨hinside, -⟩ | ⟨-, hzero, -⟩)
          · exact hinside
          · omega
        · intro hc hone
          refine h.placeholder.mp (eq_true_of_ne_false fun hplaceholder => ?_)
          exact hcolon ⟨hc, hdone.symm.trans hone, hplaceholder⟩

/-- A clean-up leaves a character out or puts it out. -/
theorem step_cases (c : Char) :
    ∃ next, cleaner.Drops done c next ∨ cleaner.Keeps done c next := by
  rcases Nat.eq_zero_or_pos cleaner.depth with hdepth | hdepth
  · exact h.step_cases_outside c hdepth
  · exact h.step_cases_inside c hdepth

end Mirrors

end Cleaner

/-! ### What a clean-up does with a mapping -/

/-- What a clean-up puts out has no constraint. -/
theorem isUnconstrained_cleanFrom (h : cleaner.Mirrors done) (text : Text) :
    IsUnconstrained done (cleanFrom cleaner text) := by
  induction text generalizing cleaner done with
  | nil => exact isUnconstrained_nil done
  | cons c text ih =>
    obtain ⟨next, hdrops | hkeeps⟩ := h.step_cases c
    · rw [cleanFrom_of_dropped hdrops.step]
      exact ih hdrops.mirrors
    · rw [cleanFrom_of_kept hkeeps.step, isUnconstrained_cons_iff]
      exact ⟨hkeeps.colon, ih hkeeps.mirrors⟩

/-- A clean-up keeps a text without empty segments and constraints. -/
theorem cleanFrom_eq_self (h : cleaner.Mirrors done) (hconstraint : cleaner.inConstraint = false)
    (happart : IsApart done text) (hunconstrained : IsUnconstrained done text) :
    cleanFrom cleaner text = text := by
  induction text generalizing cleaner done with
  | nil => rfl
  | cons c text ih =>
    rw [← List.singleton_append, isApart_append_iff, isApart_singleton_iff] at happart
    rw [isUnconstrained_cons_iff] at hunconstrained
    obtain ⟨next, hdrops | hkeeps⟩ := h.step_cases c
    · exfalso
      rcases hdrops.reason with hinside | ⟨hc, hdepth, hlast⟩ | ⟨hc, hdepth, hnot⟩
      · exact absurd (hinside.symm.trans hconstraint) (by decide)
      · exact happart.1 hc hdepth hlast
      · exact hnot (hunconstrained.1 hc hdepth)
    · rw [cleanFrom_of_kept hkeeps.step,
        ih hkeeps.mirrors hkeeps.inConstraint happart.2 hunconstrained.2]

theorem isClean_clean (mapping : Text) : IsClean (clean mapping) where
  toIsNormal := isNormal_clean mapping
  isUnconstrained :=
    (isUnconstrained_cleanFrom Cleaner.Mirrors.new mapping).of_isPrefix (dropEndSlashes_isPrefix _)

/-- **The clean mappings are those that a clean-up does not change.** -/
theorem clean_eq_self_iff {mapping : Text} : clean mapping = mapping ↔ IsClean mapping := by
  refine ⟨fun h => h ▸ isClean_clean mapping, fun h => ?_⟩
  rw [clean, cleanFrom_eq_self Cleaner.Mirrors.new rfl h.isApart h.isUnconstrained,
    dropEndSlashes_eq_self h.eq_slash]

/-! ### Placeholders -/

theorem placeholdersFrom_cons (hopen : c ≠ '{') (last : Option Char) (rest : Text) :
    placeholdersFrom last (c :: rest) = placeholdersFrom (some c) rest := by
  rw [placeholdersFrom, if_neg hopen]

theorem placeholdersFrom_open (h : Text.StaysOpen 1 text) (last : Option Char) :
    placeholdersFrom last ('{' :: text) = [] := by
  have hnone := Text.closeBrace?_eq_none_iff.mpr h
  rw [placeholdersFrom, if_pos rfl]
  split <;> simp_all

theorem placeholdersFrom_expression (h : Text.IsEnclosed content) (last : Option Char)
    (rest : Text) :
    placeholdersFrom last ('{' :: (content ++ '}' :: rest)) =
      if last = some '$' then content :: placeholdersFrom (some '}') rest
      else placeholdersFrom (some '}') rest := by
  have hsome := h.closeBrace?_append rest
  rw [placeholdersFrom, if_pos rfl]
  split <;> simp_all

/-- A character that is no brace adds no placeholder at the end. -/
theorem placeholdersFrom_concat (hopen : c ≠ '{') (hclose : c ≠ '}') (last : Option Char)
    (text : Text) : placeholdersFrom last (text ++ [c]) = placeholdersFrom last text := by
  fun_induction placeholdersFrom last text with
  | case1 last => rw [List.nil_append, placeholdersFrom_cons hopen, placeholdersFrom]
  | case2 rest content after hsome hshort ih =>
    obtain rfl := Text.eq_append_of_closeBrace? hsome
    rw [List.cons_append, List.append_assoc, List.cons_append,
      placeholdersFrom_expression (Text.isEnclosed_of_closeBrace? hsome), if_pos rfl, ih]
  | case3 last rest content after hsome hshort hlast ih =>
    obtain rfl := Text.eq_append_of_closeBrace? hsome
    rw [List.cons_append, List.append_assoc, List.cons_append,
      placeholdersFrom_expression (Text.isEnclosed_of_closeBrace? hsome), if_neg hlast, ih]
  | case4 last rest hnone =>
    have hrest := Text.closeBrace?_eq_none_iff.mp hnone
    refine placeholdersFrom_open (Text.StaysOpen.append_iff.mpr ⟨hrest, ?_⟩) last
    have hpos := hrest rest (List.prefix_refl rest)
    rw [Text.staysOpen_cons, Text.depthAfter_of_ne hopen hclose, Text.staysOpen_nil]
    exact ⟨hpos, hpos⟩
  | case5 last d rest hd ih => rw [List.cons_append, placeholdersFrom_cons hd, ih]

theorem placeholdersFrom_dropEndSlashes (last : Option Char) (text : Text) :
    placeholdersFrom last (dropEndSlashes text) = placeholdersFrom last text :=
  apply_dropEndSlashes (placeholdersFrom_concat (by decide) (by decide) last) text

/-- What a clean-up puts out of a mapping has the placeholders of the mapping. -/
theorem placeholdersFrom_cleanFrom (last : Option Char) (text : Text) :
    placeholdersFrom last (cleanFrom { last } text) = placeholdersFrom last text := by
  fun_induction placeholdersFrom last text with
  | case1 last => rw [cleanFrom, placeholdersFrom]
  | case2 rest content after hsome hshort ih =>
    -- behind a dollar sign the clean-up keeps the expression as it is
    have hcontent := Text.isEnclosed_of_closeBrace? hsome
    obtain rfl := Text.eq_append_of_closeBrace? hsome
    rw [cleanFrom_placeholder hcontent, placeholdersFrom_expression hcontent, if_pos rfl, ih]
  | case3 last rest content after hsome hshort hlast ih =>
    have hcontent := Text.isEnclosed_of_closeBrace? hsome
    obtain rfl := Text.eq_append_of_closeBrace? hsome
    rw [cleanFrom_expression hcontent hlast,
      placeholdersFrom_expression (IsEnclosed.withoutConstraint hcontent), if_neg hlast, ih]
  | case4 last rest hnone =>
    rw [cleanFrom_of_kept (Cleaner.step_open _)]
    refine placeholdersFrom_open (staysOpen_cleanFrom rfl ?_) last
    exact Text.closeBrace?_eq_none_iff.mp hnone
  | case5 last c rest hopen ih =>
    rw [cleanFrom_literal hopen]
    split
    · rename_i hslash
      obtain ⟨rfl, rfl⟩ := hslash
      exact ih
    · rw [placeholdersFrom_cons hopen, ih]

/-- **A clean-up keeps the placeholders outside braces**, in their order and as they are written. -/
theorem placeholders_clean (mapping : Text) :
    placeholders (clean mapping) = placeholders mapping := by
  rw [placeholders, clean, placeholdersFrom_dropEndSlashes]
  exact placeholdersFrom_cleanFrom none mapping

/-- **What a clean-up makes of any mapping.** A second clean-up changes nothing; there are no empty
segments, no slash at the end and no constraints; the placeholders are those of the mapping. -/
theorem clean_normalForm (mapping : Text) :
    clean (clean mapping) = clean mapping ∧ IsClean (clean mapping) ∧
      placeholders (clean mapping) = placeholders mapping :=
  ⟨clean_eq_self_iff.mpr (isClean_clean mapping), isClean_clean mapping,
    placeholders_clean mapping⟩

end Signpost.Mapping
