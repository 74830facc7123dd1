import Signpost.Proofs.Mapping.Clean

/-!
# Constraints inside an expression

A clean-up that stands inside braces keeps what it reads up to a colon that is inside one brace
only, and goes on behind the closing brace. A placeholder, which is an expression behind a dollar
sign, it keeps as it is.

## Main definitions

* `Mapping.withoutConstraint`: the content of a token up to its constraint.

## Main results

* `Mapping.cleanFrom_placeholder`: a clean-up keeps a placeholder.
* `Mapping.cleanFrom_expression`: a clean-up leaves the constraint of another expression out.
* `Mapping.IsEnclosed.withoutConstraint`: what it keeps of a content is one again.
* `Mapping.staysOpen_cleanFrom`: it closes no expression that is not closed.
-/

namespace Signpost.Mapping

variable {cleaner next : Cleaner} {depth deeper : Nat} {last : Option Char} {c : Char}
  {text content : Text}

/-! ### Steps -/

namespace Cleaner

/-- Behind the brace that closes an expression a clean-up stands outside all braces. -/
theorem step_close (hdepth : cleaner.depth = 1) :
    cleaner.step '}' = ({ last := some '}' }, true) := by
  simp [step, hdepth]

/-- Inside braces a clean-up counts them, and keeps what stands in no constraint. -/
theorem step_within (hdepth : 0 < cleaner.depth) (hnext : 0 < Text.depthAfter cleaner.depth c)
    (hcolon : cleaner.inConstraint = false →
      ¬(c = ':' ∧ cleaner.depth = 1 ∧ cleaner.inPlaceholder = false)) :
    cleaner.step c =
      if cleaner.inConstraint then
        ({ cleaner with depth := Text.depthAfter cleaner.depth c }, false)
      else ({ cleaner with depth := Text.depthAfter cleaner.depth c, last := some c }, true) := by
  have houtside : cleaner.depth ≠ 0 := Nat.ne_of_gt hdepth
  by_cases hopen : c = '{'
  · cases hconstraint : cleaner.inConstraint <;>
      simp [step, hopen, Text.depthAfter_open, hconstraint, houtside]
  · by_cases hclose : c = '}'
    · rw [hclose, Text.depthAfter_close] at hnext
      cases hconstraint : cleaner.inConstraint <;>
        simp [step, hclose, Text.depthAfter_close, hconstraint, hdepth, Nat.ne_of_gt hnext]
    · rw [Text.depthAfter_of_ne hopen hclose]
      cases hconstraint : cleaner.inConstraint with
      | false => simp [step, hopen, hclose, hconstraint, houtside, hcolon hconstraint]
      | true =>
        have hsame : { cleaner with inConstraint := true } = cleaner := by rw [← hconstraint]
        simp [step, hopen, hclose, hconstraint, houtside, hsame]

/-- Inside a constraint nothing is kept up to the closing brace. -/
theorem step_of_inConstraint (hconstraint : cleaner.inConstraint = true)
    (hdepth : 0 < cleaner.depth) (hnext : 0 < Text.depthAfter cleaner.depth c) :
    cleaner.step c = ({ cleaner with depth := Text.depthAfter cleaner.depth c }, false) := by
  rw [step_within hdepth hnext (by simp [hconstraint]), if_pos hconstraint]

/-- A colon inside one brace begins a constraint. -/
theorem step_colon (hdepth : cleaner.depth = 1) (hplaceholder : cleaner.inPlaceholder = false) :
    cleaner.step ':' = ({ cleaner with inConstraint := true }, false) := by
  simp [step, hdepth, hplaceholder]

/-- Other characters inside braces are kept. -/
theorem step_inside (hconstraint : cleaner.inConstraint = false) (hdepth : 0 < cleaner.depth)
    (hnext : 0 < Text.depthAfter cleaner.depth c)
    (hcolon : ¬(c = ':' ∧ cleaner.depth = 1 ∧ cleaner.inPlaceholder = false)) :
    cleaner.step c =
      ({ cleaner with depth := Text.depthAfter cleaner.depth c, last := some c }, true) := by
  rw [step_within hdepth hnext fun _ => hcolon, if_neg (by simp [hconstraint])]

/-- Outside all braces an opening brace begins an expression. -/
theorem step_open (last : Option Char) :
    ({ last } : Cleaner).step '{' =
      ({ depth := 1, inPlaceholder := decide (last = some '$'), last := some '{' }, true) := by
  simp [step]

/-- Outside all braces a slash behind a slash is left out. -/
theorem step_slash : ({ last := some '/' } : Cleaner).step '/' = ({ last := some '/' }, false) := by
  simp [step]

/-- Outside all braces other characters are kept. -/
theorem step_outside (hopen : c ≠ '{') (hslash : c = '/' → last ≠ some '/') :
    ({ last } : Cleaner).step c = ({ last := some c }, true) := by
  simp [step, hopen]
  grind

end Cleaner

/-! ### Outside all braces -/

/-- Outside all braces a clean-up leaves out slashes behind slashes and keeps what else opens no
brace. -/
theorem cleanFrom_literal {c : Char} (hopen : c ≠ '{') (last : Option Char) (rest : Text) :
    cleanFrom { last } (c :: rest) =
      if c = '/' ∧ last = some '/' then cleanFrom { last } rest
      else c :: cleanFrom { last := some c } rest := by
  split
  · rename_i hslash
    obtain ⟨rfl, rfl⟩ := hslash
    exact cleanFrom_of_dropped Cleaner.step_slash rest
  · rename_i hslash
    exact cleanFrom_of_kept (Cleaner.step_outside hopen fun hc hlast => hslash ⟨hc, hlast⟩) rest

/-! ### Expressions -/

/-- The text, which stands inside `depth` braces, up to its first colon inside one. -/
def withoutConstraintFrom (depth : Nat) : Text → Text
  | [] => []
  | c :: rest =>
    if c = ':' ∧ depth = 1 then []
    else c :: withoutConstraintFrom (Text.depthAfter depth c) rest

/-- The content of an expression without its constraint. -/
def withoutConstraint (content : Text) : Text :=
  withoutConstraintFrom 1 content

/-- A content is kept as it is or up to a colon. -/
theorem withoutConstraintFrom_cases (depth : Nat) (text : Text) :
    withoutConstraintFrom depth text = text ∨
      ∃ rest, text = withoutConstraintFrom depth text ++ ':' :: rest := by
  induction text generalizing depth with
  | nil => exact .inl rfl
  | cons c text ih =>
    rw [withoutConstraintFrom]
    split
    · rename_i hcolon
      exact .inr ⟨text, by rw [hcolon.1, List.nil_append]⟩
    · rcases ih (Text.depthAfter depth c) with hsame | ⟨rest, hrest⟩
      · exact .inl (congrArg (c :: ·) hsame)
      · exact .inr ⟨rest, congrArg (c :: ·) hrest⟩

theorem withoutConstraint_eq_self (h : ':' ∉ content) : withoutConstraint content = content := by
  rcases withoutConstraintFrom_cases 1 content with hsame | ⟨rest, hrest⟩
  · exact hsame
  · rw [hrest] at h
    exact absurd (List.mem_append_right _ List.mem_cons_self) h

theorem withoutConstraintFrom_isPrefix (depth : Nat) (text : Text) :
    withoutConstraintFrom depth text <+: text := by
  rcases withoutConstraintFrom_cases depth text with hsame | ⟨rest, hrest⟩
  · exact ⟨[], by rw [List.append_nil, hsame]⟩
  · exact ⟨':' :: rest, hrest.symm⟩

theorem withoutConstraint_isPrefix (content : Text) : withoutConstraint content <+: content :=
  withoutConstraintFrom_isPrefix 1 content

/-- Where the constraint begins one brace is open. -/
theorem depthFrom_withoutConstraintFrom (h : Text.depthFrom depth text = 1) :
    Text.depthFrom depth (withoutConstraintFrom depth text) = 1 := by
  induction text generalizing depth with
  | nil => exact h
  | cons c text ih =>
    rw [withoutConstraintFrom]
    split
    · rename_i hcolon
      exact hcolon.2
    · exact ih h

theorem IsEnclosed.withoutConstraint (h : Text.IsEnclosed content) :
    Text.IsEnclosed (Mapping.withoutConstraint content) where
  staysOpen := h.staysOpen.of_isPrefix (withoutConstraint_isPrefix content)
  depth := depthFrom_withoutConstraintFrom h.depth

/-- Inside a constraint a clean-up goes on to the brace that closes the expression. -/
theorem cleanFrom_of_inConstraint (hconstraint : cleaner.inConstraint = true)
    (hopen : Text.StaysOpen cleaner.depth text)
    (hdepth : Text.depthFrom cleaner.depth text = 1) (rest : Text) :
    cleanFrom cleaner (text ++ '}' :: rest) = '}' :: cleanFrom { last := some '}' } rest := by
  induction text generalizing cleaner with
  | nil => exact cleanFrom_of_kept (Cleaner.step_close hdepth) rest
  | cons c text ih =>
    obtain ⟨hpos, hlater⟩ := Text.staysOpen_cons.mp hopen
    have hnext := hlater [] List.nil_prefix
    rw [List.cons_append,
      cleanFrom_of_dropped (Cleaner.step_of_inConstraint hconstraint hpos hnext)]
    exact ih hconstraint hlater hdepth

/-- A clean-up keeps what it reads of a placeholder. -/
theorem cleanFrom_inPlaceholder (hconstraint : cleaner.inConstraint = false)
    (hplaceholder : cleaner.inPlaceholder = true) (hopen : Text.StaysOpen cleaner.depth text)
    (hdepth : Text.depthFrom cleaner.depth text = 1) (rest : Text) :
    cleanFrom cleaner (text ++ '}' :: rest) =
      text ++ '}' :: cleanFrom { last := some '}' } rest := by
  induction text generalizing cleaner with
  | nil => exact cleanFrom_of_kept (Cleaner.step_close hdepth) rest
  | cons c text ih =>
    obtain ⟨hpos, hlater⟩ := Text.staysOpen_cons.mp hopen
    have hnext := hlater [] List.nil_prefix
    rw [List.cons_append, cleanFrom_of_kept (Cleaner.step_inside hconstraint hpos hnext
      (by simp [hplaceholder])), List.cons_append]
    exact congrArg (c :: ·) (ih hconstraint hplaceholder hlater hdepth)

/-- A clean-up keeps what it reads of another expression up to the constraint. -/
theorem cleanFrom_inExpression (hconstraint : cleaner.inConstraint = false)
    (hplaceholder : cleaner.inPlaceholder = false) (hopen : Text.StaysOpen cleaner.depth text)
    (hdepth : Text.depthFrom cleaner.depth text = 1) (rest : Text) :
    cleanFrom cleaner (text ++ '}' :: rest) =
      withoutConstraintFrom cleaner.depth text ++ '}' :: cleanFrom { last := some '}' } rest := by
  induction text generalizing cleaner with
  | nil => exact cleanFrom_of_kept (Cleaner.step_close hdepth) rest
  | cons c text ih =>
    obtain ⟨hpos, hlater⟩ := Text.staysOpen_cons.mp hopen
    have hnext := hlater [] List.nil_prefix
    rw [withoutConstraintFrom, List.cons_append]
    split
    · rename_i hcolon
      obtain ⟨rfl, hone⟩ := hcolon
      rw [cleanFrom_of_dropped (Cleaner.step_colon hone hplaceholder), List.nil_append]
      refine cleanFrom_of_inConstraint ?_ ?_ ?_ rest
      · rfl
      · exact hlater
      · exact hdepth
    · rename_i hcolon
      rw [cleanFrom_of_kept (Cleaner.step_inside hconstraint hpos hnext (by grind)),
        List.cons_append]
      exact congrArg (c :: ·) (ih hconstraint hplaceholder hlater hdepth)

/-- **A clean-up keeps a placeholder.** -/
theorem cleanFrom_placeholder (h : Text.IsEnclosed content) (rest : Text) :
    cleanFrom { last := some '$' } ('{' :: (content ++ '}' :: rest)) =
      '{' :: (content ++ '}' :: cleanFrom { last := some '}' } rest) := by
  rw [cleanFrom_of_kept (Cleaner.step_open _)]
  exact congrArg _ (cleanFrom_inPlaceholder rfl rfl h.staysOpen h.depth rest)

/-- **A clean-up leaves the constraint of an expression out.** -/
theorem cleanFrom_expression (h : Text.IsEnclosed content) (hlast : last ≠ some '$')
    (rest : Text) :
    cleanFrom { last } ('{' :: (content ++ '}' :: rest)) =
      '{' :: (withoutConstraint content ++ '}' :: cleanFrom { last := some '}' } rest) := by
  rw [cleanFrom_of_kept (Cleaner.step_open _)]
  exact congrArg _ (cleanFrom_inExpression rfl (decide_eq_false hlast) h.staysOpen h.depth rest)

/-! ### Expressions that are not closed -/

/-- Of a constraint that is not closed nothing is kept. -/
theorem cleanFrom_eq_nil (hconstraint : cleaner.inConstraint = true)
    (hopen : Text.StaysOpen cleaner.depth text) : cleanFrom cleaner text = [] := by
  induction text generalizing cleaner with
  | nil => rfl
  | cons c text ih =>
    obtain ⟨hpos, hlater⟩ := Text.staysOpen_cons.mp hopen
    have hnext := hlater [] List.nil_prefix
    rw [cleanFrom_of_dropped (Cleaner.step_of_inConstraint hconstraint hpos hnext)]
    exact ih hconstraint hlater

/-- What is kept of an expression that is not closed does not close it. -/
theorem staysOpen_cleanFrom (hconstraint : cleaner.inConstraint = false)
    (hopen : Text.StaysOpen cleaner.depth text) :
    Text.StaysOpen cleaner.depth (cleanFrom cleaner text) := by
  induction text generalizing cleaner with
  | nil => exact hopen
  | cons c text ih =>
    obtain ⟨hpos, hlater⟩ := Text.staysOpen_cons.mp hopen
    have hnext := hlater [] List.nil_prefix
    by_cases hcolon : c = ':' ∧ cleaner.depth = 1 ∧ cleaner.inPlaceholder = false
    · obtain ⟨rfl, hone, hplaceholder⟩ := hcolon
      rw [cleanFrom_of_dropped (Cleaner.step_colon hone hplaceholder), cleanFrom_eq_nil]
      · exact Text.staysOpen_nil.mpr hpos
      · rfl
      · exact hlater
    · rw [cleanFrom_of_kept (Cleaner.step_inside hconstraint hpos hnext hcolon),
        Text.staysOpen_cons]
      exact ⟨hpos, ih hconstraint hlater⟩

end Signpost.Mapping
